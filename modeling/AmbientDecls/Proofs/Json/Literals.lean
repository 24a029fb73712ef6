import AmbientDecls.Json.Quoted
import AmbientDecls.Json.Reader

/-! String literals. What is written between quotes is printable ASCII, and reading gives the text back, whatever follows the
closing quote. -/

namespace AmbientDecls.Json

open Text

/-- Characters of ASCII that have a printed form. -/
def IsAscii (c : Char) : Prop := 32 ≤ c.toNat ∧ c.toNat < 127

instance (c : Char) : Decidable (IsAscii c) := inferInstanceAs (Decidable (_ ∧ _))

/-- A character is written as itself, by a letter behind a backslash, by one unit, or by two if it is past U+FFFF. -/
inductive Escaped : Char → List Char → Prop
  | letter {c l : Char} : letterEscape? l = some c → IsAscii l → Escaped c ['\\', l]
  | plain {c : Char} : c ≠ '"' → c ≠ '\\' → IsAscii c → Escaped c [c]
  | unit {c : Char} : c.toNat < 0x10000 → Escaped c (unitEscape c.toNat)
  | pair {c : Char} : 0x10000 ≤ c.toNat →
    Escaped c (unitEscape (surrogates c.toNat).1 ++ unitEscape (surrogates c.toNat).2)

theorem escaped_encodeChar (c : Char) : Escaped c (encodeChar c) := by
  have hletter : ∀ l d, letterEscape? l = some d → IsAscii l → c = d → Escaped c ['\\', l] :=
    fun l d hl hprint hc => .letter (hc ▸ hl) hprint
  unfold encodeChar
  split
  · exact hletter '"' '"' rfl (by decide) ‹_›
  split
  · exact hletter '\\' '\\' rfl (by decide) ‹_›
  split
  · exact hletter 'n' '\n' rfl (by decide) ‹_›
  split
  · exact hletter 'r' '\r' rfl (by decide) ‹_›
  split
  · exact hletter 't' '\t' rfl (by decide) ‹_›
  split
  · exact hletter 'f' '\x0c' rfl (by decide) ‹_›
  split
  · exact hletter 'b' '\x08' rfl (by decide) ‹_›
  split
  · exact .plain ‹_› ‹_› ‹_›
  split
  · exact .unit ‹_›
  · exact .pair (Nat.le_of_not_lt ‹_›)

section Ascii

theorem isAscii_hexDigit : ∀ d < 16, IsAscii (hexDigit d) := by decide

theorem isAscii_hexPadded (width n : Nat) : ∀ c ∈ hexPadded width n, IsAscii c := by
  induction width generalizing n with
  | zero => exact fun c hc => absurd hc List.not_mem_nil
  | succ width ih =>
    have hlast : IsAscii (hexDigit (n % 16)) := isAscii_hexDigit _ (Nat.mod_lt n (by decide))
    exact List.forall_mem_append.mpr ⟨ih (n / 16), List.forall_mem_singleton.mpr hlast⟩

theorem isAscii_unitEscape (n : Nat) : ∀ c ∈ unitEscape n, IsAscii c := by
  have hmark : ∀ c ∈ ['\\', 'u'], IsAscii c :=
    List.forall_mem_cons.mpr ⟨by decide, List.forall_mem_singleton.mpr (by decide)⟩
  exact List.forall_mem_append.mpr ⟨hmark, isAscii_hexPadded 4 n⟩

theorem Escaped.isAscii {c : Char} {s : List Char} (h : Escaped c s) : ∀ d ∈ s, IsAscii d := by
  cases h with
  | letter _ hl => exact List.forall_mem_cons.mpr ⟨by decide, List.forall_mem_singleton.mpr hl⟩
  | plain _ _ hc => exact List.forall_mem_singleton.mpr hc
  | unit _ => exact isAscii_unitEscape _
  | pair _ => exact List.forall_mem_append.mpr ⟨isAscii_unitEscape _, isAscii_unitEscape _⟩

theorem isAscii_encode (s : List Char) : ∀ c ∈ encode s, IsAscii c := by
  have hquote : ∀ c ∈ ['"'], IsAscii c := List.forall_mem_singleton.mpr (by decide)
  have hinside : ∀ c ∈ s.flatMap encodeChar, IsAscii c := by
    intro c hc
    obtain ⟨d, _, hc⟩ := List.mem_flatMap.mp hc
    exact (escaped_encodeChar d).isAscii c hc
  exact List.forall_mem_append.mpr ⟨List.forall_mem_cons.mpr ⟨by decide, hinside⟩, hquote⟩

end Ascii

section Reading

theorem hexValue?_hexDigit : ∀ d < 16, hexValue? (hexDigit d) = some d := by decide

theorem unit?_hexPadded {n : Nat} (h : n < 0x10000) (s : List Char) : unit? (hexPadded 4 n ++ s) = some (n, s) := by
  have hdigits : hexPadded 4 n = [hexDigit (n / 16 / 16 / 16 % 16), hexDigit (n / 16 / 16 % 16),
      hexDigit (n / 16 % 16), hexDigit (n % 16)] := rfl
  have hvalue : ∀ k, hexValue? (hexDigit (k % 16)) = some (k % 16) :=
    fun k => hexValue?_hexDigit _ (Nat.mod_lt k (by decide))
  have hsum : n / 16 / 16 / 16 % 16 * 4096 + n / 16 / 16 % 16 * 256 + n / 16 % 16 * 16 + n % 16 = n := by omega
  rw [hdigits]
  simp only [List.cons_append, List.nil_append, unit?, hvalue, Option.pure_def, Option.bind_eq_bind,
    Option.bind_some, hsum]

theorem escape?_letter {l c : Char} (h : letterEscape? l = some c) (s : List Char) : escape? (l :: s) = some (c, s) := by
  have hl : l ≠ 'u' := by
    rintro rfl
    cases h
  rw [escape?.eq_2 l s (fun heq => hl heq), h]
  rfl

/-- Halves of pairs are no characters. -/
theorem not_surrogate (c : Char) : isHighUnit c.toNat = false ∧ isLowUnit c.toNat = false := by
  have hvalid : c.toNat < 0xd800 ∨ (0xdfff < c.toNat ∧ c.toNat < 0x110000) := c.valid
  simp only [isHighUnit, isLowUnit, Bool.and_eq_false_iff, decide_eq_false_iff_not]
  omega

/-- A unit that is no half of a pair stands for its character, whatever follows. -/
theorem escape?_unit {c : Char} (h : c.toNat < 0x10000) (s : List Char) :
    escape? ('u' :: (hexPadded 4 c.toNat ++ s)) = some (c, s) := by
  obtain ⟨hhigh, hlow⟩ := not_surrogate c
  have hchar : unitChar c.toNat = c := by
    rw [unitChar, hhigh, hlow]
    exact Char.ofNat_toNat c
  rw [escape?, unit?_hexPadded h]
  simp only [Option.bind_eq_bind, Option.bind_some, hhigh, hchar]
  split <;> rfl

/-- Two units that are halves of a pair stand for one character. -/
theorem escape?_pair {c : Char} (h : 0x10000 ≤ c.toNat) (s : List Char) :
    escape? ('u' :: (hexPadded 4 (surrogates c.toNat).1 ++ unitEscape (surrogates c.toNat).2 ++ s)) = some (c, s) := by
  have hvalid : c.toNat < 0xd800 ∨ (0xdfff < c.toNat ∧ c.toNat < 0x110000) := c.valid
  obtain ⟨high, hhighUnit⟩ : ∃ n, (surrogates c.toNat).1 = n := ⟨_, rfl⟩
  obtain ⟨low, hlowUnit⟩ : ∃ n, (surrogates c.toNat).2 = n := ⟨_, rfl⟩
  rw [hhighUnit, hlowUnit]
  change 0xd800 + (c.toNat - 0x10000) / 0x400 = high at hhighUnit
  change 0xdc00 + (c.toNat - 0x10000) % 0x400 = low at hlowUnit
  have hhigh : isHighUnit high = true := by
    simp only [isHighUnit, Bool.and_eq_true, decide_eq_true_eq]
    omega
  have hlow : isLowUnit low = true := by
    simp only [isLowUnit, Bool.and_eq_true, decide_eq_true_eq]
    omega
  have hchar : pairChar high low = c := by
    have hsum : 0x10000 + (high - 0xd800) * 0x400 + (low - 0xdc00) = c.toNat := by omega
    rw [pairChar, hsum, Char.ofNat_toNat]
  rw [List.append_assoc, escape?, unit?_hexPadded (by omega)]
  simp only [unitEscape, List.cons_append, Option.bind_eq_bind, Option.bind_some, hhigh, if_true]
  rw [unit?_hexPadded (by omega)]
  simp only [Option.bind_some, hlow, if_true, hchar]
  rfl

/-- What a character is written as is read as that character, with one step of fuel. -/
theorem Escaped.stringBody_append {c : Char} {t : List Char} (h : Escaped c t) (fuel : Nat) (done s : List Char) :
    stringBody (fuel + 1) done (t ++ s) = stringBody fuel (c :: done) s := by
  have hescape : ∀ {u : List Char}, escape? u = some (c, s) →
      stringBody (fuel + 1) done ('\\' :: u) = stringBody fuel (c :: done) s := by
    intro u hu
    rw [stringBody, if_neg (by decide), if_pos rfl, hu]
  cases h with
  | letter hl _ => exact hescape (escape?_letter hl s)
  | plain hquote hslash hc =>
    have hcontrol : ¬ c.toNat < 32 := Nat.not_lt.mpr hc.1
    rw [List.singleton_append, stringBody, if_neg hquote, if_neg hslash, if_neg hcontrol]
  | unit hc => exact hescape (escape?_unit hc s)
  | pair hc =>
    refine hescape ?_
    rw [← escape?_pair hc s]
    simp [unitEscape]

theorem stringBody_encoded (s : List Char) {fuel : Nat} (hfuel : s.length < fuel) (done rest : List Char) :
    stringBody fuel done (s.flatMap encodeChar ++ '"' :: rest) = some (done.reverse ++ s, rest) := by
  induction s generalizing fuel done with
  | nil =>
    obtain ⟨fuel, rfl⟩ := Nat.exists_eq_succ_of_ne_zero (Nat.ne_zero_of_lt hfuel)
    rw [List.flatMap_nil, List.nil_append, stringBody, if_pos rfl, List.append_nil]
  | cons c s ih =>
    obtain ⟨fuel, rfl⟩ := Nat.exists_eq_succ_of_ne_zero (Nat.ne_zero_of_lt hfuel)
    rw [List.flatMap_cons, List.append_assoc, (escaped_encodeChar c).stringBody_append,
      ih (Nat.lt_of_succ_lt_succ hfuel), List.reverse_cons, List.append_assoc]
    rfl

theorem Escaped.length_pos {c : Char} {t : List Char} (h : Escaped c t) : 0 < t.length := by
  cases h <;> simp [unitEscape]

theorem length_le_encoded (s : List Char) : s.length ≤ (s.flatMap encodeChar).length := by
  induction s with
  | nil => exact Nat.le_refl 0
  | cons c s ih =>
    have hc : 0 < (encodeChar c).length := (escaped_encodeChar c).length_pos
    rw [List.flatMap_cons, List.length_append, List.length_cons]
    omega

theorem string?_encoded (s rest : List Char) {fuel : Nat} (hfuel : s.length < fuel) :
    string? fuel (s.flatMap encodeChar ++ '"' :: rest) = some (String.ofList s, rest) := by
  rw [string?, stringBody_encoded s hfuel]
  rfl

/-- A string literal is a document of its own, and it is read as the text that was written. -/
theorem ofText_encode (s : List Char) : ofText (String.ofList (encode s)) = .ok (.text (String.ofList s)) := by
  have hlength : s.length < 2 * (encode s).length + 1 := by
    have hinside := length_le_encoded s
    rw [encode, List.length_append, List.length_cons]
    omega
  have hvalue : value (2 * (encode s).length + 1 + 1) depthLimit (encode s) = .ok (.text (String.ofList s), []) := by
    have hskip : skipSpace (encode s) = '"' :: (s.flatMap encodeChar ++ ['"']) := rfl
    rw [value, hskip]
    simp only [string?_encoded s [] hlength]
    rfl
  rw [ofText, String.toList_ofList, read, hvalue]
  rfl

end Reading
end AmbientDecls.Json
