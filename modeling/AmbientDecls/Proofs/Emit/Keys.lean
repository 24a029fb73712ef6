import AmbientDecls.Emit.Declaration
import AmbientDecls.Proofs.Json.Literals
import AmbientDecls.Proofs.Text.Lines

/-! Names as keys of declarations. A key is one line of printable ASCII, from which the name is read back whatever stands
behind it, so different names have different keys, and no key is broken where a block is moved to the right. -/

namespace AmbientDecls

open Text

section Identifiers

theorem inCodes_iff {low high : UInt32} {c : Char} :
    (decide (low ≤ c.val) && decide (c.val ≤ high)) = true ↔ low.toNat ≤ c.toNat ∧ c.toNat ≤ high.toNat := by
  rw [Bool.and_eq_true, decide_eq_true_iff, decide_eq_true_iff, UInt32.le_iff_toNat_le, UInt32.le_iff_toNat_le]
  rfl

theorem isDigit_iff {c : Char} : c.isDigit = true ↔ 48 ≤ c.toNat ∧ c.toNat ≤ 57 := inCodes_iff

theorem isAlpha_iff {c : Char} :
    c.isAlpha = true ↔ (65 ≤ c.toNat ∧ c.toNat ≤ 90) ∨ (97 ≤ c.toNat ∧ c.toNat ≤ 122) := by
  have hupper : c.isUpper = true ↔ 65 ≤ c.toNat ∧ c.toNat ≤ 90 :=
    decide_eq_true_iff.trans (and_congr UInt32.le_iff_toNat_le UInt32.le_iff_toNat_le)
  have hlower : c.isLower = true ↔ 97 ≤ c.toNat ∧ c.toNat ≤ 122 := inCodes_iff
  exact Bool.or_eq_true_iff.trans (or_congr hupper hlower)

def isIdentifierPart (c : Char) : Bool := isIdentifierStart c || c.isDigit

theorem isIdentifierPart_iff {c : Char} : isIdentifierPart c = true ↔ c.isAlphanum = true ∨ c = '$' ∨ c = '_' := by
  simp only [isIdentifierPart, isIdentifierStart, Char.isAlphanum, Bool.or_eq_true, beq_iff_eq]
  tauto

theorem isIdentifierStart_iff {c : Char} :
    isIdentifierStart c = true ↔ isIdentifierPart c = true ∧ c.isDigit = false := by
  have hdigit : isIdentifierStart c = true → c.isDigit = false := by
    intro hstart
    simp only [isIdentifierStart, Bool.or_eq_true, beq_iff_eq, isAlpha_iff] at hstart
    rw [← Bool.not_eq_true, isDigit_iff]
    rcases hstart with (hstart | rfl) | rfl
    · omega
    · decide
    · decide
  constructor
  · exact fun hstart => ⟨Bool.or_eq_true_iff.mpr (Or.inl hstart), hdigit hstart⟩
  · rintro ⟨hpart, hno⟩
    rcases Bool.or_eq_true_iff.mp hpart with hstart | hyes
    · exact hstart
    · rw [hyes] at hno
      cases hno

theorem isIdentifier_cons_iff {c : Char} {s : List Char} :
    isIdentifier (c :: s) = true ↔ isIdentifierStart c = true ∧ ∀ d ∈ s, isIdentifierPart d = true := by
  unfold isIdentifier
  rw [Bool.and_eq_true, List.all_eq_true]
  rfl

/-- Plain identifiers consist of letters, digits, dollar signs and underscores of ASCII, and no digit comes first. -/
theorem isIdentifier_iff {s : List Char} : isIdentifier s = true ↔
    s ≠ [] ∧ (∀ c ∈ s, c.isAlphanum = true ∨ c = '$' ∨ c = '_') ∧ ∀ c ∈ s.head?, c.isDigit = false := by
  cases s with
  | nil => simp [isIdentifier]
  | cons c s =>
    have hhead : (∀ d ∈ (c :: s).head?, d.isDigit = false) ↔ c.isDigit = false := by simp
    simp only [← isIdentifierPart_iff, isIdentifier_cons_iff, isIdentifierStart_iff, List.forall_mem_cons, hhead]
    rw [and_iff_right (List.cons_ne_nil c s), and_right_comm]

theorem isAscii_of_isIdentifierPart {c : Char} (h : isIdentifierPart c = true) : Json.IsAscii c := by
  rcases isIdentifierPart_iff.mp h with hc | rfl | rfl
  · rw [Char.isAlphanum, Bool.or_eq_true, isAlpha_iff, isDigit_iff] at hc
    unfold Json.IsAscii
    omega
  · decide
  · decide

end Identifiers

/-- A name is its own key, or its key is a string literal. -/
theorem quoteProperty_cases (name : String) :
    (isIdentifier name.toList = true ∧ quoteProperty name = name) ∨
    (isIdentifier name.toList = false ∧ (quoteProperty name).toList = Json.encode name.toList) := by
  unfold quoteProperty
  split
  · exact Or.inl ⟨‹_›, rfl⟩
  · exact Or.inr ⟨Bool.not_eq_true _ ▸ ‹_›, String.toList_ofList⟩

theorem isAscii_quoteProperty (name : String) : ∀ c ∈ (quoteProperty name).toList, Json.IsAscii c := by
  rcases quoteProperty_cases name with ⟨hplain, hkey⟩ | ⟨_, hkey⟩
  · rw [hkey]
    cases hs : name.toList with
    | nil => exact fun c hc => absurd hc List.not_mem_nil
    | cons c s =>
      rw [hs, isIdentifier_cons_iff] at hplain
      have hfirst := (isIdentifierStart_iff.mp hplain.1).1
      exact List.forall_mem_cons.mpr ⟨isAscii_of_isIdentifierPart hfirst,
        fun d hd => isAscii_of_isIdentifierPart (hplain.2 d hd)⟩
  · rw [hkey]
    exact Json.isAscii_encode _

/-- A literal is longer than the text that it stands for. -/
theorem quoteProperty_eq_self_iff {name : String} : quoteProperty name = name ↔ isIdentifier name.toList = true := by
  rcases quoteProperty_cases name with ⟨hplain, hkey⟩ | ⟨hplain, hkey⟩
  · exact iff_of_true hkey hplain
  · refine iff_of_false (fun heq => ?_) (Bool.eq_false_iff.mp hplain)
    have hlength := Json.length_le_encoded name.toList
    have hlonger := congrArg List.length hkey
    rw [heq, Json.encode, List.length_append, List.length_cons] at hlonger
    omega

/-- A key at the front of a text: what a string literal stands for, or all characters of identifiers that come first. -/
def readKey? (s : List Char) : Option (String × List Char) :=
  match s with
  | '"' :: t => Json.string? (t.length + 1) t
  | _ => some (String.ofList (s.takeWhile isIdentifierPart), s.dropWhile isIdentifierPart)

theorem readKey?_identifier {s after : List Char} (hs : isIdentifier s = true)
    (h : ∀ c ∈ after.head?, isIdentifierPart c = false) :
    readKey? (s ++ after) = some (String.ofList s, after) := by
  cases s with
  | nil => cases hs
  | cons c s =>
    obtain ⟨hstart, hrest⟩ := isIdentifier_cons_iff.mp hs
    have hparts : ∀ d ∈ c :: s, isIdentifierPart d = true :=
      List.forall_mem_cons.mpr ⟨(isIdentifierStart_iff.mp hstart).1, hrest⟩
    have hquote : ∀ t, c :: (s ++ after) ≠ '"' :: t := by
      intro t heq
      obtain ⟨rfl, _⟩ := List.cons.inj heq
      cases hstart
    have hstop : after.takeWhile isIdentifierPart = [] ∧ after.dropWhile isIdentifierPart = after := by
      cases after with
      | nil => exact ⟨rfl, rfl⟩
      | cons d after => simp [h d rfl]
    rw [List.cons_append, readKey?.eq_2 _ hquote, ← List.cons_append, List.takeWhile_append_of_pos hparts,
      List.dropWhile_append_of_pos hparts, hstop.1, hstop.2, List.append_nil]

theorem readKey?_literal (s after : List Char) :
    readKey? (Json.encode s ++ after) = some (String.ofList s, after) := by
  have hlength : s.length < (s.flatMap Json.encodeChar ++ '"' :: after).length + 1 := by
    have hinside := Json.length_le_encoded s
    rw [List.length_append]
    omega
  rw [Json.encode, List.append_assoc, List.cons_append, List.singleton_append, readKey?]
  exact Json.string?_encoded s after hlength

/-- What stands behind a key does not matter, if it does not go on like an identifier. -/
theorem readKey?_quoteProperty (name : String) {after : List Char} (h : ∀ c ∈ after.head?, isIdentifierPart c = false) :
    readKey? ((quoteProperty name).toList ++ after) = some (name, after) := by
  rcases quoteProperty_cases name with ⟨hplain, hkey⟩ | ⟨_, hkey⟩
  · rw [hkey, readKey?_identifier hplain h, String.ofList_toList]
  · rw [hkey, readKey?_literal, String.ofList_toList]

theorem quoteProperty_injective : Function.Injective quoteProperty := by
  intro a b heq
  have hnothing : ∀ c ∈ ([] : List Char).head?, isIdentifierPart c = false := by simp
  have ha := readKey?_quoteProperty a hnothing
  rw [heq, readKey?_quoteProperty b hnothing] at ha
  exact (congrArg Prod.fst (Option.some.inj ha)).symm

/-- No signature goes on like an identifier. -/
theorem Signature.head?_render (g : Signature) : ∀ c ∈ g.render.toList.head?, isIdentifierPart c = false := by
  cases g with
  | property optional type => cases optional <;> simp [render, String.toList_append, isIdentifierPart, isIdentifierStart]
  | method params returns => simp [render, String.toList_append, isIdentifierPart, isIdentifierStart]

/-- An option is written like a property. -/
theorem ConfigField.render_eq (f : ConfigField) :
    f.render = quoteProperty f.name ++ (Signature.property f.optional f.type).render := by
  simp only [ConfigField.render, Signature.render, String.append_assoc]

theorem unbroken_quoteProperty (name : String) : ∀ c ∈ (quoteProperty name).toList, isLineEnd c = false := by
  intro c hc
  obtain ⟨hlow, hhigh⟩ := isAscii_quoteProperty name c hc
  rw [← Bool.not_eq_true]
  simp only [isLineEnd, Bool.or_eq_true, Bool.and_eq_true, decide_eq_true_eq, beq_iff_eq]
  omega

theorem quoteProperty_ne_nil (name : String) : (quoteProperty name).toList ≠ [] := by
  rcases quoteProperty_cases name with ⟨hplain, hkey⟩ | ⟨_, hkey⟩
  · rw [hkey]
    exact (isIdentifier_iff.mp hplain).1
  · rw [hkey]
    exact List.cons_ne_nil _ _

/-- A name survives as a key: this is a line of printable ASCII, the name itself exactly if it is a plain identifier of ASCII,
and else a string literal that stands for it. So different names have different keys, the name of a member and of an option is
read back from their declarations, and a key stays whole in the line that is open before it when a block is moved to the
right. -/
theorem keys_read_back :
    (∀ name : String, let key := quoteProperty name
      (∀ c ∈ key.toList, Json.IsAscii c) ∧ lines key.toList = [key.toList] ∧
      (key = name ↔ name.toList ≠ [] ∧ (∀ c ∈ name.toList, c.isAlphanum = true ∨ c = '$' ∨ c = '_') ∧
        ∀ c ∈ name.toList.head?, c.isDigit = false) ∧
      (key ≠ name → (∃ inside, key.toList = '"' :: inside ++ ['"']) ∧ Json.ofText key = .ok (.text name))) ∧
    Function.Injective quoteProperty ∧
    (∀ d : MemberDecl, ∃ rest, d.render = d.doc ++ "\n" ++ (if d.isStatic then "static " else "") ++ rest ∧
      readKey? rest.toList = some (d.name, d.signature.render.toList)) ∧
    (∀ f : ConfigField, readKey? f.render.toList =
      some (f.name, (Signature.property f.optional f.type).render.toList)) ∧
    ∀ name before after : String, let key := (quoteProperty name).toList
      ∃ above x y below, openLines before.toList = above ++ [x] ∧ openLines after.toList = y :: below ∧
        lines (before ++ quoteProperty name ++ after).toList = above ++ (x ++ key ++ y) :: closed below ∧
        (indent (before ++ quoteProperty name ++ after)).toList = joined ['\n']
          (above.map (shifted "    ".toList) ++ ("    ".toList ++ (x ++ key ++ y)) ::
            (closed below).map (shifted "    ".toList)) := by
  refine ⟨fun name => ⟨isAscii_quoteProperty name,
    lines_of_unbroken (unbroken_quoteProperty name) (quoteProperty_ne_nil name),
    quoteProperty_eq_self_iff.trans isIdentifier_iff, fun hkey => ?_⟩, quoteProperty_injective, fun d => ?_,
    fun f => ?_, fun name before after => ?_⟩
  · rcases quoteProperty_cases name with ⟨_, hplain⟩ | ⟨_, hliteral⟩
    · exact absurd hplain hkey
    · have hread := Json.ofText_encode name.toList
      rw [← hliteral, String.ofList_toList, String.ofList_toList] at hread
      exact ⟨⟨_, hliteral⟩, hread⟩
  · refine ⟨quoteProperty d.name ++ d.signature.render, String.append_assoc, ?_⟩
    rw [String.toList_append]
    exact readKey?_quoteProperty d.name d.signature.head?_render
  · rw [f.render_eq, String.toList_append]
    exact readKey?_quoteProperty f.name (Signature.head?_render _)
  · obtain ⟨above, x, hbefore⟩ := (List.eq_nil_or_concat' _).resolve_left (openLines_ne_nil before.toList)
    obtain ⟨y, below, hafter⟩ := List.exists_cons_of_ne_nil (openLines_ne_nil after.toList)
    have hunbroken := unbroken_quoteProperty name
    have hne := quoteProperty_ne_nil name
    rw [indent, String.toList_ofList, String.toList_append, String.toList_append]
    exact ⟨above, x, y, below, hbefore, hafter, lines_around hunbroken hne hbefore hafter,
      indented_around hunbroken hne hbefore hafter _⟩

end AmbientDecls
