import AmbientDecls.Files.Output
import AmbientDecls.Proofs.Text.Pairs

/-! Version names as file names. Pairs of dots go before the characters that are not safe, so dots between which nothing is
kept stand side by side afterwards. What was made safe twice has no such dots, and it stays as it is. -/

namespace AmbientDecls

namespace Output

open Text

theorem safeName_safe (name : String) : ∀ c ∈ (safeName name).toList, isSafe c = true := by
  unfold safeName
  simp only
  split
  · simp [unnamed, isSafe, Text.isWordChar]
  · rw [String.toList_ofList]
    exact fun c hc => (List.mem_filter.mp hc).2

/-- A name is more than dots. -/
theorem safeName_filled (name : String) : ∃ c ∈ (safeName name).toList, c ≠ '.' := by
  unfold safeName
  simp only
  split
  · exact ⟨'_', by decide +kernel, by decide⟩
  · rename_i hdots
    rw [String.toList_ofList]
    simpa [and_assoc] using hdots

theorem safeName_slash (name : String) : '/' ∉ (safeName name).toList := by
  have hsafe : isSafe '/' = false := by simp [isSafe, Text.isWordChar_slash]
  intro hmem
  rw [safeName_safe name _ hmem] at hsafe
  cases hsafe

/-- A text of dots is no name. -/
theorem safeName_ne {s : String} (h : ∀ c ∈ s.toList, c = '.') (name : String) : safeName name ≠ s := by
  rintro rfl
  obtain ⟨c, hc, hdot⟩ := safeName_filled name
  exact hdot (h c hc)

theorem safeName_named (name : String) : safeName name ≠ "" ∧ safeName name ≠ "." :=
  ⟨safeName_ne (by simp) name, safeName_ne (by simp) name⟩

/-- How a character is written in a file name. -/
def hyphened (c : Char) : Char := if c = '/' then '-' else c

/-- Characters that do not go: a slash is kept as a hyphen. -/
def isKept (c : Char) : Bool := isSafe c || c == '/'

/-- What is kept of a version name. -/
def kept (s : List Char) : List Char := (replacePair '.' '.' [] s).filter isKept

theorem hyphened_eq_dot_iff (c : Char) : hyphened c = '.' ↔ c = '.' := by
  unfold hyphened
  split
  · rename_i hc
    rw [hc]
    decide
  · rfl

theorem isSafe_hyphened (c : Char) : isSafe (hyphened c) = isKept c := by
  unfold hyphened isKept
  split
  · rename_i hc
    rw [hc]
    decide
  · rename_i hc
    rw [beq_false_of_ne hc, Bool.or_false]

theorem safeName_eq (name : String) : safeName name =
    if (kept name.toList).all (· == '.') then unnamed else String.ofList ((kept name.toList).map hyphened) := by
  have hkept : (replacePair '.' '.' [] (name.toList.map hyphened)).filter isSafe =
      (kept name.toList).map hyphened := by
    have hsafe : isSafe ∘ hyphened = isKept := funext isSafe_hyphened
    rw [replacePair_map hyphened_eq_dot_iff hyphened_eq_dot_iff, List.filter_map, hsafe, kept]
  have hdots : ((kept name.toList).map hyphened).all (· == '.') = (kept name.toList).all (· == '.') := by
    rw [List.all_map]
    refine congrArg (List.all (kept name.toList)) (funext fun c => ?_)
    rw [Function.comp_apply, Bool.eq_iff_iff, beq_iff_eq, beq_iff_eq, hyphened_eq_dot_iff]
  have hname : safeName name =
      if ((replacePair '.' '.' [] (name.toList.map hyphened)).filter isSafe).all (· == '.') then unnamed
      else String.ofList ((replacePair '.' '.' [] (name.toList.map hyphened)).filter isSafe) := rfl
  rw [hname, hkept, hdots]

/-- Texts of which nothing is kept: pairs of dots and characters that are not safe. -/
inductive Vanishes : List Char → Prop
  | nil : Vanishes []
  | skip {c : Char} {s : List Char} : isKept c = false → Vanishes s → Vanishes (c :: s)
  | pair {s : List Char} : Vanishes s → Vanishes ('.' :: '.' :: s)

theorem ne_dot_of_not_kept {c : Char} (h : isKept c = false) : c ≠ '.' := by
  rintro rfl
  cases h

theorem vanishes_iff {s : List Char} : Vanishes s ↔ ∀ c ∈ replacePair '.' '.' [] s, isKept c = false := by
  constructor
  · intro h
    induction h with
    | nil => exact fun c hc => absurd hc List.not_mem_nil
    | skip hc _ ih =>
      rw [replacePair_cons_of_ne (ne_dot_of_not_kept hc)]
      exact List.forall_mem_cons.mpr ⟨hc, ih⟩
    | pair _ ih => exact ih
  · intro h
    fun_induction replacePair '.' '.' [] s with
    | case1 x y s hpair ih =>
      obtain ⟨rfl, rfl⟩ := hpair
      exact .pair (ih h)
    | case2 x y s hpair ih =>
      obtain ⟨hx, hrest⟩ := List.forall_mem_cons.mp h
      exact .skip hx (ih hrest)
    | case3 s hshort =>
      obtain rfl | ⟨x, rfl⟩ := short_cases hshort
      · exact .nil
      · exact .skip (h x (List.mem_singleton_self x)) .nil

/-- An odd run of dots. -/
def oddDots (n : Nat) : List Char := List.replicate (2 * n + 1) '.'

theorem oddDots_succ (n : Nat) : oddDots (n + 1) = '.' :: '.' :: oddDots n := rfl

theorem replacePair_oddDots (n : Nat) : replacePair '.' '.' [] (oddDots n) = ['.'] := by
  induction n with
  | zero => rfl
  | succ n ih =>
    rw [oddDots_succ, replacePair, if_pos ⟨rfl, rfl⟩, ih]
    rfl

theorem replacePair_around {front back : List Char} (n : Nat) (hfront : front.getLast? ≠ some '.')
    (hback : back.head? ≠ some '.') : replacePair '.' '.' [] (front ++ oddDots n ++ back) =
      replacePair '.' '.' [] front ++ '.' :: replacePair '.' '.' [] back := by
  rw [replacePair_append fun hborder => hback hborder.2, replacePair_append fun hborder => hfront hborder.1,
    replacePair_oddDots, List.append_assoc]
  rfl

/-- A dot is left over from an odd run of dots only. -/
theorem exists_oddDots {s before after : List Char} (h : replacePair '.' '.' [] s = before ++ '.' :: after) :
    ∃ front n back, s = front ++ oddDots n ++ back ∧ front.getLast? ≠ some '.' ∧ back.head? ≠ some '.' ∧
      replacePair '.' '.' [] front = before ∧ replacePair '.' '.' [] back = after := by
  fun_induction replacePair '.' '.' [] s generalizing before with
  | case1 x y s hpair ih =>
    obtain ⟨rfl, rfl⟩ := hpair
    obtain ⟨front, n, back, rfl, hfront, hback, hbefore, hafter⟩ := ih h
    -- The dropped pair belongs to the run, if the run is what comes next.
    cases front with
    | nil => exact ⟨[], n + 1, back, rfl, hfront, hback, hbefore, hafter⟩
    | cons c front => exact ⟨'.' :: '.' :: c :: front, n, back, rfl, by simpa using hfront, hback, hbefore, hafter⟩
  | case2 x y s hpair ih =>
    cases before with
    | nil =>
      obtain ⟨rfl, rfl⟩ := List.cons.inj h
      exact ⟨[], 0, y :: s, rfl, by simp, fun hy => hpair ⟨rfl, Option.some.inj hy⟩, rfl, rfl⟩
    | cons c before =>
      obtain ⟨rfl, hrest⟩ := List.cons.inj h
      obtain ⟨front, n, back, hs, hfront, hback, rfl, hafter⟩ := ih hrest
      refine ⟨x :: front, n, back, by rw [hs]; rfl, ?_, hback, ?_, hafter⟩
      · cases front with
        | nil =>
          obtain ⟨rfl, _⟩ := List.cons.inj hs
          exact fun hx => hpair ⟨Option.some.inj hx, rfl⟩
        | cons z front => rwa [List.getLast?_cons_cons]
      · cases front with
        | nil => rfl
        | cons z front =>
          obtain ⟨rfl, _⟩ := List.cons.inj hs
          rw [replacePair, if_neg hpair]
  | case3 s hshort =>
    obtain rfl | ⟨x, rfl⟩ := short_cases hshort
    · simp at h
    · obtain ⟨rfl, rfl, rfl⟩ : before = [] ∧ x = '.' ∧ after = [] := by
        cases before with
        | nil => simpa [eq_comm] using h
        | cons c before => simp at h
      exact ⟨[], 0, [], rfl, by simp, by simp, rfl, rfl⟩

/-- Two odd runs of dots, with a text between them of which nothing is kept. -/
def DotsMeet (s : List Char) : Prop :=
  ∃ front m gap n back, s = front ++ oddDots m ++ gap ++ oddDots n ++ back ∧
    front.getLast? ≠ some '.' ∧ back.head? ≠ some '.' ∧
    gap ≠ [] ∧ gap.head? ≠ some '.' ∧ gap.getLast? ≠ some '.' ∧ Vanishes gap

theorem pair_infix_kept_iff {s : List Char} : ['.', '.'] <:+: kept s ↔ DotsMeet s := by
  rw [kept, pair_infix_filter_iff (by decide) (by decide)]
  constructor
  · rintro ⟨before, between, after, hsplit, hbetween⟩
    obtain ⟨front, m, rest, rfl, hfront, hrest, _, hreplaced⟩ := exists_oddDots hsplit
    obtain ⟨gap, n, back, rfl, hlast, hback, rfl, _⟩ := exists_oddDots hreplaced
    have hvanishes : Vanishes gap := vanishes_iff.mpr hbetween
    cases gap with
    | nil => exact absurd rfl hrest
    | cons c gap =>
      have hsame : front ++ oddDots m ++ (c :: gap ++ oddDots n ++ back) =
          front ++ oddDots m ++ (c :: gap) ++ oddDots n ++ back := by simp
      exact ⟨front, m, c :: gap, n, back, hsame, hfront, hback, List.cons_ne_nil c gap, hrest, hlast, hvanishes⟩
  · rintro ⟨front, m, gap, n, back, rfl, hfront, hback, hne, hfirst, hlast, hvanishes⟩
    have hrest : (gap ++ oddDots n ++ back).head? ≠ some '.' := by
      obtain ⟨c, gap, rfl⟩ := List.exists_cons_of_ne_nil hne
      exact hfirst
    refine ⟨replacePair '.' '.' [] front, replacePair '.' '.' [] gap, replacePair '.' '.' [] back, ?_,
      vanishes_iff.mp hvanishes⟩
    calc replacePair '.' '.' [] (front ++ oddDots m ++ gap ++ oddDots n ++ back)
        = replacePair '.' '.' [] (front ++ oddDots m ++ (gap ++ oddDots n ++ back)) := by simp
      _ = replacePair '.' '.' [] front ++ '.' :: replacePair '.' '.' [] (gap ++ oddDots n ++ back) :=
        replacePair_around m hfront hrest
      _ = replacePair '.' '.' [] front ++ '.' :: (replacePair '.' '.' [] gap ++ '.' :: replacePair '.' '.' [] back) := by
        rw [replacePair_around n hlast hback]

theorem exists_kept_iff {s : List Char} : (∃ c ∈ kept s, c ≠ '.') ↔ ∃ c ∈ s, isKept c = true ∧ c ≠ '.' := by
  constructor
  · rintro ⟨c, hc, hdot⟩
    obtain ⟨hmem, hkept⟩ := List.mem_filter.mp hc
    rcases mem_of_mem_replacePair hmem with hmem | hmem
    · cases hmem
    · exact ⟨c, hmem, hkept, hdot⟩
  · rintro ⟨c, hc, hkept, hdot⟩
    exact ⟨c, List.mem_filter.mpr ⟨mem_replacePair hdot hdot hc, hkept⟩, hdot⟩

theorem all_kept_iff {s : List Char} :
    (kept s).all (· == '.') = true ↔ ¬ ∃ c ∈ s, isKept c = true ∧ c ≠ '.' := by
  rw [← exists_kept_iff, List.all_eq_true]
  simp

/-- Adjacent dots come up from dots that meet, unless nothing but dots is kept. -/
theorem pair_infix_safeName_iff (name : String) : ['.', '.'] <:+: (safeName name).toList ↔
    DotsMeet name.toList ∧ ∃ c ∈ name.toList, isKept c = true ∧ c ≠ '.' := by
  rw [safeName_eq]
  split
  · rename_i hdots
    have hunnamed : ¬ ['.', '.'] <:+: unnamed.toList := by decide +kernel
    exact iff_of_false hunnamed fun h => all_kept_iff.mp hdots h.2
  · rename_i hdots
    have hfilled : ∃ c ∈ name.toList, isKept c = true ∧ c ≠ '.' := not_not.mp fun h => hdots (all_kept_iff.mpr h)
    rw [String.toList_ofList, pair_infix_map_iff hyphened_eq_dot_iff hyphened_eq_dot_iff, pair_infix_kept_iff]
    exact (and_iff_left hfilled).symm

section Safe

variable {s : String} (hsafe : ∀ c ∈ s.toList, isSafe c = true)

include hsafe

/-- Where all is safe nothing goes between dots. -/
theorem not_dotsMeet_of_safe : ¬ DotsMeet s.toList := by
  rintro ⟨front, m, gap, n, back, hs, _, _, hne, hfirst, _, hvanishes⟩
  cases hvanishes with
  | nil => exact hne rfl
  | @skip c gap hc _ =>
    have hmem : c ∈ s.toList := by simp [hs]
    rw [isKept, hsafe c hmem] at hc
    cases hc
  | pair _ => exact hfirst rfl

theorem not_pair_safeName_of_safe : ¬ ['.', '.'] <:+: (safeName s).toList :=
  fun h => not_dotsMeet_of_safe hsafe ((pair_infix_safeName_iff s).mp h).1

theorem safeName_eq_self (hfilled : ∃ c ∈ s.toList, c ≠ '.') (hpair : ¬ ['.', '.'] <:+: s.toList) :
    safeName s = s := by
  have hall : ∀ c ∈ s.toList, isKept c = true := fun c hc => Bool.or_eq_true_iff.mpr (Or.inl (hsafe c hc))
  have hkept : kept s.toList = s.toList := by
    rw [kept, replacePair_eq_self hpair, List.filter_eq_self.mpr hall]
  have hnamed : ¬ (kept s.toList).all (· == '.') = true := by
    obtain ⟨c, hc, hdot⟩ := hfilled
    exact fun hdots => all_kept_iff.mp hdots ⟨c, hc, hall c hc, hdot⟩
  have hwritten : s.toList.map hyphened = s.toList := by
    refine (List.map_congr_left fun c hc => ?_).trans (List.map_id _)
    refine if_neg ?_
    rintro rfl
    have hslash := hsafe '/' hc
    simp [isSafe, Text.isWordChar_slash] at hslash
  rw [safeName_eq, if_neg hnamed, hkept, hwritten, String.ofList_toList]

end Safe

/-- A safe name has adjacent dots exactly if dots meet in the name and more than dots is kept of it, and exactly then it is
changed when it is made safe again. Made safe twice, it has none and stays as it is. -/
theorem adjacent_dots_iff (name : String) : let s := safeName name
    (['.', '.'] <:+: s.toList ↔ DotsMeet name.toList ∧ ∃ c ∈ name.toList, isKept c = true ∧ c ≠ '.') ∧
    (safeName s = s ↔ ¬ ['.', '.'] <:+: s.toList) ∧
    ¬ ['.', '.'] <:+: (safeName s).toList ∧ safeName (safeName s) = safeName s := by
  intro s
  have htwice : ¬ ['.', '.'] <:+: (safeName s).toList := not_pair_safeName_of_safe (safeName_safe name)
  refine ⟨pair_infix_safeName_iff name, ⟨fun heq => ?_, fun hpair => ?_⟩, htwice, ?_⟩
  · rwa [heq] at htwice
  · exact safeName_eq_self (safeName_safe name) (safeName_filled name) hpair
  · exact safeName_eq_self (safeName_safe s) (safeName_filled s) htwice

/-- Dots that are kept apart by an unsafe character only. -/
theorem adjacent_dots_left : safeName "a.!.b" = "a..b" ∧ ['.', '.'] <:+: (safeName "a.!.b").toList ∧
    safeName (safeName "a.!.b") = "ab" := by
  decide +kernel

end Output
end AmbientDecls
