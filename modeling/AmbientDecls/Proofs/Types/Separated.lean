import AmbientDecls.Proofs.Types.Alternative

/-! Alternatives between separators. Texts without separators are the pieces of what they are joined to, an alternative that is
written out is read again, and what is joined at a separator has the alternatives of both sides. -/

namespace AmbientDecls

namespace Text

variable {p : Char → Bool} {sep : Char}

theorem pieces_intercalate (hsep : p sep = true) {texts : List (List Char)} (hne : texts ≠ [])
    (h : ∀ s ∈ texts, ∀ c ∈ s, p c = false) : pieces p ([sep].intercalate texts) = texts := by
  induction texts with
  | nil => exact absurd rfl hne
  | cons s texts ih =>
    have hs := h s (List.mem_cons_self ..)
    cases texts with
    | nil => rw [List.intercalate_singleton, pieces_eq_singleton hs]
    | cons t texts =>
      rw [List.intercalate_cons_cons, List.append_assoc, List.singleton_append,
        pieces_append_cons s _ hsep, pieces_eq_singleton hs, List.singleton_append,
        ih (List.cons_ne_nil t texts) fun u hu => h u (List.mem_cons_of_mem s hu)]

theorem mem_intercalate {c : Char} {texts : List (List Char)} (h : c ∈ [sep].intercalate texts) :
    c = sep ∨ ∃ s ∈ texts, c ∈ s := by
  induction texts with
  | nil => cases h
  | cons s texts ih =>
    cases texts with
    | nil =>
      rw [List.intercalate_singleton] at h
      exact Or.inr ⟨s, List.mem_cons_self .., h⟩
    | cons t texts =>
      rw [List.intercalate_cons_cons] at h
      rcases List.mem_append.mp h with h | h
      · rcases List.mem_append.mp h with h | h
        · exact Or.inr ⟨s, List.mem_cons_self .., h⟩
        · exact Or.inl (List.mem_singleton.mp h)
      · obtain hsep | ⟨u, hu, hc⟩ := ih h
        · exact Or.inl hsep
        · exact Or.inr ⟨u, List.mem_cons_of_mem s hu, hc⟩

theorem mem_intercalate_of_mem {c : Char} {s between : List Char} {texts : List (List Char)} (hs : s ∈ texts)
    (hc : c ∈ s) : c ∈ between.intercalate texts := by
  induction texts with
  | nil => cases hs
  | cons t texts ih =>
    cases texts with
    | nil =>
      rw [List.intercalate_singleton]
      exact List.mem_singleton.mp hs ▸ hc
    | cons u texts =>
      rw [List.intercalate_cons_cons]
      rcases List.mem_cons.mp hs with rfl | hs
      · exact List.mem_append_left _ (List.mem_append_left _ hc)
      · exact List.mem_append_right _ (ih hs)

theorem intercalate_append (separator : String) {texts more : List String} (htexts : texts ≠ [])
    (hmore : more ≠ []) : separator.intercalate (texts ++ more) =
      separator.intercalate texts ++ separator ++ separator.intercalate more := by
  induction texts with
  | nil => exact absurd rfl htexts
  | cons s texts ih =>
    cases texts with
    | nil =>
      obtain ⟨t, more, rfl⟩ := List.exists_cons_of_ne_nil hmore
      rw [List.singleton_append, String.intercalate_cons_cons, String.intercalate_singleton]
    | cons t texts =>
      rw [List.cons_append, List.cons_append, String.intercalate_cons_cons, ← List.cons_append,
        ih (List.cons_ne_nil t texts), String.intercalate_cons_cons]
      simp only [String.append_assoc]

end Text

namespace Slot

/-- An alternative as it is written: its array markers stand behind it. -/
def text (slot : Slot) : String := slot.base ++ brackets slot.depth

theorem countMarkers_reverse {base : List Char} (h : base.getLast? ≠ some ']') (depth : Nat) :
    countMarkers (base ++ (brackets depth).toList).reverse = depth := by
  induction depth with
  | zero =>
    have hhead : base.reverse.head? ≠ some ']' := by rwa [List.head?_reverse]
    rw [brackets, String.toList_empty, List.append_nil]
    unfold countMarkers
    split
    · rename_i hreverse
      rw [hreverse] at hhead
      exact absurd rfl hhead
    · rfl
  | succ depth ih =>
    rw [toList_brackets_succ, ← List.append_assoc, List.reverse_append]
    exact congrArg (· + 1) ih

theorem getLast?_brackets_succ (n : Nat) : (brackets (n + 1)).toList.getLast? = some ']' := by
  rw [toList_brackets_succ, List.getLast?_append]
  rfl

/-- A written alternative is read again, unless its name ends like a marker or with a line feed. -/
theorem ofText_append_brackets {base : List Char} (h : ∀ c ∈ base.getLast?, c ≠ ']' ∧ c ≠ '\n')
    (depth : Nat) : ofText (base ++ (brackets depth).toList) = ⟨String.ofList base, depth⟩ := by
  have hmarker : base.getLast? ≠ some ']' := fun heq => (h _ heq).1 rfl
  have hline : (base ++ (brackets depth).toList).getLast? ≠ some '\n' := by
    cases depth with
    | zero =>
      rw [brackets, String.toList_empty, List.append_nil]
      exact fun heq => (h _ heq).2 rfl
    | succ n =>
      have hlast := getLast?_brackets_succ n
      rw [List.getLast?_append, hlast]
      exact fun heq => absurd (Option.some.inj heq) (by decide)
  have hlength : (base ++ (brackets depth).toList).length - 2 * depth = base.length := by
    rw [List.length_append, length_brackets]
    omega
  rw [ofText_eq hline, ofPiece, countMarkers_reverse hmarker, hlength, List.take_left]

/-- A text without spaces that is joined of two texts at a separator has the alternatives of both. -/
theorem all_append {a b type : String} {sep : Char} (hsep : isSeparator sep = true)
    (htype : type.toList.filter (· != ' ') = (a.toList ++ sep :: b.toList).filter (· != ' ')) :
    all type = all a ++ all b := by
  have hspace : (sep != ' ') = true := by
    rw [bne_iff_ne]
    rintro rfl
    exact absurd hsep (by decide)
  have hkept : (sep :: b.toList).filter (· != ' ') = sep :: b.toList.filter (· != ' ') :=
    List.filter_cons_of_pos hspace
  rw [all, htype, List.filter_append, hkept, Text.pieces_append_cons _ _ hsep, List.map_append]
  rfl

theorem all_ne_nil (type : String) : all type ≠ [] := by
  rw [all, ne_eq, List.map_eq_nil_iff]
  exact Text.pieces_ne_nil _ _

end Slot
end AmbientDecls
