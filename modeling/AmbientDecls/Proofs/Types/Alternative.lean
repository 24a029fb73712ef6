import AmbientDecls.Proofs.Types.Token
import AmbientDecls.Types.Slot

/-! The alternatives of a documented type with exactly the array markers at their ends. They differ from those that are
converted only if a line feed stands at the end, and then both are no names at all. -/

namespace AmbientDecls.Slot

/-- An alternative, from a text with all array markers at its end. -/
def ofPiece (s : List Char) : Slot :=
  ⟨String.ofList (s.take (s.length - 2 * countMarkers s.reverse)), countMarkers s.reverse⟩

def piecesOf (type : String) : List (List Char) :=
  Text.pieces isSeparator (type.toList.filter (· != ' '))

def documented (type : String) : List Slot := (piecesOf type).map ofPiece

/-- A quoted alternative has no quote of its kind, no backslash and no line break between its quotes. -/
def isClean (slot : Slot) : Bool :=
  !slot.isLiteral || (slot.base.toList.drop 1).dropLast.all fun c =>
    slot.base.toList.head? != some c && c != '\\' && !isLineBreak c

theorem piecesOf_ne_nil (type : String) : piecesOf type ≠ [] := Text.pieces_ne_nil _ _

theorem length_brackets (n : Nat) : (brackets n).toList.length = 2 * n := by
  induction n with
  | zero => rfl
  | succ n ih =>
    rw [brackets, String.toList_append, List.length_append, ih]
    change 2 + 2 * n = 2 * (n + 1)
    omega

theorem toList_brackets_succ (n : Nat) :
    (brackets (n + 1)).toList = (brackets n).toList ++ ['[', ']'] := by
  have hfront : ∀ n, (brackets (n + 1)).toList = ['[', ']'] ++ (brackets n).toList := fun n =>
    String.toList_append
  induction n with
  | zero => rfl
  | succ n ih => rw [hfront (n + 1), ih, ← List.append_assoc, ← hfront, ih]

theorem mem_brackets {depth : Nat} : ∀ c ∈ (brackets depth).toList, c = '[' ∨ c = ']' := by
  induction depth with
  | zero => exact fun c hc => absurd hc List.not_mem_nil
  | succ depth ih =>
    intro c hc
    rw [toList_brackets_succ] at hc
    rcases List.mem_append.mp hc with hc | hc
    · exact ih c hc
    · simpa using hc

theorem brackets_append (n m : Nat) : brackets n ++ brackets m = brackets (n + m) := by
  induction n with
  | zero => rw [Nat.zero_add, brackets, String.empty_append]
  | succ n ih => rw [Nat.succ_add, brackets, brackets, String.append_assoc, ih]

/-- The markers counted at the end of a text are its last characters. -/
theorem reverse_eq_append_brackets (s : List Char) :
    s.reverse = (s.drop (2 * countMarkers s)).reverse ++ (brackets (countMarkers s)).toList := by
  fun_induction countMarkers s with
  | case1 s ih =>
    rw [toList_brackets_succ, ← List.append_assoc, Nat.mul_succ]
    change ([']', '['] ++ s).reverse = _
    rw [List.reverse_append, ih]
    rfl
  | case2 s _ => simp [brackets]

theorem ofPiece_append (s : List Char) :
    (ofPiece s).base ++ brackets (ofPiece s).depth = String.ofList s := by
  have h := reverse_eq_append_brackets s.reverse
  rw [List.reverse_reverse, List.drop_reverse, List.reverse_reverse] at h
  rw [ofPiece, ← String.toList_inj, String.toList_append, String.toList_ofList, String.toList_ofList]
  exact h.symm

theorem ofText_eq {s : List Char} (h : s.getLast? ≠ some '\n') : ofText s = ofPiece s := by
  have hmarkers : markers s = countMarkers s.reverse := by
    unfold markers
    split
    · rename_i t ht
      rw [← List.head?_reverse, ht] at h
      exact absurd rfl h
    · rfl
  rw [ofText, ofPiece, hmarkers]

/-- With a line feed at its end, the documented name of an alternative ends with it, and the converted one with it or
with the first half of a marker. -/
theorem getLast?_of_lineFeed {s : List Char} (h : s.getLast? = some '\n') :
    (ofPiece s).base.toList.getLast? = some '\n' ∧
      ((ofText s).base.toList.getLast? = some '\n' ∨
        (ofText s).base.toList.getLast? = some '[') := by
  obtain ⟨t, ht⟩ : ∃ t, s.reverse = '\n' :: t := by
    have hhead := h
    rw [← List.head?_reverse] at hhead
    exact List.head?_eq_some_iff.mp hhead
  have hs : s = t.reverse ++ ['\n'] := by
    rw [← List.reverse_reverse s, ht, List.reverse_cons]
  have hpiece : (ofPiece s).base.toList = s := by
    simp [ofPiece, ht, countMarkers]
  have hmarkers : markers s = countMarkers t := by
    simp only [markers, ht]
  refine ⟨by rw [hpiece]; exact h, ?_⟩
  rw [ofText, hmarkers, String.toList_ofList]
  have hsplit := reverse_eq_append_brackets t
  cases hcount : countMarkers t with
  | zero =>
    left
    simpa using h
  | succ n =>
    right
    rw [hcount, brackets, String.toList_append] at hsplit
    have hbefore : s = ((t.drop (2 * (n + 1))).reverse ++ ['[']) ++
        (']' :: (brackets n).toList ++ ['\n']) := by
      rw [hs, hsplit]
      simp
    have hlength : ((t.drop (2 * (n + 1))).reverse ++ ['[']).length = s.length - 2 * (n + 1) := by
      rw [hbefore]
      simp only [List.length_append, List.length_cons, List.length_nil, length_brackets]
      omega
    have htake : s.take (s.length - 2 * (n + 1)) = (t.drop (2 * (n + 1))).reverse ++ ['['] := by
      rw [← hlength]
      exact (congrArg (List.take _) hbefore).trans List.take_left
    rw [htake, List.getLast?_concat]

theorem exists_quotes {slot : Slot} (h : slot.isLiteral = true) :
    ∃ quote inner, Token.isQuote quote = true ∧ slot.base.toList = quote :: inner ++ [quote] := by
  unfold isLiteral at h
  simp only [Bool.and_eq_true] at h
  obtain ⟨⟨hlength, hends⟩, hquote⟩ := h
  have hlong : 2 ≤ slot.base.toList.length := of_decide_eq_true hlength
  cases hlist : slot.base.toList with
  | nil =>
    rw [hlist] at hlong
    exact absurd hlong (by decide)
  | cons quote rest =>
    rw [hlist] at hends hquote hlong
    have hne : rest ≠ [] := by
      intro hnil
      rw [hnil] at hlong
      exact absurd hlong (by simp)
    have hlast : rest.getLast hne = quote := by
      have h := eq_of_beq hends
      rw [List.head?_cons, List.getLast?_eq_some_getLast (List.cons_ne_nil _ _),
        List.getLast_cons hne] at h
      exact (Option.some.inj h).symm
    refine ⟨quote, rest.dropLast, hquote, ?_⟩
    rw [List.cons_append]
    exact congrArg _ (hlast ▸ (List.dropLast_concat_getLast hne).symm)

theorem inner_of_isClean {slot : Slot} {quote : Char} {inner : List Char}
    (hclean : slot.isClean = true) (h : slot.isLiteral = true)
    (hlist : slot.base.toList = quote :: inner ++ [quote]) :
    ∀ c ∈ inner, c ≠ quote ∧ c ≠ '\\' ∧ isLineBreak c = false := by
  unfold isClean at hclean
  rw [h, hlist] at hclean
  simp only [Bool.not_true, Bool.false_or, List.cons_append, List.drop_succ_cons, List.drop_zero,
    List.dropLast_concat, List.head?_cons] at hclean
  intro c hc
  have hall := List.all_eq_true.mp hclean c hc
  simp only [Bool.and_eq_true, bne_iff_ne, ne_eq, Option.some.injEq, Bool.not_eq_true'] at hall
  exact ⟨fun heq => hall.1.1 heq.symm, hall.1.2, hall.2⟩

theorem isLiteral_of_getLast? {slot : Slot} {c : Char} (h : slot.base.toList.getLast? = some c)
    (hc : Token.isQuote c = false) : slot.isLiteral = false := by
  cases hliteral : slot.isLiteral with
  | false => rfl
  | true =>
    obtain ⟨quote, inner, hquote, hlist⟩ := exists_quotes hliteral
    rw [hlist, List.getLast?_concat] at h
    obtain rfl := Option.some.inj h
    exact hquote.symm.trans hc

end AmbientDecls.Slot
