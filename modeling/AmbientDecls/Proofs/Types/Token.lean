import AmbientDecls.Types.Naming

/-! The tokens of types in declarations. What a text begins with does not change the tokens of what stands before it, as
long as no word runs on. -/

namespace AmbientDecls

def isNameStart (c : Char) : Bool := isIdentifierStart c || 0x80 ≤ c.toNat

def isNameChar (c : Char) : Bool := isNameStart c || c.isDigit

/-- Whether a text is an identifier; all characters beyond ASCII may stand in one. -/
def isName (s : List Char) : Bool :=
  match s with
  | [] => false
  | c :: s => isNameStart c && s.all isNameChar

/-- Whether a text consists of identifiers with dots between them. -/
def isDotted (s : List Char) : Bool := (Text.pieces (· == '.') s).all isName

theorem isNameChar_of_isName {s : List Char} (h : isName s = true) : ∀ c ∈ s, isNameChar c = true := by
  cases s with
  | nil => cases h
  | cons c s =>
    obtain ⟨hstart, hrest⟩ := Bool.and_eq_true_iff.mp h
    intro d hd
    rcases List.mem_cons.mp hd with rfl | hd
    · exact Bool.or_eq_true_iff.mpr (Or.inl hstart)
    · exact List.all_eq_true.mp hrest d hd

theorem isName_append {s t : List Char} (hs : isName s = true)
    (ht : ∀ c ∈ t, isNameChar c = true) : isName (s ++ t) = true := by
  cases s with
  | nil => cases hs
  | cons c s =>
    obtain ⟨hstart, hrest⟩ := Bool.and_eq_true_iff.mp hs
    refine Bool.and_eq_true_iff.mpr ⟨hstart, List.all_eq_true.mpr fun d hd => ?_⟩
    rcases List.mem_append.mp hd with hd | hd
    · exact List.all_eq_true.mp hrest d hd
    · exact ht d hd

theorem exists_piece_of_mem {p : Char → Bool} {s : List Char} {c : Char} (hc : c ∈ s)
    (hp : p c = false) : ∃ piece ∈ Text.pieces p s, c ∈ piece := by
  induction s with
  | nil => cases hc
  | cons d s ih =>
    rw [Text.pieces]
    rcases List.mem_cons.mp hc with rfl | hc
    · obtain ⟨first, more, hpieces⟩ := List.exists_cons_of_ne_nil (Text.pieces_ne_nil p s)
      rw [hp, hpieces]
      exact ⟨c :: first, List.mem_cons_self .., List.mem_cons_self ..⟩
    · obtain ⟨piece, hpiece, hmem⟩ := ih hc
      cases p d with
      | true => exact ⟨piece, List.mem_cons_of_mem _ hpiece, hmem⟩
      | false =>
        obtain ⟨first, more, hpieces⟩ := List.exists_cons_of_ne_nil (Text.pieces_ne_nil p s)
        rw [hpieces] at hpiece ⊢
        rcases List.mem_cons.mp hpiece with rfl | hpiece
        · exact ⟨d :: piece, List.mem_cons_self .., List.mem_cons_of_mem d hmem⟩
        · exact ⟨piece, List.mem_cons_of_mem _ hpiece, hmem⟩

theorem isDotted_of_isName {s : List Char} (h : isName s = true) : isDotted s = true := by
  have hdots : ∀ c ∈ s, (c == '.') = false := by
    intro c hc
    have hname := isNameChar_of_isName h c hc
    cases hdot : c == '.' with
    | false => rfl
    | true =>
      rw [eq_of_beq hdot] at hname
      exact absurd hname (by decide)
  rw [isDotted, Text.pieces_eq_singleton hdots, List.all_cons, h]
  rfl

def isLineBreak (c : Char) : Bool := c == '\n' || c == '\r'

inductive Token
  /-- Names with dots before, between and behind them. -/
  | word (s : List Char)
  /-- A text with the quotes around it. -/
  | literal (s : List Char)
  | sign (c : Char)
  | arrow
deriving DecidableEq, Repr

namespace Token

inductive Open
  | nothing
  | word (s : List Char)
  | literal (quote : Char) (s : List Char)
  | equals
deriving DecidableEq, Repr

/-- The tokens read so far, and the one that is being read. -/
structure Scan where
  tokens : List Token
  rest : Open
deriving DecidableEq, Repr

def isWordChar (c : Char) : Bool := isNameChar c || c == '.'

theorem isWordChar_of_isDotted {s : List Char} (h : isDotted s = true) :
    ∀ c ∈ s, isWordChar c = true := by
  intro c hc
  refine Bool.or_eq_true_iff.mpr ?_
  cases hdot : c == '.' with
  | true => exact Or.inr rfl
  | false =>
    obtain ⟨piece, hpiece, hmem⟩ := exists_piece_of_mem (p := (· == '.')) hc hdot
    exact Or.inl (isNameChar_of_isName (List.all_eq_true.mp h piece hpiece) c hmem)

theorem ne_of_isWordChar {c d : Char} (hc : isWordChar c = true) (hd : isWordChar d = false) :
    c ≠ d := by
  rintro rfl
  exact absurd hc (by rw [hd]; decide)

def isQuote (c : Char) : Bool := c == '"' || c == '\''

theorem ne_of_isQuote {c d : Char} (hc : isQuote c = true) (hd : isQuote d = false) : c ≠ d := by
  rintro rfl
  exact absurd hc (by rw [hd]; decide)

def signs : List Char := ['(', ')', '[', ']', '|', ',', ':', '?']

/-- The first character of a token, or a space. -/
def begin (tokens : List Token) (c : Char) : Option Scan :=
  if isWordChar c then some ⟨tokens, .word [c]⟩
  else if isQuote c then some ⟨tokens, .literal c [c]⟩
  else if c == ' ' then some ⟨tokens, .nothing⟩
  else if c == '=' then some ⟨tokens, .equals⟩
  else if signs.contains c then some ⟨tokens ++ [.sign c], .nothing⟩
  else none

def scan (state : Scan) (c : Char) : Option Scan :=
  match state.rest with
  | .nothing => begin state.tokens c
  | .word s =>
    if isWordChar c then some ⟨state.tokens, .word (s ++ [c])⟩
    else begin (state.tokens ++ [.word s]) c
  | .literal quote s =>
    if c == quote then some ⟨state.tokens ++ [.literal (s ++ [c])], .nothing⟩
    else if c == '\\' || isLineBreak c then none
    else some ⟨state.tokens, .literal quote (s ++ [c])⟩
  | .equals => if c == '>' then some ⟨state.tokens ++ [.arrow], .nothing⟩ else none

/-- All tokens of a text that ends here. -/
def settled (state : Scan) : Option (List Token) :=
  match state.rest with
  | .nothing => some state.tokens
  | .word s => some (state.tokens ++ [.word s])
  | _ => none

def all (s : List Char) : Option (List Token) := (s.foldlM scan ⟨[], .nothing⟩).bind settled

/-- A text has these tokens, whatever tokens come before. -/
def Scans (s : List Char) (ts : List Token) : Prop :=
  ∀ before, ∃ state, s.foldlM scan ⟨before, .nothing⟩ = some state ∧
    settled state = some (before ++ ts)

/-- No word that ends before this text runs on in it. -/
def Breaks (s : List Char) : Prop := ∀ c ∈ s.head?, isWordChar c = false

theorem all_of_scans {s : List Char} {ts : List Token} (h : Scans s ts) : all s = some ts := by
  obtain ⟨state, hrun, hsettled⟩ := h []
  rw [all, hrun]
  exact hsettled

theorem scan_of_settled {state : Scan} {ts : List Token} {c : Char}
    (h : settled state = some ts) (hc : isWordChar c = false) :
    scan state c = begin ts c := by
  obtain ⟨tokens, rest⟩ := state
  cases rest with
  | nothing =>
    obtain rfl := Option.some.inj h
    rfl
  | word s =>
    obtain rfl := Option.some.inj h
    simp [scan, hc]
  | literal quote s => cases h
  | equals => cases h

namespace Scans

variable {s t : List Char} {ts us : List Token}

theorem nil : Scans [] [] := fun before => ⟨⟨before, .nothing⟩, rfl, by simp [settled]⟩

theorem append (hs : Scans s ts) (ht : Scans t us) (hbreaks : Breaks t) :
    Scans (s ++ t) (ts ++ us) := by
  intro before
  obtain ⟨state, hrun, hsettled⟩ := hs before
  obtain ⟨after, hrest, hend⟩ := ht (before ++ ts)
  rw [List.append_assoc] at hend
  cases t with
  | nil =>
    obtain rfl := Option.some.inj hrest
    have hnil : us = [] := by simpa [settled] using hend
    refine ⟨state, by rw [List.append_nil]; exact hrun, ?_⟩
    rw [hsettled, hnil, List.append_nil]
  | cons c t =>
    refine ⟨after, ?_, hend⟩
    rw [List.foldlM_append, hrun]
    have hc : isWordChar c = false := hbreaks c rfl
    rw [List.foldlM_cons] at hrest
    change (c :: t).foldlM scan state = some after
    rw [List.foldlM_cons, scan_of_settled hsettled hc]
    exact hrest

theorem sign {c : Char} (hc : c ∈ signs) (h : Scans s ts) : Scans (c :: s) (.sign c :: ts) := by
  intro before
  obtain ⟨state, hrun, hsettled⟩ := h (before ++ [.sign c])
  refine ⟨state, ?_, by rw [hsettled, List.append_assoc, List.singleton_append]⟩
  have hbegin : begin before c = some ⟨before ++ [.sign c], .nothing⟩ := by
    revert hc
    unfold signs
    simp only [List.mem_cons, List.not_mem_nil, or_false]
    rintro (rfl | rfl | rfl | rfl | rfl | rfl | rfl | rfl) <;> rfl
  rw [List.foldlM_cons]
  change (begin before c).bind _ = _
  rw [hbegin]
  exact hrun

theorem space (h : Scans s ts) : Scans (' ' :: s) ts := by
  intro before
  obtain ⟨state, hrun, hsettled⟩ := h before
  exact ⟨state, hrun, hsettled⟩

theorem arrow (h : Scans s ts) : Scans ('=' :: '>' :: s) (.arrow :: ts) := by
  intro before
  obtain ⟨state, hrun, hsettled⟩ := h (before ++ [.arrow])
  exact ⟨state, hrun, by rw [hsettled, List.append_assoc, List.singleton_append]⟩

theorem word {c : Char} (hs : ∀ d ∈ c :: s, isWordChar d = true) :
    Scans (c :: s) [.word (c :: s)] := by
  -- by induction on what is left of the word, for any part of it that was read before
  have hrun : ∀ (tail read : List Char) (before : List Token),
      (∀ d ∈ tail, isWordChar d = true) →
      tail.foldlM scan ⟨before, .word read⟩ = some ⟨before, .word (read ++ tail)⟩ := by
    intro tail
    induction tail with
    | nil =>
      intro read before _
      rw [List.append_nil]
      rfl
    | cons d tail ih =>
      intro read before htail
      have hd : isWordChar d = true := htail d (List.mem_cons_self ..)
      rw [List.foldlM_cons, List.append_cons]
      have hscan : scan ⟨before, .word read⟩ d = some ⟨before, .word (read ++ [d])⟩ := if_pos hd
      rw [hscan]
      exact ih (read ++ [d]) before fun e he => htail e (List.mem_cons_of_mem d he)
  intro before
  have hc : isWordChar c = true := hs c (List.mem_cons_self ..)
  refine ⟨⟨before, .word (c :: s)⟩, ?_, rfl⟩
  rw [List.foldlM_cons]
  have hbegin : scan ⟨before, .nothing⟩ c = some ⟨before, .word [c]⟩ := if_pos hc
  rw [hbegin]
  exact hrun s [c] before fun d hd => hs d (List.mem_cons_of_mem c hd)

theorem dotted (hs : isDotted s = true) : Scans s [.word s] := by
  cases s with
  | nil => cases hs
  | cons c s => exact word (isWordChar_of_isDotted hs)

theorem literal {quote : Char} (hquote : isQuote quote = true)
    (hs : ∀ d ∈ s, d ≠ quote ∧ d ≠ '\\' ∧ isLineBreak d = false) :
    Scans (quote :: s ++ [quote]) [.literal (quote :: s ++ [quote])] := by
  have hrun : ∀ (tail read : List Char) (before : List Token),
      (∀ d ∈ tail, d ≠ quote ∧ d ≠ '\\' ∧ isLineBreak d = false) →
      (tail ++ [quote]).foldlM scan ⟨before, .literal quote read⟩ =
        some ⟨before ++ [.literal (read ++ tail ++ [quote])], .nothing⟩ := by
    intro tail
    induction tail with
    | nil =>
      intro read before _
      simp [scan]
    | cons d tail ih =>
      intro read before htail
      obtain ⟨hd, hback, hline⟩ := htail d (List.mem_cons_self ..)
      have hscan : scan ⟨before, .literal quote read⟩ d =
          some ⟨before, .literal quote (read ++ [d])⟩ := by
        simp [scan, hd, hback, hline]
      rw [List.cons_append, List.foldlM_cons, hscan]
      have hrest := ih (read ++ [d]) before fun e he => htail e (List.mem_cons_of_mem d he)
      rw [List.append_assoc read] at hrest
      exact hrest
  intro before
  have hword : isWordChar quote = false := by
    rcases Bool.or_eq_true_iff.mp hquote with h | h <;> rw [eq_of_beq h] <;> rfl
  refine ⟨⟨before ++ [.literal (quote :: s ++ [quote])], .nothing⟩, ?_, rfl⟩
  rw [List.cons_append, List.foldlM_cons]
  have hbegin : scan ⟨before, .nothing⟩ quote = some ⟨before, .literal quote [quote]⟩ := by
    simp [scan, begin, hword, hquote]
  rw [hbegin]
  exact hrun s [quote] before hs

end Scans

theorem breaks_cons {c : Char} (hc : isWordChar c = false) (s : List Char) : Breaks (c :: s) := by
  intro d hd
  obtain rfl := Option.some.inj hd
  exact hc

end Token
end AmbientDecls
