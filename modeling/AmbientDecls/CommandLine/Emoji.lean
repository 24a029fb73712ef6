import AmbientDecls.CommandLine.EmojiNames
import AmbientDecls.Text.Blank
import AmbientDecls.Text.Lower

/-! Emoji codes: the name of an emoji between two colons stands for the emoji. A name that is not known stays as it is
written. -/

namespace AmbientDecls.Emoji

def table : List (List Char × List Char) :=
  (Text.pieces (· == '\n') rows.toList).flatMap fun row =>
    match Text.words row with
    | emoji :: names => names.map (·, emoji)
    | [] => []

/-- The endings of a name that ask for a presentation, and the characters that select it. -/
def variants : List (List Char × Char) :=
  [("-emoji".toList, '\ufe0f'), ("-text".toList, '\ufe0e')]

/-- What a code stands for; case does not count. -/
def ofCode? (code : List Char) : Option (List Char) :=
  let known (name : List Char) := table.lookup (Text.lowered name)
  match variants.find? fun v => v.1.isSuffixOf code with
  | some (ending, selector) =>
    (known (code.take (code.length - ending.length))).map (· ++ [selector])
  | none => known code

def code? : List Char → Option (List Char × List Char)
  | ':' :: s =>
    match s.dropWhile fun c => c != ':' && !Text.isBlank c with
    | ':' :: rest => some (s.takeWhile fun c => c != ':' && !Text.isBlank c, rest)
    | _ => none
  | _ => none

/-- Replaces the codes in a text. Every round reads a character at least. -/
def replacedFrom : Nat → List Char → List Char
  | 0, s => s
  | fuel + 1, s =>
    match code? s with
    | some (code, rest) =>
      (ofCode? code).getD (':' :: code ++ [':']) ++ replacedFrom fuel rest
    | none => match s with
      | [] => []
      | c :: rest => c :: replacedFrom fuel rest

def replaced (s : List Char) : List Char := replacedFrom s.length s

theorem code?_eq_none {s : List Char} (h : ':' ∉ s) : code? s = none := by
  unfold code?
  split
  · exact absurd List.mem_cons_self h
  · rfl

theorem replacedFrom_eq_self {fuel : Nat} {s : List Char} (h : ':' ∉ s) : replacedFrom fuel s = s := by
  induction fuel generalizing s with
  | zero => rfl
  | succ fuel ih =>
    unfold replacedFrom
    rw [code?_eq_none h]
    cases s with
    | nil => rfl
    | cons c rest => simp only [ih fun hm => h (List.mem_cons_of_mem _ hm)]

theorem replaced_eq_self {s : List Char} (h : ':' ∉ s) : replaced s = s := replacedFrom_eq_self h

end AmbientDecls.Emoji
