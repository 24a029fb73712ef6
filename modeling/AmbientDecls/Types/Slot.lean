import AmbientDecls.Text.Pieces

/-! A documented type: alternatives between bars or slashes, each a name with a number of array markers.
Spaces do not count. -/

namespace AmbientDecls

/-- One alternative of a documented type: what stands before the array markers, and how many there
are. -/
structure Slot where
  base : String
  depth : Nat
deriving DecidableEq, Repr

namespace Slot

/-- Counts array markers from the end; the text is given backwards. -/
def countMarkers : List Char → Nat
  | ']' :: '[' :: s => countMarkers s + 1
  | _ => 0

/-- The number of array markers at the end of a text; one line feed may follow them. -/
def markers (s : List Char) : Nat :=
  match s.reverse with
  | '\n' :: t => countMarkers t
  | t => countMarkers t

/-- An alternative; as many characters as the markers have are cut off its end. -/
def ofText (s : List Char) : Slot :=
  ⟨String.ofList (s.take (s.length - 2 * markers s)), markers s⟩

def isSeparator (c : Char) : Bool := c == '|' || c == '/'

def all (type : String) : List Slot :=
  (Text.pieces isSeparator (type.toList.filter (· != ' '))).map ofText

def brackets : Nat → String
  | 0 => ""
  | n + 1 => "[]" ++ brackets n

def isLiteral (slot : Slot) : Bool :=
  let s := slot.base.toList
  2 ≤ s.length && s.head? == s.getLast? && (s.head? == some '"' || s.head? == some '\'')

end Slot

def needsParens (type : String) : Bool :=
  let s := type.toList
  s.contains '|' || (s.zip s.tail).contains ('=', '>')

def arrayOf (type : String) : String :=
  if needsParens type then "(" ++ type ++ ")[]" else type ++ "[]"

end AmbientDecls
