import AmbientDecls.Text.Pieces

/-! The lines of a text, and a block of lines moved to the right. A text that holds no line boundary
is a single line. -/

namespace AmbientDecls.Text

def isLineEnd (c : Char) : Bool :=
  let n := c.toNat
  (10 ≤ n && n ≤ 13) || (28 ≤ n && n ≤ 30) || n == 0x85 || n == 0x2028 || n == 0x2029

def mergeReturns (s : List Char) : List Char :=
  replacePair '\r' '\n' ['\n'] s

def lineFeeds : List Char → List Char
  | '\r' :: '\n' :: s => '\n' :: lineFeeds s
  | '\r' :: s => '\n' :: lineFeeds s
  | c :: s => c :: lineFeeds s
  | [] => []

/-- The lines of a text without their boundaries; a boundary at the very end opens no further
line. -/
def lines (s : List Char) : List (List Char) :=
  let ls := pieces isLineEnd (mergeReturns s)
  if ls.getLast? = some [] then ls.dropLast else ls

@[simp] theorem lines_nil : lines [] = [] := rfl

/-- Every line moved right by `margin`; empty lines stay empty, and the boundaries become line
feeds. -/
def indented (margin : List Char) (s : List Char) : List Char :=
  joined ['\n'] ((lines s).map fun l => if l.isEmpty then l else margin ++ l)

@[simp] theorem indented_nil (margin : List Char) : indented margin [] = [] := rfl

end AmbientDecls.Text
