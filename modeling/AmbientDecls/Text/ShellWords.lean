/-! The words of a command line: blanks separate them, single quotes keep everything, double quotes keep all but a
backslash before a quote or a backslash, and a backslash outside quotes keeps one character. -/

namespace AmbientDecls.ShellWords

inductive Fault
  | openQuote
  | openEscape
deriving DecidableEq, Repr

def Fault.message : Fault → String
  | openQuote => "No closing quotation"
  | openEscape => "No escaped character"

inductive Mode
  | between
  | word
  | single
  | double
  | escape
  | doubleEscape
deriving DecidableEq, Repr

def isSpace (c : Char) : Bool := c == ' ' || c == '\t' || c == '\r' || c == '\n'

/-- Reads on; the characters of the current word are kept backwards. -/
def split : Mode → List Char → List Char → Except Fault (List (List Char))
  | .between, _, [] => .ok []
  | .word, done, [] => .ok [done.reverse]
  | .single, _, [] => .error .openQuote
  | .double, _, [] => .error .openQuote
  | .escape, _, [] => .error .openEscape
  | .doubleEscape, _, [] => .error .openEscape
  | .between, _, c :: s =>
    if isSpace c then split .between [] s
    else if c = '\\' then split .escape [] s
    else if c = '\'' then split .single [] s
    else if c = '"' then split .double [] s
    else split .word [c] s
  | .word, done, c :: s =>
    if isSpace c then (split .between [] s).map (done.reverse :: ·)
    else if c = '\\' then split .escape done s
    else if c = '\'' then split .single done s
    else if c = '"' then split .double done s
    else split .word (c :: done) s
  | .single, done, c :: s =>
    if c = '\'' then split .word done s else split .single (c :: done) s
  | .double, done, c :: s =>
    if c = '"' then split .word done s
    else if c = '\\' then split .doubleEscape done s
    else split .double (c :: done) s
  | .escape, done, c :: s => split .word (c :: done) s
  | .doubleEscape, done, c :: s =>
    if c = '"' ∨ c = '\\' then split .double (c :: done) s
    else split .double (c :: '\\' :: done) s

def ofText (line : String) : Except Fault (List String) :=
  (split .between [] line.toList).map fun ws => ws.map String.ofList

end AmbientDecls.ShellWords
