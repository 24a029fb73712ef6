import AmbientDecls.Build.World
import AmbientDecls.CommandLine.Markup
import AmbientDecls.Text.Lines

/-! What a run prints: lines with markup, panels, tables, code, and the output of tools. -/

namespace AmbientDecls

namespace Screen

/-- Characters that would move the cursor are not printed. -/
def isPrinted (c : Char) : Bool :=
  c != '\x07' && c != '\x08' && c != '\x0b' && c != '\x0c' && c != '\r'

def withoutColours : Nat → List Char → List Char
  | 0, s => s
  | fuel + 1, s =>
    match s with
    | [] => []
    | '\x1b' :: '[' :: rest =>
      match rest.dropWhile fun c => c.isDigit || c == ';' || c == '?' with
      | c :: after => if c.isAlpha then withoutColours fuel after
        else '\x1b' :: withoutColours fuel ('[' :: rest)
      | [] => '\x1b' :: withoutColours fuel ('[' :: rest)
    | c :: rest => c :: withoutColours fuel rest

/-- The lines of a row: each cell begins at the top. -/
def rowLines (cells : List (List Char)) : List String :=
  let columns := cells.map (Text.pieces (· == '\n'))
  let height := columns.foldl (fun n c => max n c.length) 0
  (List.range height).map fun i =>
    String.ofList (Text.joined [' ', ' '] (columns.map fun c => c.getD i []))

end Screen

namespace Act

def print (lines : List String) : Act Unit :=
  modify fun w => { w with printed := w.printed ++ lines }

def shown (markup : String) : Act (List Char) :=
  match Markup.shown markup.toList with
  | .ok s => return s.filter Screen.isPrinted
  | .error .colour => throw .colour
  | .error _ => throw .markup

def say (markup : String) : Act Unit := do
  print [String.ofList (← shown markup)]

def echo (s : String) : Act Unit :=
  print [String.ofList (Screen.withoutColours (s.length + 1) s.toList)]

def code (s : String) : Act Unit :=
  print [String.ofList ((Text.lineFeeds s.toList).filter Screen.isPrinted)]

def panel (title markup : String) : Act Unit := do
  print [title, String.ofList (← shown markup)]

def table (title : String) (header : List String) (rows : List (List String)) : Act Unit := do
  let rows ← (header :: rows).mapM fun r => r.mapM shown
  print (title :: rows.flatMap Screen.rowLines)

end Act
end AmbientDecls
