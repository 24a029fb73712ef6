import AmbientDecls.Files.Path
import AmbientDecls.Text.Word

/-! Where declarations are written: a directory and a file, both named after the version. -/

namespace AmbientDecls.Output

def isSafe (c : Char) : Bool := Text.isWordChar c || c == '-' || c == '.'

def unnamed : String := "_unnamed"

/-- A version name as a file name: slashes become hyphens, pairs of dots and unsafe characters
go. -/
def safeName (name : String) : String :=
  let s := name.toList.map fun c => if c = '/' then '-' else c
  let s := (Text.replacePair '.' '.' [] s).filter isSafe
  if s.all (· == '.') then unnamed else String.ofList s

def declarationPath (base : Path) (name : String) : Path :=
  let s := safeName name
  (base.child s).child (s ++ ".d.ts")

end AmbientDecls.Output
