import AmbientDecls.Json.Quoted
import AmbientDecls.Text.Blank
import AmbientDecls.Text.Lines

/-! Names and comments in declarations: plain identifiers stay as they are and all other member names are
quoted; a comment is one line that ends where it should. -/

namespace AmbientDecls

def isIdentifierStart (c : Char) : Bool := c.isAlpha || c == '$' || c == '_'

def isIdentifier (name : List Char) : Bool :=
  match name with
  | [] => false
  | c :: s => isIdentifierStart c && s.all fun d => isIdentifierStart d || d.isDigit

def quoteProperty (name : String) : String :=
  if isIdentifier name.toList then name else String.ofList (Json.encode name.toList)

theorem quoteProperty_of_isIdentifier {name : String} (h : isIdentifier name.toList = true) :
    quoteProperty name = name := by
  simp [quoteProperty, h]

def reservedWords : List String :=
  ["break", "case", "catch", "class", "const", "continue", "debugger", "default", "delete", "do",
    "else", "enum", "export", "extends", "false", "finally", "for", "function", "if",
    "implements", "import", "in", "instanceof", "interface", "let", "new", "null", "package",
    "private", "protected", "public", "return", "static", "super", "switch", "this", "throw",
    "true", "try", "typeof", "var", "void", "while", "with", "yield"]

/-- A parameter name; a reserved word takes an underscore. -/
def paramName (name : String) : String :=
  if reservedWords.contains name then name ++ "_" else name

/-- The text of a comment: its words between single spaces, with the end mark taken apart. -/
def commentText (text : String) : String :=
  String.ofList (Text.replacePair '*' '/' ['*', '\\', '/'] (Text.collapse text.toList))

/-- A comment with a short text, if there is one, and a link. -/
def docComment (text url : String) : String :=
  let t := commentText text
  "/* " ++ (if t.isEmpty then url else t ++ " " ++ url) ++ " */"

def indent (block : String) : String :=
  String.ofList (Text.indented [' ', ' ', ' ', ' '] block.toList)

end AmbientDecls
