import AmbientDecls.Data.Basic
import AmbientDecls.Decimal.Shortest
import AmbientDecls.Json.Quoted
import AmbientDecls.Text.Pieces

/-! Writing JSON documents on one line in ASCII, with a blank after every comma and colon. -/

namespace AmbientDecls.Json

mutual

/-- A value on one line; a key that is no text is left out. -/
def write : Data → List Char
  | .null => "null".toList
  | .bool true => "true".toList
  | .bool false => "false".toList
  | .int n => (toString n).toList
  | .float x => (Decimal.floatText x).toList
  | .text s => encode s.toList
  | .date s => encode s.toList
  | .list items => '[' :: Text.joined [',', ' '] (writeItems items) ++ [']']
  | .map entries => '\x7b' :: Text.joined [',', ' '] (writeEntries entries) ++ ['\x7d']

def writeItems : List Data → List (List Char)
  | [] => []
  | d :: rest => write d :: writeItems rest

def writeEntries : List (Data × Data) → List (List Char)
  | [] => []
  | (.text k, v) :: rest => (encode k.toList ++ ':' :: ' ' :: write v) :: writeEntries rest
  | (_, _) :: rest => writeEntries rest

end

def toText (d : Data) : String := String.ofList (write d)

end AmbientDecls.Json
