import AmbientDecls.Decimal.Shortest
import AmbientDecls.Yaml.Style

/-! Values as documents in block style: keys ascending, the items of a list at the column of the mapping around it. -/

namespace AmbientDecls.Yaml

def floatText (x : Float) : List Char :=
  if x.isNaN then ".nan".toList
  else if x.isInf then (if x < 0 then "-.inf" else ".inf").toList
  else
    let s := Decimal.floatText x |>.toList
    if '.' ∈ s then s
    else s.flatMap fun c => if c = 'e' then ['.', '0', 'e'] else [c]

def scalarText (margin column : Nat) : Data → List Char
  | .null => "null".toList
  | .bool b => (if b then "true" else "false").toList
  | .int n => (toString n).toList
  | .float x => floatText x
  | .text s => Style.write margin column s
  | .date s => s.toList
  | .list _ => ['[', ']']
  | .map _ => ['\x7b', '\x7d']

def keyText : Data → String
  | .text s => s
  | _ => ""

mutual

/-- The entries of a mapping in the order of their keys, each with its written form. -/
def writtenEntries (margin : Nat) : List (Data × Data) → List (String × List Char)
  | [] => []
  | (k, d) :: es =>
    let key := Style.write margin margin (keyText k)
    (keyText k, key ++ ':' :: writeUnder margin (margin + key.length + 1) d) :: writtenEntries margin es

def writeUnder (margin column : Nat) : Data → List Char
  | .list (d :: ds) => '\n' :: writeItems margin (d :: ds)
  | .map (e :: es) =>
    Style.newLine (margin + 2) ++
      Text.joined (List.replicate (margin + 2) ' ')
        (((writtenEntries (margin + 2) (e :: es)).mergeSort fun a b => !(b.1 < a.1)).map (·.2))
  | d => ' ' :: scalarText (margin + 2) (column + 1) d ++ ['\n']

def writeItems (margin : Nat) : List Data → List Char
  | [] => []
  | d :: ds =>
    List.replicate margin ' ' ++ '-' :: writeItem margin d ++ writeItems margin ds

def writeItem (margin : Nat) : Data → List Char
  | .map (e :: es) =>
    ' ' :: Text.joined (List.replicate (margin + 2) ' ')
      (((writtenEntries (margin + 2) (e :: es)).mergeSort fun a b => !(b.1 < a.1)).map (·.2))
  | .list (d :: ds) => ' ' :: (writeItems (margin + 2) (d :: ds)).drop (margin + 2)
  | d => ' ' :: scalarText (margin + 2) (margin + 2) d ++ ['\n']

end

def write : Data → String
  | .map (e :: es) =>
    String.ofList (((writtenEntries 0 (e :: es)).mergeSort fun a b => !(b.1 < a.1)).flatMap (·.2))
  | .list (d :: ds) => String.ofList (writeItems 0 (d :: ds))
  | d => String.ofList (scalarText 2 0 d ++ ['\n'])

end AmbientDecls.Yaml
