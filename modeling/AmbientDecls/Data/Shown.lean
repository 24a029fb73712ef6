import AmbientDecls.Data.Basic
import AmbientDecls.Decimal.Shortest
import AmbientDecls.Text.Quoted

/-! Values as messages show them. -/

namespace AmbientDecls.Data

mutual

/-- A value on one line: texts in quotes, lists in brackets, mappings in braces. -/
def shown : Data → List Char
  | .null => "None".toList
  | .bool true => "True".toList
  | .bool false => "False".toList
  | .int n => (toString n).toList
  | .float x => (Decimal.floatText x).toList
  | .text s => Text.quoted s.toList
  | .date s => s.toList
  | .list items => '[' :: shownItems items ++ [']']
  | .map entries => '\x7b' :: shownEntries entries ++ ['\x7d']

def shownItems : List Data → List Char
  | [] => []
  | [d] => shown d
  | d :: rest => shown d ++ ',' :: ' ' :: shownItems rest

def shownEntries : List (Data × Data) → List Char
  | [] => []
  | [(k, v)] => shown k ++ ':' :: ' ' :: shown v
  | (k, v) :: rest => shown k ++ ':' :: ' ' :: shown v ++ ',' :: ' ' :: shownEntries rest

end

end AmbientDecls.Data
