/-! Values of data documents, as both notations for them (JSON and YAML) deliver: scalars, lists, and
mappings whose keys may be any value and keep the order in which they first appeared. -/

namespace AmbientDecls

inductive Data
  | null
  | bool (b : Bool)
  | int (n : Int)
  | float (x : Float)
  | text (s : String)
  | date (s : String)
  | list (items : List Data)
  | map (entries : List (Data × Data))
deriving Inhabited

namespace Data

def isNull : Data → Bool
  | .null => true
  | _ => false

def isText : Data → Bool
  | .text _ => true
  | _ => false

def lookup? (key : String) : List (Data × Data) → Option Data
  | [] => none
  | (.text k, v) :: rest => if k = key then some v else lookup? key rest
  | _ :: rest => lookup? key rest

@[simp] theorem lookup?_nil (key : String) : lookup? key [] = none := rfl

/-- Stores a value under a text key; a known key keeps its place. -/
def put (key : String) (v : Data) : List (Data × Data) → List (Data × Data)
  | [] => [(.text key, v)]
  | (.text k, w) :: rest => if k = key then (.text k, v) :: rest else (.text k, w) :: put key v rest
  | e :: rest => e :: put key v rest

theorem lookup?_put_self (key : String) (v : Data) (entries : List (Data × Data)) :
    lookup? key (put key v entries) = some v := by
  fun_induction put key v entries with
  | case1 => simp [lookup?]
  | case2 w rest => simp [lookup?]
  | case3 k w rest h ih => simp [lookup?, h, ih]
  | case4 e rest h ih =>
    obtain ⟨k, w⟩ := e
    cases k <;> simp_all [lookup?]

/-- The value under a text key of a mapping; `none` for any other value. -/
def get? (key : String) : Data → Option Data
  | .map entries => lookup? key entries
  | _ => none

/-- The text that a value is, if it is one. -/
def text? : Data → Option String
  | .text s => some s
  | _ => none

mutual

def depth : Data → Nat
  | .list items => depthOfItems items + 1
  | .map entries => depthOfEntries entries + 1
  | _ => 0

def depthOfItems : List Data → Nat
  | [] => 0
  | d :: ds => max (depth d) (depthOfItems ds)

def depthOfEntries : List (Data × Data) → Nat
  | [] => 0
  | (_, d) :: es => max (depth d) (depthOfEntries es)

end

def record (entries : List (String × Data)) : Data := .map (entries.map fun (k, d) => (.text k, d))

def texts (ss : List String) : Data := .list (ss.map .text)

end Data
end AmbientDecls
