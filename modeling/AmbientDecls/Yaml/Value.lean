import AmbientDecls.Yaml.Node
import AmbientDecls.Yaml.Plain

/-! The value of a document. A mapping takes over the entries of the mappings under its merge keys; its own entries
count more, and of two entries with one key the later counts. The collections of a document are filled level by level, so
of two faults the one nearer to the root counts, and of two on one level the first. -/

namespace AmbientDecls.Yaml

inductive Fault
  | text (fault : TextFault)
  | plain (fault : PlainFault)
deriving DecidableEq, Repr

def mergeKey : String := "<<"

def valueKey : String := "="

def putEntry (k v : Data) (entries : List (Data × Data)) : List (Data × Data) :=
  match k with
  | .text key => Data.put key v entries
  | k => entries ++ [(k, v)]

/-- A mapping of entries; later ones count. -/
def mapOf (entries : List (Data × Data)) : Data :=
  .map (entries.foldl (fun es e => putEntry e.1 e.2 es) [])

inductive Filled (α : Type)
  | value (a : α)
  | fault (level : Nat) (f : Fault)

namespace Filled

variable {α β γ : Type}

def malformed : Filled α := .fault 0 (.text .malformed)

def ofPlain : Except PlainFault α → Filled α
  | .ok a => .value a
  | .error e => .fault 0 (.plain e)

def toExcept : Filled α → Except Fault α
  | .value a => .ok a
  | .fault _ e => .error e

def inside (f : α → β) : Filled α → Filled β
  | .value a => .value (f a)
  | .fault level e => .fault (level + 1) e

def both (f : α → β → γ) : Filled α → Filled β → Filled γ
  | .value a, .value b => .value (f a b)
  | .value _, .fault level e => .fault level e
  | .fault level e, .value _ => .fault level e
  | .fault m e, .fault n d => if n < m then .fault n d else .fault m e

end Filled

/-- The entries of a mapping: those that it takes over, and its own. -/
structure Entries where
  taken : Filled (List (Data × Data)) := .value []
  own : Filled (List (Data × Data)) := .value []

def Entries.all (es : Entries) : Filled (List (Data × Data)) := .both (· ++ ·) es.taken es.own

namespace Node

def plainData (text : String) : Filled Data :=
  if text = mergeKey ∨ text = valueKey then .malformed else .ofPlain (Plain.value text)

def isMerge : Node → Bool
  | .scalar text plain => plain && text == mergeKey
  | _ => false

/-- The value of a key: no collection can be one. -/
def keyData : Node → Filled Data
  | .scalar text plain => if plain ∧ text ≠ valueKey then plainData text else .value (.text text)
  | _ => .malformed

mutual

def data : Node → Filled Data
  | .scalar text plain => if plain then plainData text else .value (.text text)
  | .sequence items => (itemsData items).inside .list
  | .mapping es => match entries es with
    | some es => es.all.inside mapOf
    | none => Filled.malformed.inside mapOf

def itemsData : List Node → Filled (List Data)
  | [] => .value []
  | n :: ns => .both (· :: ·) (data n) (itemsData ns)

/-- The entries of a mapping; none if there is nothing that can be taken over under a merge key. -/
def entries : List (Node × Node) → Option Entries
  | [] => some {}
  | (k, n) :: rest => do
    let es ← entries rest
    if isMerge k then
      let taken ← merged n
      return { es with taken := .both (· ++ ·) taken es.taken }
    else return { es with own := .both (· :: ·) (.both Prod.mk (keyData k) (data n)) es.own }

def merged : Node → Option (Filled (List (Data × Data)))
  | .mapping es => (entries es).map Entries.all
  | .sequence items => mergedItems items
  | .scalar _ _ => none

/-- The entries of several mappings: those of the first count most and come last. -/
def mergedItems : List Node → Option (Filled (List (Data × Data)))
  | [] => some (.value [])
  | .mapping es :: rest => do
    let own ← (entries es).map Entries.all
    return .both (· ++ ·) (← mergedItems rest) own
  | _ :: _ => none

end

end Node

/-- The value of a text that holds one document at most; none is null. -/
def read (s : String) : Except Fault Data :=
  match Node.ofText s.toList with
  | .error fault => .error (.text fault)
  | .ok n => n.data.toExcept

end AmbientDecls.Yaml
