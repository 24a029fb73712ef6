import AmbientDecls.Text.Pieces

/-! Documentation records: classes with their members, parameters and configuration options. A class name is
dotted; what stands before the last dot is the module of the class. -/

namespace AmbientDecls

structure Param where
  name : String
  type : String := "Object"
  optional : Bool := false
  /-- The documented parts of a callback; an empty list is not the same as none. -/
  properties : Option (List Param) := none
  shortDoc : String := ""

inductive MemberKind
  | property
  | method
  | config
deriving DecidableEq, Repr

namespace MemberKind

def word : MemberKind → String
  | property => "property"
  | method => "method"
  | config => "cfg"

def ofWord? (s : String) : Option MemberKind :=
  [property, method, config].find? fun k => k.word = s

@[simp] theorem ofWord?_word (k : MemberKind) : ofWord? k.word = some k := by cases k <;> rfl

end MemberKind

inductive MemberBody
  | property (type : String) (optional : Bool)
  | method (params : List Param) (returns : Option Param)
  | config (type : String) (optional required : Bool)

structure Member where
  name : String
  owner : String := ""
  isPrivate : Bool := false
  isProtected : Bool := false
  isStatic : Bool := false
  shortDoc : String := ""
  body : MemberBody

namespace Member

def kind (m : Member) : MemberKind :=
  match m.body with
  | .property .. => .property
  | .method .. => .method
  | .config .. => .config

def isConstructor (m : Member) : Bool :=
  m.kind == .method && m.name == "constructor"

end Member

structure ClassRecord where
  name : String
  aliases : List String := []
  /-- The name of the parent class; empty if there is none. -/
  parent : String := ""
  singleton : Bool := false
  members : List Member := []
  mixins : List String := []
  backing : Option String := none
  shortDoc : String := ""

namespace ClassRecord

def nameParts (c : ClassRecord) : List (List Char) := Text.pieces (· == '.') c.name.toList

def baseName (c : ClassRecord) : String := String.ofList (c.nameParts.getLastD [])

/-- The name before the last dot; empty if there is no dot. -/
def moduleName (c : ClassRecord) : String := String.ofList (Text.joined ['.'] c.nameParts.dropLast)

end ClassRecord
end AmbientDecls
