import AmbientDecls.Docs.Record

/-! A fixed set of class records with name, member and parent lookup. A name belongs to the last record that
claims it, as its own name or as an alias; parent links that would close a cycle are cut. -/

namespace AmbientDecls

/-- A class record with its place in the load order, or none if it is not in the registry. -/
structure ClassRef extends ClassRecord where
  place : Option Nat

/-- A table in which the newest entry of a key counts; it stands first. -/
structure Table (α : Type) where
  entries : List (String × α)

namespace Table

variable {α : Type}

def empty : Table α := ⟨[]⟩

def get? (t : Table α) (key : String) : Option α := t.entries.lookup key

def set (t : Table α) (key : String) (a : α) : Table α := ⟨(key, a) :: t.entries⟩

@[simp] theorem get?_empty (key : String) : (empty : Table α).get? key = none := rfl

theorem get?_set (t : Table α) (key k : String) (a : α) :
    (t.set key a).get? k = if k = key then some a else t.get? k := by
  by_cases h : k = key
  · simp [get?, set, h]
  · simp [get?, set, List.lookup_cons, beq_false_of_ne h, h]

end Table

/-- Members of one name in source order, each with its place among the members of the class. -/
abbrev MemberIndex := Table (List (Nat × Member))

def addMember (index : MemberIndex) (m : Nat × Member) : MemberIndex :=
  index.set m.2.name ((index.get? m.2.name).getD [] ++ [m])

def ClassRecord.placedMembers (c : ClassRecord) : List (Nat × Member) :=
  c.members.zipIdx.map fun (m, i) => (i, m)

def ClassRecord.memberIndex (c : ClassRecord) : MemberIndex :=
  c.placedMembers.foldl addMember .empty

structure Module where
  name : String
  classes : List ClassRef

/-- A parent link that was cut: the name of the child and the name of its parent. -/
structure CutLink where
  child : String
  parent : String
deriving DecidableEq, Repr

structure Registry where
  classes : List ClassRef
  names : Table ClassRef
  members : Table MemberIndex
  parents : Table (Option ClassRef)
  cuts : List CutLink

namespace Registry

def placed (records : List ClassRecord) : List ClassRef :=
  records.zipIdx.map fun (c, i) => { c with place := some i }

def claim (names : Table ClassRef) (c : ClassRef) : Table ClassRef :=
  c.aliases.foldl (fun t a => t.set a c) (names.set c.name c)

def documentedParent (names : Table ClassRef) (c : ClassRef) : Option ClassRef :=
  if c.parent.isEmpty then none else names.get? c.parent

def parentIn (parents : Table (Option ClassRef)) (name : String) : Option ClassRef :=
  (parents.get? name).join

/-- Follows the parents from `child` on and finds the first link back to a name in `seen`. -/
def closingLink (parents : Table (Option ClassRef)) : Nat → List String → String → Option CutLink
  | 0, _, _ => none
  | fuel + 1, seen, child =>
    match parentIn parents child with
    | none => none
    | some p =>
      if seen.contains p.name then some ⟨child, p.name⟩
      else closingLink parents fuel (p.name :: seen) p.name

/-- Cuts the link that closes a cycle on the way up from a class, if there is one. -/
def cutFrom (size : Nat) (state : Table (Option ClassRef) × List CutLink) (c : ClassRef) :
    Table (Option ClassRef) × List CutLink :=
  match closingLink state.1 (size + 1) [c.name] c.name with
  | none => state
  | some cut => (state.1.set cut.child none, state.2 ++ [cut])

def ofRecords (records : List ClassRecord) : Registry :=
  let classes := placed records
  let names := classes.foldl claim .empty
  let members := classes.foldl (fun t c => t.set c.name c.memberIndex) Table.empty
  let parents := classes.foldl (fun t c => t.set c.name (documentedParent names c)) Table.empty
  let (parents, cuts) := classes.foldl (cutFrom classes.length) (parents, [])
  ⟨classes, names, members, parents, cuts⟩

def size (r : Registry) : Nat := r.classes.length

def find? (r : Registry) (name : String) : Option ClassRef := r.names.get? name

def contains (r : Registry) (name : String) : Bool := (r.find? name).isSome

def canonical? (r : Registry) (name : String) : Option String := (r.find? name).map (·.name)

def owns (r : Registry) (c : ClassRef) : Bool :=
  match r.find? c.name with
  | some d => d.place.isSome && d.place == c.place
  | none => false

def membersNamed (r : Registry) (c : ClassRef) (name : String) : List (Nat × Member) :=
  if r.owns c then ((r.members.get? c.name).bind fun index => index.get? name).getD []
  else c.placedMembers.filter fun m => m.2.name = name

/-- The first member of a class with a name, of one of the kinds and on the side asked for, with its
place. -/
def placedMember? (r : Registry) (c : ClassRef) (name : String)
    (kinds : Option (List MemberKind)) (side : Option Bool) : Option (Nat × Member) :=
  (r.membersNamed c name).find? fun m =>
    (kinds.all fun ks => ks.contains m.2.kind) && (side.all fun s => m.2.isStatic == s)

def member? (r : Registry) (c : ClassRef) (name : String) (kinds : Option (List MemberKind))
    (side : Option Bool) : Option Member :=
  (r.placedMember? c name kinds side).map (·.2)

def parent? (r : Registry) (c : ClassRef) : Option ClassRef := parentIn r.parents c.name

def chain (r : Registry) : Nat → String → List ClassRef
  | 0, _ => []
  | fuel + 1, name =>
    match parentIn r.parents name with
    | none => []
    | some p => p :: r.chain fuel p.name

/-- The ancestors of a class, nearest first. As no name occurs twice among them, there are no more than
there are classes. -/
def ancestors (r : Registry) (c : ClassRef) : List ClassRef := r.chain r.size c.name

def moduleNames (r : Registry) : List String :=
  (r.classes.map fun c => c.moduleName).eraseDups.mergeSort fun a b => !(b < a)

theorem mem_moduleNames {r : Registry} {c : ClassRef} (h : c ∈ r.classes) :
    c.moduleName ∈ r.moduleNames :=
  List.mem_mergeSort.mpr (List.mem_eraseDups.mpr (List.mem_map_of_mem h))

def modules (r : Registry) : List Module :=
  r.moduleNames.map fun n => ⟨n, r.classes.filter fun c => c.moduleName = n⟩

end Registry
end AmbientDecls
