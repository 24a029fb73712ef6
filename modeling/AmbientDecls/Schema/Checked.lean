/-! Checking documents against a schema. All faults of a document are collected, each with the path to
the value at fault, in the order in which the schema looks at the values. -/

namespace AmbientDecls.Schema

/-- One step into a document: a key or a place in a list. -/
inductive Step
  | field (name : String)
  | index (i : Nat)
deriving DecidableEq, Repr

inductive Fault
  | missing
  | notText
  | textTooShort
  | notBool
  | unreadableBool
  | notInt
  | unreadableInt
  | fractionalInt
  | tooLargeInt
  | notFinite
  | notFloat
  | unreadableFloat
  | notPositive
  | notAChoice
  | notATuple
  | notAList
  | notAModel
  | notAMember
  | tooDeep
deriving DecidableEq, Repr

structure Issue where
  fault : Fault
  path : List Step
deriving DecidableEq, Repr

inductive Checked (α : Type)
  | passed (a : α)
  | failed (issues : List Issue)
deriving DecidableEq, Repr

namespace Checked

variable {α β : Type}

def map (f : α → β) : Checked α → Checked β
  | passed a => passed (f a)
  | failed is => failed is

/-- Both must pass; the faults of both are kept, the left ones first. -/
def seq (f : Checked (α → β)) (a : Unit → Checked α) : Checked β :=
  match f, a () with
  | passed f, passed a => passed (f a)
  | passed _, failed is => failed is
  | failed is, passed _ => failed is
  | failed is, failed js => failed (is ++ js)

instance : Applicative Checked where
  map := map
  pure := passed
  seq := seq

@[simp] theorem pure_eq (a : α) : (pure a : Checked α) = passed a := rfl

@[simp] theorem map_passed (f : α → β) (a : α) : f <$> passed a = passed (f a) := rfl

@[simp] theorem map_failed (f : α → β) (is : List Issue) : f <$> failed is = failed is := rfl

@[simp] theorem seq_passed (f : α → β) (a : α) : passed f <*> passed a = passed (f a) := rfl

@[simp] theorem seq_failed (f : α → β) (is : List Issue) :
    passed f <*> (failed is : Checked α) = failed is := rfl

@[simp] theorem failed_seq (is : List Issue) (a : α) :
    (failed is : Checked (α → β)) <*> passed a = failed is := rfl

@[simp] theorem failed_seq_failed (is js : List Issue) :
    (failed is : Checked (α → β)) <*> (failed js : Checked α) = failed (is ++ js) := rfl

def fault (f : Fault) : Checked α := failed [⟨f, []⟩]

def under (s : Step) : Checked α → Checked α
  | passed a => passed a
  | failed is => failed (is.map fun i => { i with path := s :: i.path })

@[simp] theorem under_passed (s : Step) (a : α) : under s (passed a) = passed a := rfl

/-- The next check, made only on a value that passed. -/
def andThen (a : Checked α) (f : α → Checked β) : Checked β :=
  match a with
  | passed a => f a
  | failed is => failed is

/-- All checks of a list; the faults of all items are kept. -/
def all : List (Checked α) → Checked (List α)
  | [] => passed []
  | c :: cs => List.cons <$> c <*> all cs

@[simp] theorem all_nil : all ([] : List (Checked α)) = passed [] := rfl

theorem all_cons (c : Checked α) (cs : List (Checked α)) :
    all (c :: cs) = List.cons <$> c <*> all cs := rfl

end Checked
end AmbientDecls.Schema
