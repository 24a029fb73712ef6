import AmbientDecls.Text.Pieces

/-! Paths: a root of zero, one or two slashes and the names below it. Empty names and single dots do not count, double
dots stay, and the empty path is written as a dot. -/

namespace AmbientDecls

structure Path where
  /-- How many slashes a path begins with; two are not the same as one. -/
  slashes : Nat
  parts : List String
deriving DecidableEq, Repr

namespace Path

def partsOf (s : List Char) : List String :=
  ((Text.pieces (· == '/') s).filter fun p => !p.isEmpty && p != ['.']).map String.ofList

def rootOf : List Char → Nat
  | '/' :: '/' :: '/' :: _ => 1
  | '/' :: '/' :: _ => 2
  | '/' :: _ => 1
  | _ => 0

def ofText (s : String) : Path := ⟨rootOf s.toList, partsOf s.toList⟩

def isAbsolute (p : Path) : Bool := p.slashes != 0

def toText (p : Path) : String :=
  if p.slashes = 0 ∧ p.parts = [] then "."
  else String.ofList (List.replicate p.slashes '/') ++ "/".intercalate p.parts

/-- A path seen from another; an absolute one stays as it is. -/
def append (p q : Path) : Path := if q.isAbsolute then q else ⟨p.slashes, p.parts ++ q.parts⟩

instance : Append Path := ⟨append⟩

def child (p : Path) (s : String) : Path := p ++ ofText s

/-- The last name; empty if there is none. -/
def name (p : Path) : String := p.parts.getLastD ""

def endsInDots (p : Path) : Bool := p.parts.getLastD ".." == ".."

/-- Whether a name holds a NUL character; no file can have one. -/
def hasNul (p : Path) : Bool := p.parts.any fun n => n.contains '\x00'

def parent (p : Path) : Path := ⟨p.slashes, p.parts.dropLast⟩

def withName (p : Path) (name : String) : Path := ⟨p.slashes, p.parts.dropLast ++ [name]⟩

@[simp] theorem parent_withName (p : Path) (name : String) : (p.withName name).parent = p.parent := by
  simp [parent, withName]

/-- The names from the root on, with double dots taken back; those at the root go nowhere. -/
def settle : List String → List String → List String
  | place, [] => place
  | place, n :: rest => if n = ".." then settle place.dropLast rest else settle (place ++ [n]) rest

end Path
end AmbientDecls
