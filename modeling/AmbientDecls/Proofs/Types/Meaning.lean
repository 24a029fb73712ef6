import AmbientDecls.Proofs.Data.Descent
import AmbientDecls.Proofs.Data.Firsts
import AmbientDecls.Proofs.Docs.Lookup
import AmbientDecls.Proofs.Types.Alternative
import AmbientDecls.Proofs.Types.Reading
import AmbientDecls.Proofs.Types.Tree

/-! What documented types mean. An alternative is a literal, a built-in type, a class or the values of an enumeration
in as many arrays as it has markers, and without any of these it is the unknown type; a described callback
is a function. -/

namespace AmbientDecls

open Relation

/-- Where a list ends in a default, the element before the list is the default of the list. -/
theorem getD_getLast?_cons {α β : Type} (f : α → β) (a : α) (l : List α) (b : β) :
    ((a :: l).getLast?.map f).getD b = (l.getLast?.map f).getD (f a) := by
  rw [List.getLast?_cons]
  cases l.getLast? <;> rfl

namespace Param

/-- Whether a descriptor of a callback is for what it returns. -/
def isReturn (p : Param) : Bool := p.name == returnName

def arguments (ps : List Param) : List Param := ps.filter fun p => !p.isReturn

def returns (ps : List Param) : List Param := ps.filter isReturn

theorem arguments_cons_of_isReturn {p : Param} (h : p.name = returnName) (ps : List Param) :
    arguments (p :: ps) = arguments ps := List.filter_cons_of_neg (by simp [isReturn, h])

theorem arguments_cons_of_not_isReturn {p : Param} (h : p.name ≠ returnName) (ps : List Param) :
    arguments (p :: ps) = p :: arguments ps := List.filter_cons_of_pos (by simp [isReturn, h])

theorem returns_cons_of_isReturn {p : Param} (h : p.name = returnName) (ps : List Param) :
    returns (p :: ps) = p :: returns ps := List.filter_cons_of_pos (by simp [isReturn, h])

theorem returns_cons_of_not_isReturn {p : Param} (h : p.name ≠ returnName) (ps : List Param) :
    returns (p :: ps) = returns ps := List.filter_cons_of_neg (by simp [isReturn, h])

theorem isEmpty_arguments (ps : List Param) :
    (arguments ps).isEmpty = !ps.any fun p => p.name != returnName := by
  induction ps with
  | nil => rfl
  | cons p ps ih =>
    by_cases h : p.name = returnName
    · rw [arguments_cons_of_isReturn h, ih]
      simp [h]
    · rw [arguments_cons_of_not_isReturn h]
      simp [h]

end Param

def unknownTree : TypeTree := .name unknownType

/-- A built-in type by its declared name, which may be one of arrays. -/
def builtinTree (shown : String → String) (target : String) : TypeTree :=
  let slot := Slot.ofPiece target.toList
  .arrays slot.depth (.name (shown slot.base))

namespace Registry

variable (r : Registry)

/-- A type stands behind an enumeration that is an alternative of another type. -/
def BackedBy (b type : String) : Prop := ∃ slot ∈ Slot.documented type, r.backing? slot = some b

def slotTree (shown : String → String) (expand : String → TypeTree) (slot : Slot) : TypeTree :=
  if slot.isLiteral then .arrays slot.depth (.literal slot.base)
  else match builtin? slot.base with
    | some target => .arrays slot.depth (builtinTree shown target)
    | none => match r.find? slot.base with
      | none => unknownTree
      | some c => .arrays slot.depth (match c.backing with
        | none => .name c.name
        | some b => expand b)

variable {r} (hwf : WellFounded r.BackedBy) (shown : String → String)

/-- A type without descriptors; an enumeration stands for the type behind it. -/
noncomputable def plainTree : String → TypeTree :=
  hwf.fix fun type expand => .union ((Slot.documented type).map (r.slotTree shown fun b =>
    open Classical in if h : r.BackedBy b type then expand b h else unknownTree))

theorem slotTree_congr {f g : String → TypeTree} {slot : Slot}
    (h : ∀ b, r.backing? slot = some b → f b = g b) :
    r.slotTree shown f slot = r.slotTree shown g slot := by
  unfold slotTree
  cases r.reading slot with
  | literal hliteral => rw [if_pos hliteral, if_pos hliteral]
  | builtin target hliteral hbuiltin => simp only [hliteral, hbuiltin]
  | unknown hliteral hbuiltin hfind => simp only [hliteral, hbuiltin, hfind]
  | named c hliteral hbuiltin hfind hbacking => simp only [hliteral, hbuiltin, hfind, hbacking]
  | enumeration b hb =>
    obtain ⟨hliteral, hbuiltin, c, hfind, hbacking⟩ := backing?_eq_some hb
    simp only [hliteral, hbuiltin, hfind, hbacking, h b hb]

theorem plainTree_eq (type : String) :
    plainTree hwf shown type =
      .union ((Slot.documented type).map (r.slotTree shown (plainTree hwf shown))) := by
  unfold plainTree
  rw [WellFounded.fix_eq]
  congr 1
  refine List.map_congr_left fun slot hslot => slotTree_congr shown fun b hb => ?_
  rw [dif_pos ⟨slot, hslot, hb⟩]

end Registry

/-- A descriptor with its type, and with the type before the mark of a rest parameter. -/
structure Described where
  name : String
  optional : Bool
  tree : TypeTree
  element? : Option TypeTree

/-- A parameter of a callback before it is known which of the parameters around it are optional. -/
structure Part where
  name : String
  optional : Bool
  rest : Bool
  tree : TypeTree

namespace Described

/-- A rest parameter is an array; its elements are known if no other parameter is documented behind it. -/
def part (d : Described) (last : Bool) : Part :=
  match d.element? with
  | none => ⟨paramName d.name, d.optional, false, d.tree⟩
  | some element =>
    ⟨paramName d.name, d.optional, true, .array (if last then element else unknownTree)⟩

def parts : List Described → List Part
  | [] => []
  | d :: ds => d.part ds.isEmpty :: parts ds

/-- All up to the first rest parameter. -/
def throughRest : List Part → List Part
  | [] => []
  | p :: ps => if p.rest then [p] else p :: throughRest ps

/-- Behind an optional parameter all are optional; a rest parameter has its own mark. -/
def marked : Bool → List Part → List (Label × TypeTree)
  | _, [] => []
  | started, p :: ps =>
    let optional := started || p.optional
    (⟨p.name, if p.rest then .rest else if optional then .optional else .required⟩, p.tree) ::
      marked optional ps

/-- The parameters of a callback: of those with one name the first, and none behind a rest parameter. -/
def paramTrees (ds : List Described) : List (Label × TypeTree) :=
  marked false (throughRest (firsts Part.name [] (parts ds)))

def arguments (ds : List Described) : List Described := ds.filter fun d => d.name != returnName

/-- What a callback returns after descriptors that documented `t`: the last descriptor counts. -/
def returned (ds : List Described) (t : TypeTree) : TypeTree :=
  ((ds.filter fun d => d.name == returnName).getLast?.map Described.tree).getD t

def functionTree (ds : List Described) : TypeTree :=
  .function (paramTrees (arguments ds)) (returned ds unknownTree)

end Described

namespace Registry

variable {r : Registry} (hwf : WellFounded r.BackedBy) (shown : String → String)

mutual

/-- A type with descriptors, or without. -/
noncomputable def typeTree (type : String) : Option (List Param) → TypeTree
  | none => plainTree hwf shown type
  | some ps =>
    let callback := Described.functionTree (describedAll ps)
    .union ((Slot.documented type).map fun slot =>
      if slot.base = functionType then .arrays slot.depth callback
      else r.slotTree shown (plainTree hwf shown) slot)
termination_by structural ps => ps

noncomputable def described : Param → Described
  | ⟨name, type, optional, properties, _⟩ =>
    ⟨name, optional, typeTree type properties,
      match restElement? type with
      | none => none
      | some element => some (typeTree element properties)⟩
termination_by structural p => p

noncomputable def describedAll : List Param → List Described
  | [] => []
  | p :: ps => described p :: describedAll ps
termination_by structural ps => ps

end

theorem typeTree_none (type : String) :
    typeTree hwf shown type none = plainTree hwf shown type := by
  rw [typeTree]

theorem typeTree_some (type : String) (ps : List Param) :
    typeTree hwf shown type (some ps) = .union ((Slot.documented type).map fun slot =>
      if slot.base = functionType then
        .arrays slot.depth (Described.functionTree (describedAll hwf shown ps))
      else r.slotTree shown (plainTree hwf shown) slot) := by
  rw [typeTree]

theorem described_eq (p : Param) :
    described hwf shown p = ⟨p.name, p.optional, typeTree hwf shown p.type p.properties,
      (restElement? p.type).map fun element => typeTree hwf shown element p.properties⟩ := by
  obtain ⟨name, type, optional, properties, shortDoc⟩ := p
  rw [described]
  cases restElement? type with
  | none => rfl
  | some element => rfl

theorem describedAll_eq (ps : List Param) :
    describedAll hwf shown ps = ps.map (described hwf shown) := by
  induction ps with
  | nil => rw [describedAll, List.map_nil]
  | cons p ps ih => rw [describedAll, ih, List.map_cons]

theorem arguments_describedAll (ps : List Param) : Described.arguments (describedAll hwf shown ps) =
    (Param.arguments ps).map (described hwf shown) := by
  have hname : (fun d : Described => d.name != returnName) ∘ described hwf shown =
      fun p => !p.isReturn := by
    funext p
    rw [Function.comp_apply, described_eq]
    rfl
  rw [describedAll_eq, Described.arguments, List.filter_map, hname]
  rfl

theorem returned_describedAll (ps : List Param) (t : TypeTree) :
    Described.returned (describedAll hwf shown ps) t =
      ((Param.returns ps).getLast?.map fun p => typeTree hwf shown p.type p.properties).getD t := by
  have hname : (fun d : Described => d.name == returnName) ∘ described hwf shown = Param.isReturn := by
    funext p
    rw [Function.comp_apply, described_eq]
    rfl
  have htree : Described.tree ∘ described hwf shown = fun p => typeTree hwf shown p.type p.properties := by
    funext p
    rw [Function.comp_apply, described_eq]
  rw [describedAll_eq, Described.returned, List.filter_map, hname, List.getLast?_map, Option.map_map,
    htree]
  rfl

end Registry

mutual

/-- Descriptors whose names are identifiers and whose quoted alternatives are clean. -/
def areClean : Option (List Param) → Bool
  | none => true
  | some ps => areAllClean ps
termination_by structural ps => ps

def isCleanParam : Param → Bool
  | ⟨name, type, _, properties, _⟩ =>
    isName name.toList && (Slot.documented type).all Slot.isClean &&
      ((restElement? type).all fun element => (Slot.documented element).all Slot.isClean) &&
        areClean properties
termination_by structural p => p

def areAllClean : List Param → Bool
  | [] => true
  | p :: ps => isCleanParam p && areAllClean ps
termination_by structural ps => ps

end

theorem isCleanParam_iff {p : Param} : isCleanParam p = true ↔
    isName p.name.toList = true ∧ (Slot.documented p.type).all Slot.isClean = true ∧
      (∀ element, restElement? p.type = some element →
        (Slot.documented element).all Slot.isClean = true) ∧ areClean p.properties = true := by
  obtain ⟨name, type, optional, properties, shortDoc⟩ := p
  rw [isCleanParam]
  cases restElement? type with
  | none => simp [and_assoc]
  | some element => simp [and_assoc]

end AmbientDecls
