import AmbientDecls.Docs.Registry
import Mathlib.Data.List.Basic

/-! The tables of a registry against plain searches: a name stands for the last record that claims it, and the
member index of a class finds what a search through its members in source order finds. -/

namespace AmbientDecls

/-- A search for less finds the same element if that element is sought by both. -/
theorem find?_eq_some_of_imp {α : Type} {p q : α → Bool} {l : List α} {a : α}
    (h : l.find? p = some a) (ha : q a = true) (hqp : ∀ x, q x = true → p x = true) :
    l.find? q = some a := by
  induction l with
  | nil => simp at h
  | cons x l ih =>
    by_cases hx : p x = true
    · rw [List.find?_cons_of_pos hx] at h
      obtain rfl := Option.some.inj h
      exact List.find?_cons_of_pos ha
    · rw [List.find?_cons_of_neg hx] at h
      rw [List.find?_cons_of_neg fun hq => hx (hqp x hq)]
      exact ih h

namespace Table

variable {α β : Type}

/-- Entries made one after the other: the last one that sets a key counts. -/
theorem get?_foldl {enter : Table α → β → Table α} (sets : β → String → Bool) (value : β → α)
    (henter : ∀ t b k, (enter t b).get? k = if sets b k then some (value b) else t.get? k)
    (l : List β) (t : Table α) (k : String) :
    (l.foldl enter t).get? k =
      ((l.reverse.find? fun b => sets b k).map value).or (t.get? k) := by
  induction l generalizing t with
  | nil => simp
  | cons b l ih =>
    rw [List.foldl_cons, ih, henter, List.reverse_cons, List.find?_append]
    cases h : l.reverse.find? fun b => sets b k with
    | some c => simp
    | none => cases hb : sets b k <;> simp [hb]

theorem get?_foldl_set (key : β → String) (value : β → α) (l : List β) (k : String) :
    (l.foldl (fun t b => t.set (key b) (value b)) empty).get? k =
      (l.reverse.find? fun b => key b = k).map value := by
  rw [get?_foldl (fun b k => key b = k) value]
  · simp
  · intro t b k
    rw [get?_set]
    by_cases h : k = key b
    · simp [h]
    · simp [h, Ne.symm h]

end Table

def ClassRecord.claims (c : ClassRecord) (name : String) : Bool :=
  c.name = name || c.aliases.contains name

namespace Registry

theorem get?_claim (t : Table ClassRef) (c : ClassRef) (k : String) :
    (claim t c).get? k = if c.claims k then some c else t.get? k := by
  have haliases : ∀ (as : List String) (t : Table ClassRef),
      (as.foldl (fun t a => t.set a c) t).get? k = if as.contains k then some c else t.get? k := by
    intro as
    induction as with
    | nil => intro t; rfl
    | cons a as ih =>
      intro t
      rw [List.foldl_cons, ih, Table.get?_set, List.contains_cons]
      by_cases hk : k = a
      · simp [hk]
      · simp [hk]
  rw [claim, haliases, Table.get?_set, ClassRecord.claims]
  by_cases hk : k = c.name
  · simp [hk]
  · simp [hk, Ne.symm hk]

variable (records : List ClassRecord)

theorem classes_ofRecords : (ofRecords records).classes = placed records := rfl

theorem size_ofRecords : (ofRecords records).size = (placed records).length := rfl

/-- A name stands for the last record that claims it. -/
theorem find?_ofRecords (name : String) :
    (ofRecords records).find? name =
      (placed records).reverse.find? fun c => c.claims name := by
  change ((placed records).foldl claim Table.empty).get? name = _
  rw [Table.get?_foldl (fun c k => c.claims k) id get?_claim]
  simp

variable {records}

theorem mem_classes_of_find? {name : String} {c : ClassRef}
    (h : (ofRecords records).find? name = some c) : c ∈ (ofRecords records).classes := by
  rw [find?_ofRecords] at h
  exact List.mem_reverse.mp (List.mem_of_find?_eq_some h)

theorem eq_of_place_eq {c d : ClassRef} (hc : c ∈ placed records) (hd : d ∈ placed records)
    (h : c.place = d.place) : c = d := by
  obtain ⟨⟨x, i⟩, hx, rfl⟩ := List.mem_map.mp hc
  obtain ⟨⟨y, j⟩, hy, rfl⟩ := List.mem_map.mp hd
  have hij : i = j := Option.some.inj h
  have hxi := List.mem_zipIdx_iff_getElem?.mp hx
  have hyj := List.mem_zipIdx_iff_getElem?.mp hy
  simp only at hxi hyj
  rw [hij, hyj] at hxi
  rw [Option.some.inj hxi, hij]

/-- A class is a record from outside unless it is the one that the registry has at its place. -/
def Proper (r : Registry) (c : ClassRef) : Prop := c.place.isSome → c ∈ r.classes

theorem proper_of_mem {r : Registry} {c : ClassRef} (h : c ∈ r.classes) : r.Proper c := fun _ => h

/-- The last record of a name, aliases left aside. -/
def lastNamed? (r : Registry) (name : String) : Option ClassRef :=
  r.classes.reverse.find? fun c => c.name = name

theorem lastNamed?_eq_some {r : Registry} {name : String} {c : ClassRef}
    (h : r.lastNamed? name = some c) : c ∈ r.classes ∧ c.name = name :=
  ⟨List.mem_reverse.mp (List.mem_of_find?_eq_some h), by simpa using List.find?_some h⟩

theorem get?_members (name : String) :
    (ofRecords records).members.get? name =
      ((ofRecords records).lastNamed? name).map fun c => c.memberIndex :=
  Table.get?_foldl_set (fun c : ClassRef => c.name) (fun c => c.memberIndex) (placed records) name

theorem lastNamed?_of_owns {c : ClassRef} (hc : (ofRecords records).Proper c)
    (h : (ofRecords records).owns c = true) : (ofRecords records).lastNamed? c.name = some c := by
  unfold owns at h
  cases hd : (ofRecords records).find? c.name with
  | none => simp [hd] at h
  | some d =>
    simp only [hd, Bool.and_eq_true, beq_iff_eq] at h
    have hdmem := mem_classes_of_find? hd
    have hcmem := hc (h.2 ▸ h.1)
    obtain rfl := eq_of_place_eq hdmem hcmem h.2
    rw [find?_ofRecords] at hd
    refine find?_eq_some_of_imp hd (by simp) fun x hx => ?_
    simp only [decide_eq_true_eq] at hx
    simp [ClassRecord.claims, hx]

end Registry

theorem get?_foldl_addMember (name : String) (l : List (Nat × Member)) (index : MemberIndex) :
    ((l.foldl addMember index).get? name).getD [] =
      (index.get? name).getD [] ++ l.filter fun m => m.2.name = name := by
  induction l generalizing index with
  | nil => simp
  | cons m l ih =>
    rw [List.foldl_cons, ih, addMember, Table.get?_set]
    by_cases h : name = m.2.name
    · simp [← h]
    · simp [h, Ne.symm h]

namespace Registry

variable {records : List ClassRecord}

theorem membersNamed_eq {c : ClassRef} (hc : (ofRecords records).Proper c) (name : String) :
    (ofRecords records).membersNamed c name =
      c.placedMembers.filter fun m => m.2.name = name := by
  unfold membersNamed
  split
  · rename_i h
    rw [get?_members, lastNamed?_of_owns hc h]
    have hindex := get?_foldl_addMember name c.placedMembers Table.empty
    simpa [ClassRecord.memberIndex] using hindex
  · rfl

theorem member?_eq {c : ClassRef} (hc : (ofRecords records).Proper c) (name : String)
    (kinds : Option (List MemberKind)) (side : Option Bool) :
    (ofRecords records).member? c name kinds side =
      c.members.find? fun m => m.name = name &&
        ((kinds.all fun ks => ks.contains m.kind) && side.all fun s => m.isStatic == s) := by
  have hplaced : ∀ p : Member → Bool,
      (c.placedMembers.find? fun m => p m.2).map (·.2) = c.members.find? p := by
    intro p
    have hsnd : c.placedMembers.map (·.2) = c.members := by
      simp [ClassRecord.placedMembers, List.zipIdx_map_fst, Function.comp_def]
    rw [← hsnd, List.find?_map]
    rfl
  rw [member?, placedMember?, membersNamed_eq hc, List.find?_filter, ← hplaced]
  simp only [Bool.decide_and, Bool.decide_eq_true]

end Registry
end AmbientDecls
