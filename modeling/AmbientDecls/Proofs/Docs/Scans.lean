import AmbientDecls.Proofs.Docs.Lookup
import Mathlib.Data.List.Induction

/-! The tables of a registry against searches through the records as they were loaded: the last record that claims a
name stands for it, and the first member that answers is found, also in a record that a later one shadows. -/

namespace AmbientDecls

section Scans

variable {α : Type} {p : α → Prop} {l : List α} {i : Nat} {a : α}

/-- The element at a place is the first of a list that has a property. -/
def IsFirst (p : α → Prop) (l : List α) (i : Nat) (a : α) : Prop :=
  (l[i]? = some a ∧ p a) ∧ ∀ j b, j < i → l[j]? = some b → ¬ p b

/-- The element at a place is the last of a list that has a property. -/
def IsLast (p : α → Prop) (l : List α) (i : Nat) (a : α) : Prop :=
  (l[i]? = some a ∧ p a) ∧ ∀ j b, i < j → l[j]? = some b → ¬ p b

theorem find?_zipIdx_eq_some_iff [DecidablePred p] :
    (l.zipIdx.find? fun x => p x.1) = some (a, i) ↔ IsFirst p l i a := by
  have hat : ∀ (j : Nat) (b : α) (k : Nat), l.zipIdx[j]? = some (b, k) ↔ l[j]? = some b ∧ j = k := by
    intro j b k
    rw [List.getElem?_zipIdx]
    cases l[j]? <;> simp
  rw [List.find?_eq_some_iff_getElem]
  constructor
  · rintro ⟨ha, k, hk, heq, hbefore⟩
    obtain ⟨hl, rfl⟩ := (hat k a i).mp (by rw [List.getElem?_eq_getElem hk, heq])
    refine ⟨⟨hl, by simpa using ha⟩, fun j b hj hb => ?_⟩
    obtain ⟨_, hget⟩ := List.getElem?_eq_some_iff.mp ((hat j b j).mpr ⟨hb, rfl⟩)
    simpa [hget] using hbefore j hj
  · rintro ⟨⟨hl, ha⟩, hbefore⟩
    obtain ⟨hi, hget⟩ := List.getElem?_eq_some_iff.mp ((hat i a i).mpr ⟨hl, rfl⟩)
    refine ⟨by simpa using ha, i, hi, hget, fun j hj => ?_⟩
    have hjl : j < l.length := Nat.lt_trans hj (List.getElem?_eq_some_iff.mp hl).1
    simpa using hbefore j l[j] hj (List.getElem?_eq_getElem hjl)

theorem isLast_concat {b : α} :
    IsLast p (l ++ [b]) i a ↔ (p b ∧ i = l.length ∧ a = b) ∨ (¬ p b ∧ IsLast p l i a) := by
  have hlast : (l ++ [b])[l.length]? = some b := by simp
  have hfront : ∀ {j : Nat}, j < l.length → (l ++ [b])[j]? = l[j]? := List.getElem?_append_left
  have hlength : ∀ {j : Nat} {c : α}, (l ++ [b])[j]? = some c → j < l.length ∨ j = l.length := by
    intro j c hc
    have hj := (List.getElem?_eq_some_iff.mp hc).1
    simp only [List.length_append, List.length_singleton] at hj
    omega
  constructor
  · rintro ⟨⟨ha, hpa⟩, hafter⟩
    rcases hlength ha with hi | rfl
    · refine Or.inr ⟨hafter _ b hi hlast, ⟨hfront hi ▸ ha, hpa⟩, fun j c hj hc => ?_⟩
      exact hafter j c hj ((hfront (List.getElem?_eq_some_iff.mp hc).1).trans hc)
    · obtain rfl : b = a := Option.some.inj (hlast.symm.trans ha)
      exact Or.inl ⟨hpa, rfl, rfl⟩
  · rintro (⟨hb, rfl, rfl⟩ | ⟨hb, ⟨ha, hpa⟩, hafter⟩)
    · refine ⟨⟨hlast, hb⟩, fun j c hj hc => ?_⟩
      rcases hlength hc with hlt | rfl <;> omega
    · refine ⟨⟨(hfront (List.getElem?_eq_some_iff.mp ha).1).trans ha, hpa⟩, fun j c hj hc => ?_⟩
      rcases hlength hc with hlt | rfl
      · exact hafter j c hj (hfront hlt ▸ hc)
      · exact Option.some.inj (hlast.symm.trans hc) ▸ hb

theorem find?_reverse_eq_some_iff [DecidablePred p] :
    (l.reverse.find? fun x => p x) = some a ↔ ∃ i, IsLast p l i a := by
  induction l using List.reverseRecOn with
  | nil => simp [IsLast]
  | append_singleton l b ih =>
    rw [List.reverse_append, List.reverse_singleton, List.singleton_append, List.find?_cons]
    by_cases hb : p b
    · simp [isLast_concat, hb, eq_comm]
    · simp [isLast_concat, hb, ih]

end Scans

theorem Registry.isLast_placed {p : ClassRecord → Prop} {records : List ClassRecord} {i : Nat} {c : ClassRef} :
    IsLast (fun d : ClassRef => p d.toClassRecord) (placed records) i c ↔
      c.place = some i ∧ IsLast p records i c.toClassRecord := by
  have hat : ∀ (j : Nat) (d : ClassRef), (placed records)[j]? = some d ↔
      d.place = some j ∧ records[j]? = some d.toClassRecord := by
    intro j d
    rw [placed, List.getElem?_map, List.getElem?_zipIdx]
    obtain ⟨record, place⟩ := d
    cases records[j]? with
    | none => simp
    | some c => simp [and_comm, eq_comm]
  unfold IsLast
  rw [hat, and_assoc, and_assoc, and_assoc]
  refine and_congr_right fun _ => and_congr_right fun _ => and_congr_right fun _ => ?_
  constructor
  · intro h j d hj hd
    exact h j ⟨d, some j⟩ hj ((hat j ⟨d, some j⟩).mpr ⟨rfl, hd⟩)
  · intro h j d hj hd
    exact h j d.toClassRecord hj ((hat j d).mp hd).2

/-- A member is called so, is of one of the kinds and stands on the side asked for. -/
def Member.Answers (name : String) (kinds : Option (List MemberKind)) (side : Option Bool) (m : Member) : Prop :=
  m.name = name ∧ (∀ ks ∈ kinds, m.kind ∈ ks) ∧ ∀ s ∈ side, m.isStatic = s

instance (name : String) (kinds : Option (List MemberKind)) (side : Option Bool) (m : Member) :
    Decidable (m.Answers name kinds side) :=
  inferInstanceAs (Decidable (m.name = name ∧ (∀ ks ∈ kinds, m.kind ∈ ks) ∧ ∀ s ∈ side, m.isStatic = s))

namespace Registry

variable {records : List ClassRecord}

theorem placedMember?_eq {c : ClassRef} (hc : (ofRecords records).Proper c) (name : String)
    (kinds : Option (List MemberKind)) (side : Option Bool) :
    (ofRecords records).placedMember? c name kinds side =
      (c.members.zipIdx.find? fun x => x.1.Answers name kinds side).map fun x => (x.2, x.1) := by
  have htest : ∀ m : Member, (m.name = name ∧
      ((kinds.all fun ks => ks.contains m.kind) && (side.all fun s => m.isStatic == s)) = true) ↔
        m.Answers name kinds side := by
    intro m
    cases kinds <;> cases side <;> simp [Member.Answers]
  rw [placedMember?, membersNamed_eq hc, List.find?_filter, ClassRecord.placedMembers, List.find?_map]
  simp only [Function.comp_def, decide_eq_true_eq, htest]

theorem placedMember?_eq_some_iff {c : ClassRef} (hc : (ofRecords records).Proper c) {name : String}
    {kinds : Option (List MemberKind)} {side : Option Bool} {i : Nat} {m : Member} :
    (ofRecords records).placedMember? c name kinds side = some (i, m) ↔
      IsFirst (Member.Answers name kinds side) c.members i m := by
  rw [placedMember?_eq hc, ← find?_zipIdx_eq_some_iff, Option.map_eq_some_iff]
  constructor
  · rintro ⟨⟨m', i'⟩, hfound, heq⟩
    obtain ⟨rfl, rfl⟩ := Prod.mk.inj heq
    exact hfound
  · intro hfound
    exact ⟨(m, i), hfound, rfl⟩

theorem placedMember?_eq_none_iff {c : ClassRef} (hc : (ofRecords records).Proper c) {name : String}
    {kinds : Option (List MemberKind)} {side : Option Bool} :
    (ofRecords records).placedMember? c name kinds side = none ↔ ∀ m ∈ c.members, ¬ m.Answers name kinds side := by
  rw [placedMember?_eq hc, Option.map_eq_none_iff, List.find?_eq_none]
  constructor
  · intro h m hm
    obtain ⟨i, hi⟩ := List.getElem?_of_mem hm
    have hmem : (m, i) ∈ c.members.zipIdx := List.mem_zipIdx_iff_getElem?.mpr hi
    simpa using h (m, i) hmem
  · rintro h ⟨m, i⟩ hm
    have hmem : m ∈ c.members := List.mem_of_getElem? (List.mem_zipIdx_iff_getElem?.mp hm)
    simpa using h m hmem

theorem find?_eq_some_iff {name : String} {c : ClassRef} :
    (ofRecords records).find? name = some c ↔
      ∃ i, c.place = some i ∧ IsLast (fun d => d.claims name = true) records i c.toClassRecord := by
  rw [find?_ofRecords]
  have hlast := find?_reverse_eq_some_iff (p := fun d : ClassRef => d.claims name = true) (l := placed records)
    (a := c)
  simp only [Bool.decide_eq_true] at hlast
  rw [hlast]
  exact exists_congr fun i => isLast_placed (p := fun d => d.claims name = true)

theorem find?_eq_none_iff {name : String} :
    (ofRecords records).find? name = none ↔ ∀ d ∈ records, d.claims name = false := by
  rw [find?_ofRecords, List.find?_eq_none]
  constructor
  · intro h d hd
    obtain ⟨i, hi⟩ := List.getElem?_of_mem hd
    have hmem : (⟨d, some i⟩ : ClassRef) ∈ placed records :=
      List.mem_map.mpr ⟨(d, i), List.mem_zipIdx_iff_getElem?.mpr hi, rfl⟩
    simpa using h _ (List.mem_reverse.mpr hmem)
  · intro h c hc
    obtain ⟨⟨d, i⟩, hd, rfl⟩ := List.mem_map.mp (List.mem_reverse.mp hc)
    simp [h d (List.mem_of_getElem? (List.mem_zipIdx_iff_getElem?.mp hd))]

/-- The tables of a registry answer as searches through its records do. -/
theorem tables_eq_scans (records : List ClassRecord) :
    (∀ name c, (ofRecords records).find? name = some c ↔
      ∃ i, c.place = some i ∧ IsLast (fun d => d.name = name ∨ name ∈ d.aliases) records i c.toClassRecord) ∧
    (∀ name, ((ofRecords records).find? name = none ↔ ∀ d ∈ records, d.name ≠ name ∧ name ∉ d.aliases) ∧
      ((ofRecords records).contains name = false ↔ (ofRecords records).find? name = none)) ∧
    ∀ c, c ∈ (ofRecords records).classes ∨ c.place = none → ∀ name kinds side,
      (∀ i m, (ofRecords records).placedMember? c name kinds side = some (i, m) ↔
        IsFirst (Member.Answers name kinds side) c.members i m) ∧
      ((ofRecords records).placedMember? c name kinds side = none ↔
        ∀ m ∈ c.members, ¬ m.Answers name kinds side) := by
  have hclaims : ∀ (name : String) (d : ClassRecord), d.claims name = true ↔ d.name = name ∨ name ∈ d.aliases := by
    intro name d
    simp [ClassRecord.claims]
  refine ⟨fun name c => ?_, fun name => ⟨?_, ?_⟩, fun c hc name kinds side => ?_⟩
  · rw [find?_eq_some_iff]
    simp only [hclaims]
  · rw [find?_eq_none_iff]
    simp only [← Bool.not_eq_true, hclaims, not_or]
  · rw [contains, Option.isSome_eq_false_iff, Option.isNone_iff_eq_none]
  · have hproper : (ofRecords records).Proper c := by
      rcases hc with hmem | houtside
      · exact proper_of_mem hmem
      · intro hplace
        simp [houtside] at hplace
    exact ⟨fun i m => placedMember?_eq_some_iff hproper, placedMember?_eq_none_iff hproper⟩

/-! A name that is documented twice, and whose first record is only reached by its place. -/

def shadowedRecords : List ClassRecord :=
  [{ name := "Ext.A", aliases := ["Ext.B"], members := [{ name := "x", body := .property "String" false }] },
    { name := "Ext.A", members := [{ name := "y", body := .method [] none },
      { name := "x", isStatic := true, body := .config "Number" false false }] }]

def shadowed : ClassRef := ⟨shadowedRecords.head (by decide), some 0⟩

theorem tables_eq_scans_shadowed : shadowed ∈ (ofRecords shadowedRecords).classes ∧
    (ofRecords shadowedRecords).placedMember? shadowed "x" none none =
      some (0, { name := "x", body := .property "String" false }) := by
  have hmem : shadowed ∈ (ofRecords shadowedRecords).classes := List.mem_cons_self
  obtain ⟨_, _, hmembers⟩ := tables_eq_scans shadowedRecords
  refine ⟨hmem, ((hmembers shadowed (Or.inl hmem) "x" none none).1 0 _).mpr ⟨⟨rfl, by decide⟩, ?_⟩⟩
  intro j m hj
  exact absurd hj (Nat.not_lt_zero j)

end Registry
end AmbientDecls
