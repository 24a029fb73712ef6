import AmbientDecls.Proofs.Data.Sequences
import AmbientDecls.Proofs.Types.PlainTypes

/-! Enumerations behind enumerations. Where no type stands behind itself, fewer types stand behind each other than there are
classes, so that every conversion goes on to the end: more fuel changes nothing. -/

namespace AmbientDecls

open Emit Relation

/-- A type stands behind an enumeration that an alternative of another type names, read as conversions read it. -/
def Registry.Behind (r : Registry) (b type : String) : Prop :=
  ∃ slot ∈ Slot.all type, r.backing? slot = some b

theorem convertSlot_congr {r : Registry} {f g : String → Emit String} {slot : Slot}
    (h : ∀ b, r.backing? slot = some b → f b = g b) (subject : String) :
    convertSlot r f subject slot = convertSlot r g subject slot := by
  cases r.reading slot with
  | literal hliteral => rw [convertSlot_of_isLiteral r f subject hliteral, convertSlot_of_isLiteral r g subject hliteral]
  | builtin target hliteral hbuiltin =>
    rw [convertSlot_of_builtin r f subject hliteral hbuiltin, convertSlot_of_builtin r g subject hliteral hbuiltin]
  | unknown hliteral hbuiltin hfind =>
    rw [convertSlot_of_find?_eq_none r f subject hliteral hbuiltin hfind,
      convertSlot_of_find?_eq_none r g subject hliteral hbuiltin hfind]
  | named c hliteral hbuiltin hfind hbacking =>
    rw [convertSlot_of_find? hliteral hbuiltin hfind hbacking, convertSlot_of_find? hliteral hbuiltin hfind hbacking]
  | enumeration b hbacking =>
    rw [convertSlot_of_backing? r f subject hbacking, convertSlot_of_backing? r g subject hbacking, h b hbacking]

variable {records : List ClassRecord}

theorem backing_of_behind {b type : String} (h : (Registry.ofRecords records).Behind b type) :
    b ∈ (Registry.ofRecords records).backings := by
  obtain ⟨_, _, hb⟩ := h
  exact mem_backings_of_backing? hb

/-- The fuel of a conversion is never used up. -/
theorem convertPlain_typeFuel (hacyclic : ∀ b, ¬ TransGen (Registry.ofRecords records).Behind b b)
    (type : String) (more : Nat) :
    convertPlain (Registry.ofRecords records) ((Registry.ofRecords records).typeFuel + more) type =
      convert (Registry.ofRecords records) type none := by
  let r := Registry.ofRecords records
  let P : Nat → String → Prop := fun fuel type =>
    ∀ more, convertPlain r (fuel + more) type = convertPlain r fuel type
  have hstep : ∀ fuel type, (∀ b, r.Behind b type → P fuel b) → P (fuel + 1) type := by
    intro fuel type ih more
    rw [Nat.add_right_comm, convertPlain, convertPlain]
    -- of what the enumerations stand for only the types behind this one are asked
    refine congrArg (· >>= fun texts => pure ("|".intercalate texts)) (mapM_congr fun slot hslot => ?_)
    exact convertSlot_congr (fun b hb => ih b ⟨slot, hslot, hb⟩ more) type
  have hbound : r.backings.length ≤ r.size := List.length_filterMap_le _ _
  rw [convert]
  refine hstep r.size type (fun b hb => ?_) more
  exact descent (P := P) backing_of_behind hbound hacyclic hstep hb

/-- Where types behind others are of lower rank, none stands behind itself. -/
theorem acyclic_of_rank (rank : String → Nat)
    (h : ∀ type ∈ (Registry.ofRecords records).backings, ∀ slot ∈ Slot.all type,
      ∀ b ∈ (Registry.ofRecords records).backing? slot, rank b < rank type) (b : String) :
    ¬ TransGen (Registry.ofRecords records).Behind b b := by
  have hlower : ∀ type, TransGen (Registry.ofRecords records).Behind b type →
      type ∈ (Registry.ofRecords records).backings → rank b < rank type := by
    intro type hbehind
    induction hbehind with
    | single hstep =>
      obtain ⟨slot, hslot, hb⟩ := hstep
      exact fun htype => h _ htype slot hslot b hb
    | tail _ hstep ih =>
      obtain ⟨slot, hslot, hb⟩ := hstep
      exact fun htype => Nat.lt_trans (ih (backing_of_behind ⟨slot, hslot, hb⟩)) (h _ htype slot hslot _ hb)
  intro hcycle
  obtain ⟨_, hfirst, _⟩ := TransGen.head'_iff.mp hcycle
  exact absurd (hlower b hcycle (backing_of_behind hfirst)) (Nat.lt_irrefl _)

/-! An enumeration behind another one. -/

def exampleSwitch : ClassRecord := { name := "Ext.Switch", backing := some "'on'|'off'" }

def exampleSetting : ClassRecord := { name := "Ext.Setting", backing := some "Ext.Switch/Number" }

end AmbientDecls
