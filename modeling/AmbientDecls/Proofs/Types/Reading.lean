import AmbientDecls.Types.Conversion

/-! What an alternative is read as: a literal, a built-in type, a class, an enumeration, or nothing that is known. Each of
these is converted in one way. -/

namespace AmbientDecls

open Emit

namespace Registry

variable (r : Registry)

/-- The type behind an alternative that names an enumeration. -/
def backing? (slot : Slot) : Option String :=
  if slot.isLiteral || (builtin? slot.base).isSome then none
  else (r.find? slot.base).bind fun c => c.backing

inductive Reading (slot : Slot) : Prop
  | literal (h : slot.isLiteral = true)
  | builtin (target : String) (hliteral : slot.isLiteral = false) (h : builtin? slot.base = some target)
  | unknown (hliteral : slot.isLiteral = false) (hbuiltin : builtin? slot.base = none)
      (h : r.find? slot.base = none)
  | named (c : ClassRef) (hliteral : slot.isLiteral = false) (hbuiltin : builtin? slot.base = none)
      (hfind : r.find? slot.base = some c) (h : c.backing = none)
  | enumeration (b : String) (h : r.backing? slot = some b)

theorem reading (slot : Slot) : r.Reading slot := by
  cases hliteral : slot.isLiteral with
  | true => exact .literal hliteral
  | false =>
    cases hbuiltin : builtin? slot.base with
    | some target => exact .builtin target hliteral hbuiltin
    | none =>
      cases hfind : r.find? slot.base with
      | none => exact .unknown hliteral hbuiltin hfind
      | some c =>
        cases hbacking : c.backing with
        | none => exact .named c hliteral hbuiltin hfind hbacking
        | some b => exact .enumeration b (by simp [backing?, hliteral, hbuiltin, hfind, hbacking])

theorem backing?_eq_some {r : Registry} {slot : Slot} {b : String} (h : r.backing? slot = some b) :
    slot.isLiteral = false ∧ builtin? slot.base = none ∧
      ∃ c, r.find? slot.base = some c ∧ c.backing = some b := by
  unfold backing? at h
  split at h
  · cases h
  · rename_i hplain
    rw [Bool.or_eq_true, not_or, Bool.not_eq_true, Bool.not_eq_true, Option.isSome_eq_false_iff,
      Option.isNone_iff_eq_none] at hplain
    exact ⟨hplain.1, hplain.2, Option.bind_eq_some_iff.mp h⟩

end Registry

variable (r : Registry) (expand : String → Emit String) (subject : String) {slot : Slot}

theorem convertSlot_of_isLiteral (h : slot.isLiteral = true) :
    convertSlot r expand subject slot = pure (slot.base ++ Slot.brackets slot.depth) := if_pos h

/-- A built-in type is asked for where an alternative names it, and is shown with the array markers of both. -/
theorem convertSlot_of_builtin {target : String} (hliteral : slot.isLiteral = false)
    (h : builtin? slot.base = some target) : convertSlot r expand subject slot =
      builtin target >>= fun text => pure (text ++ Slot.brackets slot.depth) := by
  unfold convertSlot
  simp only [hliteral, h, Bool.false_eq_true, if_false]

theorem convertSlot_of_find?_eq_none (hliteral : slot.isLiteral = false)
    (hbuiltin : builtin? slot.base = none) (h : r.find? slot.base = none) :
    convertSlot r expand subject slot =
      warn .unresolvedType subject ("unable to find class, using \"" ++ unknownType ++
        "\" instead: \"" ++ slot.base ++ "\"") >>= fun _ => pure unknownType := by
  unfold convertSlot
  simp only [hliteral, hbuiltin, h, Bool.false_eq_true, if_false]

theorem convertSlot_of_backing? {b : String} (h : r.backing? slot = some b) :
    convertSlot r expand subject slot = expand b >>= fun t =>
      pure ((if slot.depth != 0 && needsParens t then "(" ++ t ++ ")" else t) ++
        Slot.brackets slot.depth) := by
  obtain ⟨hliteral, hbuiltin, c, hfind, hbacking⟩ := Registry.backing?_eq_some h
  unfold convertSlot
  simp only [hliteral, hbuiltin, hfind, hbacking, Bool.false_eq_true, if_false]

theorem convertSlot_of_find? {r : Registry} {slot : Slot} {c : ClassRef}
    (hliteral : slot.isLiteral = false) (hbuiltin : builtin? slot.base = none)
    (hfind : r.find? slot.base = some c) (hbacking : c.backing = none)
    (expand : String → Emit String) (subject : String) :
    convertSlot r expand subject slot = pure (c.name ++ Slot.brackets slot.depth) := by
  unfold convertSlot
  simp only [hliteral, hbuiltin, hfind, hbacking, Bool.false_eq_true, if_false]

end AmbientDecls
