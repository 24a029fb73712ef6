import AmbientDecls.Proofs.Config.Template

/-! Values with the references in their texts replaced. Nothing but texts changes, and each text becomes what the one
template that is written so is filled to. -/

namespace AmbientDecls

namespace Data

mutual

/-- The same value but for its texts, each of which is replaced by a related one. -/
inductive Rewritten (R : String → String → Prop) : Data → Data → Prop
  | null : Rewritten R .null .null
  | bool (b : Bool) : Rewritten R (.bool b) (.bool b)
  | int (n : Int) : Rewritten R (.int n) (.int n)
  | float (x : Float) : Rewritten R (.float x) (.float x)
  | date (s : String) : Rewritten R (.date s) (.date s)
  | text {s t : String} (h : R s t) : Rewritten R (.text s) (.text t)
  | list {ds es : List Data} (h : RewrittenItems R ds es) : Rewritten R (.list ds) (.list es)
  | map {ds es : List (Data × Data)} (h : RewrittenEntries R ds es) : Rewritten R (.map ds) (.map es)

inductive RewrittenItems (R : String → String → Prop) : List Data → List Data → Prop
  | nil : RewrittenItems R [] []
  | cons {d e : Data} {ds es : List Data} (h : Rewritten R d e) (hs : RewrittenItems R ds es) :
      RewrittenItems R (d :: ds) (e :: es)

/-- Keys stay as they are. -/
inductive RewrittenEntries (R : String → String → Prop) : List (Data × Data) → List (Data × Data) → Prop
  | nil : RewrittenEntries R [] []
  | cons (k : Data) {d e : Data} {ds es : List (Data × Data)} (h : Rewritten R d e) (hs : RewrittenEntries R ds es) :
      RewrittenEntries R ((k, d) :: ds) ((k, e) :: es)

end

end Data

namespace Environment

variable (env : Environment)

/-- A text is written like a template, and another is what that is filled to. -/
def Fills (s t : String) : Prop :=
  ∃ u : Template, u.written = s.toList ∧ t = String.ofList (u.filled env)

theorem fills_iff {s t : String} : env.Fills s t ↔ t = env.expandText s := by
  unfold Fills expandText
  constructor
  · rintro ⟨u, hwritten, rfl⟩
    rw [← hwritten, Template.expandChars_written]
  · rintro rfl
    obtain ⟨u, hwritten⟩ := Template.exists_written s.toList
    exact ⟨u, hwritten, by rw [← hwritten, Template.expandChars_written]⟩

mutual

theorem rewritten_expand : ∀ d : Data, d.Rewritten env.Fills (env.expand d)
  | .null => .null
  | .bool b => .bool b
  | .int n => .int n
  | .float x => .float x
  | .date s => .date s
  | .text _ => .text (env.fills_iff.mpr rfl)
  | .list ds => .list (rewritten_expandItems ds)
  | .map es => .map (rewritten_expandEntries es)

theorem rewritten_expandItems : ∀ ds : List Data, Data.RewrittenItems env.Fills ds (env.expandItems ds)
  | [] => .nil
  | d :: ds => .cons (rewritten_expand d) (rewritten_expandItems ds)

theorem rewritten_expandEntries :
    ∀ es : List (Data × Data), Data.RewrittenEntries env.Fills es (env.expandEntries es)
  | [] => .nil
  | (k, d) :: es => .cons k (rewritten_expand d) (rewritten_expandEntries es)

end

mutual

theorem eq_expand_of_rewritten : ∀ {d e : Data}, d.Rewritten env.Fills e → e = env.expand d
  | _, _, .null | _, _, .bool _ | _, _, .int _ | _, _, .float _ | _, _, .date _ => rfl
  | _, _, .text h => congrArg Data.text (env.fills_iff.mp h)
  | _, _, .list h => congrArg Data.list (eq_expandItems_of_rewritten h)
  | _, _, .map h => congrArg Data.map (eq_expandEntries_of_rewritten h)

theorem eq_expandItems_of_rewritten :
    ∀ {ds es : List Data}, Data.RewrittenItems env.Fills ds es → es = env.expandItems ds
  | _, _, .nil => rfl
  | _, _, .cons h hs => by
    rw [eq_expand_of_rewritten h, eq_expandItems_of_rewritten hs]
    rfl

theorem eq_expandEntries_of_rewritten :
    ∀ {ds es : List (Data × Data)}, Data.RewrittenEntries env.Fills ds es → es = env.expandEntries ds
  | _, _, .nil => rfl
  | _, _, .cons _ h hs => by
    rw [eq_expand_of_rewritten h, eq_expandEntries_of_rewritten hs]
    rfl

end

/-- What is put in is not looked at again, also where it completes a reference with the text around it. -/
example : expandText [("A", "$\x7bB\x7d"), ("B", "b")] "$\x7bA\x7d$\x7b\x7d$\x7b$\x7bB\x7d\x7d$\x7bC\x7d" =
    "$\x7bB\x7d$\x7b\x7d$\x7bb\x7d" := by
  decide +kernel

end Environment

end AmbientDecls
