import AmbientDecls.Proofs.Build.Footprint

/-! How acts on files end: where a sequence of acts breaks off, in which ways an act can fail, and what an act that
succeeded tells of the files. -/

namespace AmbientDecls

namespace Act

section Laws

variable {α β : Type} {act : Act α} {f : α → Act β} {w w' : World} {P : Failure → Prop}

/-- A sequence ends with its first part if that fails, and as its second part otherwise. -/
theorem bind_cases {r : Except Failure β} (h : (act >>= f) w = (r, w')) :
    (∃ e, act w = (.error e, w') ∧ r = .error e) ∨ ∃ a v, act w = (.ok a, v) ∧ f a v = (r, w') := by
  rw [bind_apply] at h
  cases hact : act w with
  | mk result v =>
    rw [hact] at h
    cases result with
    | error e =>
      cases h
      exact Or.inl ⟨e, rfl, rfl⟩
    | ok a => exact Or.inr ⟨a, v, rfl, h⟩

/-- An act fails in some ways only. -/
def Fails (P : Failure → Prop) (act : Act α) : Prop := ∀ w f, (act w).1 = .error f → P f

theorem Fails.of_eq (h : Fails P act) {e : Failure} (hact : act w = (.error e, w')) : P e :=
  h w e (by rw [hact])

theorem fails_of_ok (h : ∀ w, ∃ a, (act w).1 = .ok a) : Fails P act := by
  intro w f hf
  obtain ⟨a, ha⟩ := h w
  rw [ha] at hf
  cases hf

theorem fails_pure (a : α) : Fails P (pure a : Act α) := fails_of_ok fun _ => ⟨a, rfl⟩

theorem fails_throw {e : Failure} (h : P e) : Fails P (throw e : Act α) := by
  intro w f hf
  cases hf
  exact h

theorem Fails.bind (h : Fails P act) (hf : ∀ a, Fails P (f a)) : Fails P (act >>= f) := by
  intro w e he
  rcases bind_cases (Prod.ext he rfl : (act >>= f) w = (_, ((act >>= f) w).2)) with
    ⟨e', hact, heq⟩ | ⟨a, v, _, hrest⟩
  · cases heq
    exact h.of_eq hact
  · exact (hf a).of_eq hrest

theorem fails_guarded {p : Prop} [Decidable p] {g : Act β} (h : Fails P act) (hg : Fails P g) :
    Fails P (if p then act >>= fun _ => g else g) := by
  split
  · exact h.bind fun _ => hg
  · exact hg

theorem fails_look (g : FileTree → α) : Fails P (look g) := fails_of_ok fun w => ⟨g w.files, rfl⟩

theorem fails_forM {l : List α} {g : α → Act Unit} (h : ∀ a ∈ l, Fails P (g a)) : Fails P (l.forM g) := by
  induction l with
  | nil => exact fails_pure ()
  | cons a l ih =>
    change Fails P (g a >>= fun _ => l.forM g)
    exact (h a (List.mem_cons_self ..)).bind fun _ => ih fun b hb => h b (List.mem_cons_of_mem _ hb)

end Laws

section Results

variable {w w' : World} {p : Path}

theorem node?_apply (p : Path) (w : World) : node? p w = if p.hasNul then (.ok none, w)
    else match w.files.status p with
      | .ok n => (.ok n, w)
      | .error c => (.error (.file ⟨c, some p.toText, none⟩), w) := by
  unfold node?
  cases p.hasNul with
  | true => rfl
  | false =>
    simp only [Bool.false_eq_true, if_false]
    rw [bind_apply, get_apply]
    simp only
    cases w.files.status p <;> rfl

theorem node?_world (p : Path) (w : World) : (node? p w).2 = w := by
  rw [node?_apply]
  split
  · rfl
  · split <;> rfl

theorem node?_eq_some {n : Node} : (node? p w).1 = .ok (some n) ↔
    p.hasNul = false ∧ ∃ q, w.files.locate p = .ok q ∧ w.files.at? q = some n := by
  rw [node?_apply]
  cases p.hasNul with
  | true => simp
  | false =>
    simp only [Bool.false_eq_true, if_false, true_and]
    constructor
    · intro h
      cases hstatus : w.files.status p with
      | error c =>
        rw [hstatus] at h
        cases h
      | ok m =>
        rw [hstatus] at h
        obtain rfl : m = some n := Except.ok.inj h
        exact FileTree.status_eq_some hstatus
    · rintro ⟨q, hlocate, hat⟩
      rw [FileTree.status_of_locate hlocate, hat]

theorem isDirectory_world (p : Path) (w : World) : (isDirectory p w).2 = w := by
  unfold isDirectory
  rw [bind_pure_world, node?_world]

theorem isDirectory_eq {r : Except Failure Bool} (h : (isDirectory p w).1 = r) :
    isDirectory p w = (r, w) := Prod.ext h (isDirectory_world p w)

theorem isDirectory_iff : (isDirectory p w).1 = .ok true ↔
    p.hasNul = false ∧ ∃ q, w.files.locate p = .ok q ∧ w.files.at? q = some .directory := by
  rw [← node?_eq_some]
  unfold isDirectory
  rw [bind_apply]
  cases hnode : node? p w with
  | mk result v => cases result <;> simp

theorem isDirectory_congr (p : Path) (h : w'.files = w.files) : (isDirectory p w').1 = (isDirectory p w).1 := by
  have hnode : (node? p w').1 = (node? p w).1 := by
    rw [node?_apply, node?_apply, h]
    split
    · rfl
    · split <;> rfl
  unfold isDirectory
  rw [bind_apply, bind_apply, (Prod.ext hnode rfl : node? p w' = ((node? p w).1, (node? p w').2))]
  cases hresult : node? p w with
  | mk result v => cases result <;> rfl

theorem isDirectory_of_locate {q : Place} (hnul : p.hasNul = false) (h : w.files.locate p = .ok q) :
    (isDirectory p w).1 = .ok (w.files.at? q == some .directory) := by
  have hnode : node? p w = (.ok (w.files.at? q), w) := by
    rw [node?_apply, hnul, FileTree.status_of_locate h]
    rfl
  unfold isDirectory
  rw [bind_of_ok hnode]
  rfl

theorem isFile_apply (p : Path) (w : World) : isFile p w = ((node? p w).1.map fun n =>
    match n with
    | some (.file _) => true
    | _ => false, w) := by
  unfold isFile
  rw [bind_apply, (Prod.ext rfl (node?_world p w) : node? p w = ((node? p w).1, w))]
  cases (node? p w).1 with
  | error e => rfl
  | ok n =>
    cases n with
    | none => rfl
    | some n => cases n <;> rfl

theorem isFile_eq {r : Except Failure Bool} (h : (isFile p w).1 = r) : isFile p w = (r, w) :=
  Prod.ext h (by rw [isFile_apply])

theorem isFile_iff : (isFile p w).1 = .ok true ↔
    p.hasNul = false ∧ ∃ q bytes, w.files.locate p = .ok q ∧ w.files.at? q = some (.file bytes) := by
  have hnode : (isFile p w).1 = .ok true ↔ ∃ bytes, (node? p w).1 = .ok (some (.file bytes)) := by
    rw [isFile_apply]
    cases (node? p w).1 with
    | error e => simp [Except.map]
    | ok n =>
      cases n with
      | none => simp [Except.map]
      | some n => cases n <;> simp [Except.map]
  rw [hnode]
  simp only [node?_eq_some]
  constructor
  · rintro ⟨bytes, hnul, q, hlocate, hat⟩
    exact ⟨hnul, q, bytes, hlocate, hat⟩
  · rintro ⟨hnul, q, bytes, hlocate, hat⟩
    exact ⟨bytes, hnul, q, hlocate, hat⟩

theorem ensureOne_eq_ok (h : ensureOne p w = (.ok (), w')) :
    ∃ q, w'.files.locate p = .ok q ∧ w'.files.at? q = some .directory := by
  unfold ensureOne at h
  rw [bind_apply, get_apply] at h
  simp only at h
  cases hmake : w.files.makeDirectory p with
  | ok t =>
    rw [hmake] at h
    cases h
    obtain ⟨_, q, _, hlocate, hat⟩ := FileTree.locate_makeDirectory hmake
    exact ⟨q, hlocate, hat⟩
  | error c =>
    rw [hmake] at h
    obtain ⟨there, v, hthere, hrest⟩ := bind_eq_ok h
    cases there with
    | false => cases hrest
    | true =>
      cases hrest
      obtain rfl : w = w' := (isDirectory_world p w).symm.trans (congrArg Prod.snd hthere)
      exact (isDirectory_iff.mp (congrArg Prod.fst hthere)).2

/-- A directory that was asked for is there, whether it was made or found. -/
theorem ensure_eq_ok (h : ensure p w = (.ok (), w')) :
    p.hasNul = false ∧ ∃ q, w'.files.locate p = .ok q ∧ w'.files.at? q = some .directory := by
  obtain ⟨_, v, husable, hensure⟩ := bind_eq_ok h
  obtain ⟨hnul, rfl⟩ := usable_eq_ok husable
  refine ⟨hnul, ?_⟩
  cases hfuel : p.parts.length with
  | zero =>
    rw [hfuel] at hensure
    exact ensureOne_eq_ok hensure
  | succ fuel =>
    rw [hfuel] at hensure
    unfold ensureDirectory at hensure
    rw [bind_apply, get_apply] at hensure
    simp only at hensure
    cases hmake : v.files.makeDirectory p with
    | ok t =>
      rw [hmake] at hensure
      exact ensureOne_eq_ok hensure
    | error c =>
      rw [hmake] at hensure
      cases c with
      | notFound =>
        obtain ⟨_, u, _, hone⟩ := bind_eq_ok hensure
        exact ensureOne_eq_ok hone
      | _ => exact ensureOne_eq_ok hensure

theorem usable_world (p : Path) (w : World) : (usable p w).2 = w := by
  unfold usable
  cases p.hasNul <;> rfl

theorem usable_apply (h : p.hasNul = false) (w : World) : usable p w = (.ok (), w) := by
  unfold usable
  rw [h]
  rfl

/-- A change that fails changes nothing. -/
theorem change_eq_error {target : Option Path} {g : FileTree → Except FileCause FileTree} {e : Failure}
    (h : change p target g w = (.error e, w')) : w' = w := by
  rcases bind_cases h with ⟨e', husable, _⟩ | ⟨_, v, husable, hchange⟩
  · rw [← usable_world p w, husable]
  · obtain ⟨_, rfl⟩ := usable_eq_ok husable
    rw [bind_apply, get_apply] at hchange
    simp only at hchange
    cases hg : g v.files with
    | ok t =>
      rw [hg] at hchange
      cases hchange
    | error c =>
      rw [hg] at hchange
      cases hchange
      rfl

theorem lookAt_world {α : Type} (p : Path) (g : FileTree → Except FileCause α) (w : World) :
    (lookAt p g w).2 = w := by
  unfold lookAt
  rw [bind_apply]
  cases hresult : usable p w with
  | mk result v =>
    obtain rfl : v = w := by rw [← usable_world p w, hresult]
    cases result with
    | error e => rfl
    | ok u =>
      simp only
      rw [bind_apply, get_apply]
      simp only
      cases g v.files <;> rfl

theorem lookAt_result {α : Type} (p : Path) (g : FileTree → Except FileCause α) (w : World) :
    (lookAt p g w).1 = if p.hasNul then .error .nul else
      match g w.files with
      | .ok a => .ok a
      | .error c => .error (.file ⟨c, some p.toText, none⟩) := by
  unfold lookAt
  cases hnul : p.hasNul with
  | true =>
    unfold usable
    rw [hnul]
    rfl
  | false =>
    rw [bind_of_ok (usable_apply hnul w), bind_apply, get_apply]
    simp only
    cases g w.files <;> rfl

theorem lookAt_eq_ok {α : Type} {g : FileTree → Except FileCause α} {a : α} (h : lookAt p g w = (.ok a, w')) :
    w' = w ∧ p.hasNul = false ∧ g w.files = .ok a := by
  refine ⟨by rw [← lookAt_world p g w, h], ?_⟩
  have hresult := lookAt_result p g w
  rw [h] at hresult
  cases hnul : p.hasNul with
  | true =>
    rw [hnul] at hresult
    cases hresult
  | false =>
    rw [hnul] at hresult
    cases hg : g w.files with
    | error c =>
      rw [hg] at hresult
      cases hresult
    | ok b =>
      rw [hg] at hresult
      cases hresult
      exact ⟨rfl, rfl⟩

/-- A directory in a chain is made after those above it, and not if they could not be made. -/
theorem makeChain_cases {fuel : Nat} {r : Except Failure Unit} (h : makeChain (fuel + 1) p w = (r, w')) :
    ((p.parent.parts = [] ∨ w.files.contains p.parent = true) ∧ makeDirectory p w = (r, w')) ∨
    (p.parent.parts ≠ [] ∧ w.files.contains p.parent = false) ∧ ∃ result v,
      makeChain fuel p.parent w = (result, v) ∧
      ((result = .ok () ∨ ∃ path target, result = .error (.file ⟨.exists, path, target⟩)) ∧
          makeDirectory p v = (r, w') ∨
        ∃ e, result = .error e ∧ r = .error e ∧ w' = v) := by
  unfold makeChain at h
  have hlook : look (fun t => t.contains p.parent) w = (.ok (w.files.contains p.parent), w) := rfl
  rw [bind_of_ok hlook] at h
  split at h
  · rename_i hmissing
    simp only [Bool.and_eq_true, Bool.not_eq_true', List.isEmpty_eq_false_iff] at hmissing
    refine Or.inr ⟨hmissing, _, _, rfl, ?_⟩
    rw [bind_apply, attempt_apply] at h
    simp only at h
    cases habove : makeChain fuel p.parent w with
    | mk result v =>
      simp only [habove] at h
      cases result with
      | ok u => exact Or.inl ⟨Or.inl rfl, h⟩
      | error e =>
        -- a directory that somebody else has made meanwhile is no reason to stop
        cases e with
        | file fault =>
          obtain ⟨cause, path, target⟩ := fault
          cases cause with
          | «exists» => exact Or.inl ⟨Or.inr ⟨path, target, rfl⟩, h⟩
          | _ =>
            cases h
            exact Or.inr ⟨_, rfl, rfl, rfl⟩
        | _ =>
          cases h
          exact Or.inr ⟨_, rfl, rfl, rfl⟩
  · rename_i hthere
    refine Or.inl ⟨?_, h⟩
    simpa [or_iff_not_imp_left] using hthere

end Results

section Files

variable {P : Failure → Prop} (hnul : P .nul) (hfile : ∀ e, P (.file e))

include hnul in
theorem fails_usable (p : Path) : Fails P (usable p) := by
  intro w e he
  unfold usable at he
  cases h : p.hasNul with
  | true =>
    rw [h] at he
    cases he
    exact hnul
  | false =>
    rw [h] at he
    cases he

include hfile in
theorem fails_node? (p : Path) : Fails P (node? p) := by
  intro w e he
  rw [node?_apply] at he
  split at he
  · cases he
  · split at he
    · cases he
    · cases he
      exact hfile _

include hfile in
theorem fails_isDirectory (p : Path) : Fails P (isDirectory p) :=
  (fails_node? hfile p).bind fun _ => fails_pure _

include hfile in
theorem fails_isFile (p : Path) : Fails P (isFile p) := by
  refine (fails_node? hfile p).bind fun n => ?_
  split <;> exact fails_pure _

include hnul hfile

theorem fails_lookAt {α : Type} (p : Path) (g : FileTree → Except FileCause α) :
    Fails P (lookAt p g) := by
  refine (fails_usable hnul p).bind fun _ w e he => ?_
  rw [bind_apply, get_apply] at he
  simp only at he
  cases hg : g w.files with
  | ok a =>
    rw [hg] at he
    cases he
  | error c =>
    rw [hg] at he
    cases he
    exact hfile _

theorem fails_change (p : Path) (target : Option Path) (g : FileTree → Except FileCause FileTree) :
    Fails P (change p target g) := by
  refine (fails_usable hnul p).bind fun _ w e he => ?_
  rw [bind_apply, get_apply] at he
  simp only at he
  cases hg : g w.files with
  | ok t =>
    rw [hg] at he
    cases he
  | error c =>
    rw [hg] at he
    cases he
    exact hfile _

omit hnul in
theorem fails_ensureOne (p : Path) : Fails P (ensureOne p) := by
  intro w e he
  unfold ensureOne at he
  rw [bind_apply, get_apply] at he
  simp only at he
  cases hmake : w.files.makeDirectory p with
  | ok t =>
    rw [hmake] at he
    cases he
  | error c =>
    rw [hmake] at he
    refine Fails.bind (fails_isDirectory hfile p) (fun there => ?_) w e he
    split
    · exact fails_pure ()
    · exact fails_throw (hfile _)

omit hnul in
theorem fails_ensureDirectory (fuel : Nat) (p : Path) : Fails P (ensureDirectory fuel p) := by
  induction fuel generalizing p with
  | zero => exact fails_ensureOne hfile p
  | succ fuel ih =>
    unfold ensureDirectory
    refine Fails.bind (fails_of_ok fun w => ⟨w, rfl⟩) fun w => ?_
    split
    · exact (ih p.parent).bind fun _ => fails_ensureOne hfile p
    · exact fails_ensureOne hfile p

theorem fails_ensure (p : Path) : Fails P (ensure p) :=
  (fails_usable hnul p).bind fun _ => fails_ensureDirectory hfile _ p

theorem fails_makeChain (fuel : Nat) (p : Path) : Fails P (makeChain fuel p) := by
  induction fuel generalizing p with
  | zero => exact fails_change hnul hfile p none _
  | succ fuel ih =>
    have hlast : Fails P (makeDirectory p) := fails_change hnul hfile p none _
    intro w e he
    rcases makeChain_cases (Prod.ext he rfl) with ⟨_, hmake⟩ | ⟨_, result, v, habove, ⟨_, hmake⟩ | ⟨e', hresult, heq, _⟩⟩
    · exact hlast.of_eq hmake
    · exact hlast.of_eq hmake
    · cases heq
      exact (ih p.parent).of_eq (hresult ▸ habove)

end Files
end Act
end AmbientDecls
