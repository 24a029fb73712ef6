import AmbientDecls.Build.Version
import AmbientDecls.Proofs.Build.Export
import AmbientDecls.Proofs.Files.Edits

/-! What an act leaves alone. Most acts change nothing but the files and the log; downloads make one request, and runs of a
tool one call, between such changes. -/

namespace AmbientDecls

/-- Nothing but the files and the log changes, the files step by step in a given way. -/
def World.Edited (E : FileTree → FileTree → Prop) (w w' : World) : Prop :=
  ∃ files log, w' = { w with files := files, log := log } ∧ Relation.ReflTransGen E w.files files

namespace World.Edited

variable {E : FileTree → FileTree → Prop} {u v w : World}

theorem refl (E : FileTree → FileTree → Prop) (w : World) : w.Edited E w :=
  ⟨w.files, w.log, rfl, .refl⟩

theorem trans (huv : u.Edited E v) (hvw : v.Edited E w) : u.Edited E w := by
  obtain ⟨_, _, rfl, hfirst⟩ := huv
  obtain ⟨files, log, rfl, hthen⟩ := hvw
  exact ⟨files, log, rfl, hfirst.trans hthen⟩

theorem files (h : v.Edited E w) : Relation.ReflTransGen E v.files w.files := by
  obtain ⟨files, log, rfl, hfiles⟩ := h
  exact hfiles

theorem calls (h : v.Edited E w) : w.calls = v.calls := by
  obtain ⟨_, _, rfl, _⟩ := h
  rfl

theorem requests (h : v.Edited E w) : w.requests = v.requests := by
  obtain ⟨_, _, rfl, _⟩ := h
  rfl

theorem tools (h : v.Edited E w) : w.tools = v.tools := by
  obtain ⟨_, _, rfl, _⟩ := h
  rfl

theorem transfers (h : v.Edited E w) : w.transfers = v.transfers := by
  obtain ⟨_, _, rfl, _⟩ := h
  rfl

theorem clock (h : v.Edited E w) : w.clock = v.clock := by
  obtain ⟨_, _, rfl, _⟩ := h
  rfl

/-- Without edits the files are as they were. -/
theorem files_eq (h : v.Edited (fun _ _ => False) w) : w.files = v.files := by
  rcases Relation.ReflTransGen.cases_head h.files with heq | ⟨_, hstep, _⟩
  · exact heq.symm
  · exact hstep.elim

end World.Edited

/-- An act edits files and does nothing else, whether it succeeds or not. -/
def Act.Edits {α : Type} (E : FileTree → FileTree → Prop) (act : Act α) : Prop :=
  ∀ w : World, w.Edited E (act w).2

/-- An act edits files and may have one other effect in between. -/
def Act.EditsOnce {α : Type} (E : FileTree → FileTree → Prop) (effect : World → World) (act : Act α) : Prop :=
  ∀ w : World, w.Edited E (act w).2 ∨ ∃ v, w.Edited E v ∧ (effect v).Edited E (act w).2

namespace Act

section Laws

variable {α β : Type} {E : FileTree → FileTree → Prop} {act : Act α} {f : α → Act β}

/-- An act goes on from where it was. -/
theorem edited_bind {w : World} (h : w.Edited E (act w).2)
    (hf : ∀ a v, act w = (.ok a, v) → v.Edited E (f a v).2) : w.Edited E ((act >>= f) w).2 := by
  rw [bind_apply]
  cases hact : act w with
  | mk result v =>
    rw [hact] at h
    cases result with
    | error e => exact h
    | ok a => exact h.trans (hf a v hact)

theorem bind_pure_world (act : Act α) (g : α → β) (w : World) :
    ((act >>= fun a => pure (g a)) w).2 = (act w).2 := by
  rw [bind_apply]
  cases act w with
  | mk result v => cases result <;> rfl

theorem edits_pure (a : α) : Edits E (pure a : Act α) := fun w => .refl E w

theorem edits_throw (e : Failure) : Edits E (throw e : Act α) := fun w => .refl E w

theorem Edits.bind (h : Edits E act) (hf : ∀ a, Edits E (f a)) : Edits E (act >>= f) :=
  fun w => edited_bind (h w) fun a v _ => hf a v

/-- What is done first in some cases only. -/
theorem edits_guarded {p : Prop} [Decidable p] {g : Act β} (h : Edits E act) (hg : Edits E g) :
    Edits E (if p then act >>= fun _ => g else g) := by
  split
  · exact h.bind fun _ => hg
  · exact hg

theorem Edits.once (h : Edits E act) (effect : World → World) : EditsOnce E effect act :=
  fun w => Or.inl (h w)

variable {effect : World → World}

theorem EditsOnce.bind (h : EditsOnce E effect act) (hf : ∀ a, Edits E (f a)) :
    EditsOnce E effect (act >>= f) := by
  intro w
  rcases h w with hnone | ⟨v, hbefore, hafter⟩
  · exact Or.inl (edited_bind hnone fun a v _ => hf a v)
  · refine Or.inr ⟨v, hbefore, ?_⟩
    rw [bind_apply]
    cases hact : act w with
    | mk result u =>
      rw [hact] at hafter
      cases result with
      | error e => exact hafter
      | ok a => exact hafter.trans (hf a u)

theorem Edits.bind_once (h : Edits E act) (hf : ∀ a, EditsOnce E effect (f a)) :
    EditsOnce E effect (act >>= f) := by
  intro w
  rw [bind_apply]
  have hact := h w
  cases hresult : act w with
  | mk result u =>
    rw [hresult] at hact
    cases result with
    | error e => exact Or.inl hact
    | ok a =>
      rcases hf a u with hnone | ⟨v, hbefore, hafter⟩
      · exact Or.inl (hact.trans hnone)
      · exact Or.inr ⟨v, hact.trans hbefore, hafter⟩

theorem edits_of_eq (h : ∀ w, (act w).2 = w) : Edits E act := by
  intro w
  rw [h w]
  exact .refl E w

theorem edits_log (level : LogLevel) (source : LogSource) (message : String) :
    Edits E (log level source message) := fun w => ⟨w.files, _, rfl, .refl⟩

theorem edits_look (g : FileTree → α) : Edits E (look g) := edits_of_eq fun _ => rfl

theorem edits_ofExcept (r : Except Failure α) : Edits E (ofExcept r) := by
  refine edits_of_eq fun w => ?_
  cases r <;> rfl

theorem edits_usable (p : Path) : Edits E (usable p) := by
  refine edits_of_eq fun w => ?_
  unfold usable
  cases p.hasNul <;> rfl

theorem edits_node? (p : Path) : Edits E (node? p) := by
  refine edits_of_eq fun w => ?_
  unfold node?
  split
  · rfl
  · rw [bind_apply, get_apply]
    simp only
    cases w.files.status p <;> rfl

theorem edits_isFile (p : Path) : Edits E (isFile p) := by
  refine (edits_node? p).bind fun n => ?_
  split <;> exact edits_pure _

theorem edits_isDirectory (p : Path) : Edits E (isDirectory p) :=
  (edits_node? p).bind fun _ => edits_pure _

theorem edits_contains (p : Path) : Edits E (contains p) :=
  (edits_node? p).bind fun _ => edits_pure _

theorem edits_lookAt (p : Path) (g : FileTree → Except FileCause α) : Edits E (lookAt p g) := by
  refine (edits_usable p).bind fun _ => edits_of_eq fun w => ?_
  rw [bind_apply, get_apply]
  simp only
  cases g w.files <;> rfl

theorem edits_change {p : Path} {target : Option Path} {g : FileTree → Except FileCause FileTree}
    (h : ∀ t u, g t = .ok u → E t u ∨ u = t) : Edits E (change p target g) := by
  refine (edits_usable p).bind fun _ w => ?_
  rw [bind_apply, get_apply]
  simp only
  cases hchange : g w.files with
  | error c => exact .refl E w
  | ok u =>
    refine ⟨u, w.log, rfl, ?_⟩
    rcases h _ _ hchange with hstep | rfl
    · exact .single hstep
    · exact .refl

/-- Without edits a world differs by its log only. -/
theorem world_of_still (h : Edits (fun _ _ => False) act) (w : World) :
    ∃ log, (act w).2 = { w with log := log } := by
  have hfiles := (h w).files_eq
  obtain ⟨files, log, hworld, _⟩ := h w
  rw [hworld] at hfiles ⊢
  obtain rfl : files = w.files := hfiles
  exact ⟨log, rfl⟩

theorem files_of_still (h : Edits (fun _ _ => False) act) {w w' : World} {r : Except Failure α}
    (hact : act w = (r, w')) : w'.files = w.files := by
  have hstill := (h w).files_eq
  rwa [hact] at hstill

theorem edits_attempt (h : Edits E act) : Edits E (attempt act) := h

theorem edits_forM {l : List α} {g : α → Act Unit} (h : ∀ a ∈ l, Edits E (g a)) :
    Edits E (l.forM g) := by
  induction l with
  | nil => exact edits_pure ()
  | cons a l ih =>
    change Edits E (g a >>= fun _ => l.forM g)
    exact (h a (List.mem_cons_self ..)).bind fun _ => ih fun b hb => h b (List.mem_cons_of_mem _ hb)

theorem edits_mapM {l : List α} {g : α → Act β} (h : ∀ a ∈ l, Edits E (g a)) : Edits E (l.mapM g) := by
  induction l with
  | nil => exact edits_pure []
  | cons a l ih =>
    rw [List.mapM_cons]
    refine (h a (List.mem_cons_self ..)).bind fun _ => ?_
    exact (ih fun b hb => h b (List.mem_cons_of_mem _ hb)).bind fun _ => edits_pure _

end Laws

section Directories

variable {E : FileTree → FileTree → Prop}

theorem edits_makeDirectory {p : Path} (hmake : ∀ t u, t.makeDirectory p = .ok u → E t u) :
    Edits E (makeDirectory p) := edits_change fun t u h => Or.inl (hmake t u h)

theorem edits_ensureOne {p : Path} (hmake : ∀ t u, t.makeDirectory p = .ok u → E t u) :
    Edits E (ensureOne p) := by
  intro w
  unfold ensureOne
  rw [bind_apply, get_apply]
  simp only
  cases hchange : w.files.makeDirectory p with
  | ok u => exact ⟨u, w.log, rfl, .single (hmake _ _ hchange)⟩
  | error c =>
    refine (edits_isDirectory p).bind (fun there => ?_) w
    split
    · exact edits_pure ()
    · exact edits_throw _

variable {p : Path} (hmake : ∀ q : Path, q.LeadsTo p → ∀ t u, t.makeDirectory q = .ok u → E t u)

include hmake

/-- Only directories that lead to the one that is asked for are made. -/
theorem edits_ensureDirectory (fuel : Nat) : Edits E (ensureDirectory fuel p) := by
  induction fuel generalizing p with
  | zero => exact edits_ensureOne (hmake p (.refl p))
  | succ fuel ih =>
    unfold ensureDirectory
    refine Edits.bind (edits_of_eq fun _ => rfl) fun w => ?_
    split
    -- only when the directory above is missing are those above made first
    · refine Edits.bind (ih fun q hq => hmake q hq.of_parent) fun _ => ?_
      exact edits_ensureOne (hmake p (.refl p))
    · exact edits_ensureOne (hmake p (.refl p))

theorem edits_ensure : Edits E (ensure p) :=
  (edits_usable p).bind fun _ => edits_ensureDirectory hmake _

theorem edits_makeNew : Edits E (makeNew p) := by
  have hlast := edits_makeDirectory (hmake p (.refl p))
  refine (edits_usable p).bind fun _ => ?_
  refine Edits.bind (edits_of_eq fun _ => rfl) fun w => ?_
  split
  · exact (edits_ensure fun q hq => hmake q hq.of_parent).bind fun _ => hlast
  · exact hlast

theorem edits_makeChain (fuel : Nat) : Edits E (makeChain fuel p) := by
  induction fuel generalizing p with
  | zero => exact edits_makeDirectory (hmake p (.refl p))
  | succ fuel ih =>
    have hlast := edits_makeDirectory (hmake p (.refl p))
    unfold makeChain
    refine (edits_look _).bind fun there => ?_
    split
    · refine (edits_attempt (ih fun q hq => hmake q hq.of_parent)).bind fun result => ?_
      split
      · exact hlast
      · exact hlast
      · exact (edits_throw _).bind fun _ => hlast
    · exact hlast

end Directories

section Fetch

variable {E : FileTree → FileTree → Prop}

theorem edits_write {p : Path} {bytes : Bytes} (h : ∀ t u, t.write p bytes = .ok u → E t u) :
    Edits E (write p bytes) := edits_change fun t u hwrite => Or.inl (h t u hwrite)

theorem edits_discard {p : Path} (h : ∀ t u, t.unlink p = .ok u → E t u) : Edits E (discard p) := by
  refine edits_change fun t u hunlink => ?_
  split at hunlink
  · exact Or.inr (Except.ok.inj hunlink).symm
  · exact Or.inl (h t u hunlink)

theorem edits_rename {p q : Path} (h : ∀ t u, t.rename p q = .ok u → E t u) : Edits E (rename p q) :=
  edits_change fun t u hrename => Or.inl (h t u hrename)

theorem edits_readable {α : Type} (archive : String) (r : Except Zip.Fault α) :
    Edits E (readable archive r) := by
  refine edits_of_eq fun w => ?_
  cases r <;> rfl

theorem readable_eq_ok {α : Type} {archive : String} {r : Except Zip.Fault α} {a : α} {w w' : World}
    (h : readable archive r w = (.ok a, w')) : r = .ok a := by
  cases r with
  | ok b => exact congrArg _ (Except.ok.inj (Prod.mk.inj h).1)
  | error fault => cases h

theorem readNamed_eq_ok {name : String} {bytes : Bytes} {w w' : World}
    (h : readNamed name w = (.ok bytes, w')) : w.files.readNamed name = .ok bytes := by
  obtain ⟨_, v, husable, hread⟩ := bind_eq_ok h
  obtain ⟨_, rfl⟩ := usable_eq_ok husable
  rw [bind_apply, get_apply] at hread
  simp only at hread
  cases hresult : v.files.readNamed name with
  | error c =>
    rw [hresult] at hread
    cases hread
  | ok content =>
    rw [hresult] at hread
    cases hread
    rfl

theorem edits_readNamed (name : String) : Edits E (readNamed name) := by
  refine (edits_usable _).bind fun _ => edits_of_eq fun w => ?_
  rw [bind_apply, get_apply]
  simp only
  cases w.files.readNamed name <;> rfl

/-- Where a partial download is written. -/
def partPath (archive : Path) : Path := archive.withName (archive.name ++ ".part")

theorem edits_stream {url : String} {timeout : Float} {file : Path}
    (hwrite : ∀ bytes t u, t.write file bytes = .ok u → E t u)
    (hunlink : ∀ t u, t.unlink file = .ok u → E t u) :
    EditsOnce E (fun w => (nextTransfer url timeout w).2) (stream url timeout file) := by
  have hnext : EditsOnce E (fun w => (nextTransfer url timeout w).2) (nextTransfer url timeout) :=
    fun w => Or.inr ⟨w, .refl E w, .refl E _⟩
  refine hnext.bind fun transfer => ?_
  split
  · exact (edits_discard hunlink).bind fun _ => edits_throw _
  · exact (edits_discard hunlink).bind fun _ => edits_throw _
  · refine (edits_write (hwrite _)).bind fun _ => ?_
    split
    · exact edits_pure ()
    · exact (edits_discard hunlink).bind fun _ => edits_throw _

theorem edits_download (hmake : ∀ p t u, t.makeDirectory p = .ok u → E t u) {url : String}
    {directory : Path} {force : Bool} {timeout : Float}
    (hpart : ∀ name, Url.archiveName url = .ok name →
      let archive := directory.child name
      (∀ bytes t u, t.write (partPath archive) bytes = .ok u → E t u) ∧
      (∀ t u, t.unlink (partPath archive) = .ok u → E t u) ∧
      ∀ t u, t.rename (partPath archive) archive = .ok u → E t u) :
    EditsOnce E (fun w => (nextTransfer url timeout w).2) (download url directory force timeout) := by
  unfold download
  cases hname : Url.archiveName url with
  | error fault => exact (edits_throw _).once _
  | ok name =>
    obtain ⟨hwrite, hunlink, hrename⟩ := hpart name hname
    refine (edits_isFile _).bind_once fun there => ?_
    -- an archive that is there is taken as it is, without a request
    split
    · exact ((edits_log _ _ _).bind fun _ => edits_pure _).once _
    · refine (edits_ensure fun q _ => hmake q).bind_once fun _ => ?_
      refine (edits_log _ _ _).bind_once fun _ => ?_
      refine (edits_stream hwrite hunlink).bind fun _ => ?_
      refine (edits_rename hrename).bind fun _ => ?_
      refine (edits_lookAt _ _).bind fun bytes => ?_
      exact (edits_log _ _ _).bind fun _ => edits_pure _

/-- The directories that unpacking an entry asks for. -/
def Asked (directory : Path) (e : Zip.Entry) (q : Path) : Prop :=
  q.LeadsTo (entryPath directory e).parent ∨ e.isDirectory = true ∧ q = entryPath directory e

theorem Asked.leadsTo {directory q : Path} {e : Zip.Entry} (h : Asked directory e q) :
    q.LeadsTo (entryPath directory e) := by
  rcases h with h | ⟨_, rfl⟩
  · exact h.of_parent
  · exact .refl _

theorem edits_unpackEntry {archive : String} {bytes : Bytes} {directory : Path} {all : List Zip.Entry}
    {e : Zip.Entry}
    (hmake : ∀ q, Asked directory e q → ∀ t u, t.makeDirectory q = .ok u → E t u)
    (hwrite : e.isDirectory = false →
      ∀ content t u, t.write (entryPath directory e) content = .ok u → E t u) :
    Edits E (unpackEntry archive bytes directory all e) := by
  have hchain := edits_makeChain (p := (entryPath directory e).parent) (fun q hq => hmake q (Or.inl hq))
    (entryPath directory e).parent.parts.length
  unfold unpackEntry
  refine (edits_look _).bind fun there => ?_
  cases hdir : e.isDirectory with
  | true =>
    simp only [if_true]
    refine edits_guarded hchain ((edits_look _).bind fun made => ?_)
    split
    · exact edits_makeDirectory (hmake _ (Or.inr ⟨hdir, rfl⟩))
    · exact edits_pure ()
  | false =>
    simp only [Bool.false_eq_true, if_false]
    refine edits_guarded hchain ((edits_readable _ _).bind fun packed => ?_)
    refine (edits_write (hwrite hdir _)).bind fun _ => ?_
    split
    · exact edits_pure ()
    · exact edits_throw _

/-- Unpacking writes what the entries of the archive tell. -/
theorem edited_unpack (hmake : ∀ p t u, t.makeDirectory p = .ok u → E t u) {archive : String}
    {directory : Path} {folder : String} {w : World}
    (hwrite : ∀ bytes entries, w.files.readNamed archive = .ok bytes → Zip.entries bytes = .ok entries →
      ∀ e ∈ entries, e.isDirectory = false →
        ∀ content t u, t.write (entryPath directory e) content = .ok u → E t u) :
    w.Edited E (unpack archive directory folder w).2 := by
  unfold unpack
  refine edited_bind (edits_isDirectory _ w) fun there v hthere => ?_
  have hv : v.files = w.files := files_of_still (edits_isDirectory _) hthere
  split
  · exact (edits_log _ _ _).bind (fun _ => edits_pure _) v
  · refine edited_bind (edits_usable _ v) fun _ u husable => ?_
    have hu : u.files = w.files := (files_of_still (edits_usable _) husable).trans hv
    refine edited_bind (edits_readNamed _ u) fun bytes x hread => ?_
    refine edited_bind (edits_readable _ _ x) fun entries y hentries => ?_
    -- nothing was written up to here, so these are the entries of the archive as it was found
    have hbytes : w.files.readNamed archive = .ok bytes := hu ▸ readNamed_eq_ok hread
    have hunpacked := hwrite bytes entries hbytes (readable_eq_ok hentries)
    refine (edits_look _).bind (fun home => ?_) y
    split
    · exact edits_throw _
    · refine (edits_forM fun e he => edits_unpackEntry (fun q _ => hmake q) (hunpacked e he)).bind fun _ => ?_
      refine (edits_isDirectory _).bind fun made => ?_
      split
      · exact edits_pure _
      · exact edits_throw _

section Tool

theorem edits_runTool (tool stage : String) (args : List String) (timeout : Int) :
    EditsOnce E (fun w => (w.start args timeout).2) (runTool tool stage args timeout) := by
  unfold runTool
  refine (edits_log _ _ _).bind_once fun _ => ?_
  have hstart : EditsOnce E (fun w => (w.start args timeout).2) (start args timeout) :=
    fun w => Or.inr ⟨w, .refl E w, .refl E _⟩
  refine hstart.bind fun finish => ?_
  cases finish with
  | exited code output errors =>
    simp only
    split
    · exact (edits_log _ _ _).bind fun _ => edits_pure _
    · exact edits_pure _
  | timedOut => exact edits_throw _
  | missing => cases args <;> exact edits_throw _
  | denied => cases args <;> exact edits_throw _

end Tool

theorem edits_generate (directory : Path) (config : Config) (docUrl : Option String)
    (generatedAt : Option Timestamp) : Edits E (generate directory config docUrl generatedAt) := by
  have hrecord : ∀ p, Edits E (loadRecord config.registry.detachedParents p) := by
    intro p
    refine Edits.bind ?_ fun s => ?_
    · exact (edits_lookAt _ _).bind fun bytes => by split <;> first | exact edits_pure _ | exact edits_throw _
    · refine (edits_ofExcept _).bind fun c => ?_
      split
      · exact (edits_log _ _ _).bind fun _ => edits_pure _
      · exact edits_pure _
  have hload : Edits E (loadRegistry directory config.registry) := by
    refine Edits.bind ?_ fun records => ?_
    · refine (edits_lookAt _ _).bind fun names => ?_
      refine (edits_mapM fun n _ => hrecord _).bind fun records => ?_
      exact (edits_log _ _ _).bind fun _ => edits_pure _
    · exact (edits_forM fun cut _ => edits_log _ _ _).bind fun _ => edits_pure _
  unfold generate
  refine hload.bind fun r => ?_
  refine Edits.bind (edits_of_eq fun _ => rfl) fun w => ?_
  refine Edits.bind ?_ fun emitted => ?_
  · exact (edits_forM fun d _ => edits_log _ _ _).bind fun _ => edits_pure _
  · exact (edits_log _ _ _).bind fun _ => edits_pure _

theorem edits_exportDocs (hmake : ∀ p t u, t.makeDirectory p = .ok u → E t u) {directory : Path}
    (hremove : ∀ t : FileTree, E t (t.removeAll directory)) {extra : String} {words : List String}
    (hwords : ShellWords.ofText extra = .ok words) (sources executable : String) (timeout : Int) :
    EditsOnce E (fun w => (w.start (exportArgs sources directory executable words) timeout).2)
      (exportDocs sources directory executable extra timeout) := by
  unfold exportDocs
  refine (edits_contains _).bind_once fun there => ?_
  split
  · exact ((edits_log _ _ _).bind fun _ => edits_pure _).once _
  · refine (edits_makeNew fun q _ => hmake q).bind_once fun _ => ?_
    rw [hwords]
    refine (edits_runTool _ _ _ _).bind fun result => ?_
    split
    · exact edits_pure _
    · refine Edits.bind (fun w => ?_) fun _ => edits_throw _
      exact ⟨_, w.log, rfl, .single (hremove w.files)⟩

theorem edits_exportDocs_of_error (hmake : ∀ p t u, t.makeDirectory p = .ok u → E t u) {extra : String}
    {fault : ShellWords.Fault} (hwords : ShellWords.ofText extra = .error fault) (sources : String)
    (directory : Path) (executable : String) (timeout : Int) :
    Edits E (exportDocs sources directory executable extra timeout) := by
  unfold exportDocs
  refine (edits_contains _).bind fun there => ?_
  split
  · exact (edits_log _ _ _).bind fun _ => edits_pure _
  · refine (edits_makeNew fun q _ => hmake q).bind fun _ => ?_
    rw [hwords]
    exact edits_throw _

theorem edits_writeDeclarations (hmake : ∀ p t u, t.makeDirectory p = .ok u → E t u) {text : String}
    {file : Path} (hwrite : ∀ bytes t u, t.write file bytes = .ok u → E t u) (dryRun : Bool) :
    Edits E (writeDeclarations text file dryRun) := by
  unfold writeDeclarations
  split
  · exact (edits_log _ _ _).bind fun _ => edits_pure _
  · refine (edits_ensure fun q _ => hmake q).bind fun _ => ?_
    refine (edits_write (hwrite _)).bind fun _ => ?_
    exact (edits_log _ _ _).bind fun _ => edits_pure _

theorem edits_writeReference {declaration : Path}
    (hwrite : ∀ bytes t u, t.write (declaration.parent.child referenceName) bytes = .ok u → E t u) :
    Edits E (writeReference declaration) :=
  (edits_write (hwrite _)).bind fun _ => edits_pure _

end Fetch

end Act
end AmbientDecls
