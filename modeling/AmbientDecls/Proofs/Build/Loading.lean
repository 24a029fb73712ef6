import AmbientDecls.Proofs.Build.Outcomes
import AmbientDecls.Proofs.Emit.History
import AmbientDecls.Proofs.Files.Growth

/-! What a generation depends on: the names in the directory of the export, the content of the files that it wants, and the
clock. Two worlds that agree on these come to the same declarations. -/

namespace AmbientDecls

namespace Act

section Agreement

variable {α β : Type} {R : World → World → Prop} {act : Act α} {f : α → Act β}

/-- Two runs that begin alike end alike. -/
def Agrees (R : World → World → Prop) (act : Act α) : Prop :=
  ∀ u v, R u v → (act u).1 = (act v).1 ∧ R (act u).2 (act v).2

theorem agrees_pure (a : α) : Agrees R (pure a : Act α) := fun _ _ h => ⟨rfl, h⟩

theorem agrees_throw (e : Failure) : Agrees R (throw e : Act α) := fun _ _ h => ⟨rfl, h⟩

/-- What follows has to agree only after what the first part can come to. -/
theorem Agrees.bind (h : Agrees R act) (hf : ∀ a, (∃ u v, R u v ∧ (act u).1 = .ok a) → Agrees R (f a)) :
    Agrees R (act >>= f) := by
  intro u v huv
  obtain ⟨hresult, hafter⟩ := h u v huv
  rw [bind_apply, bind_apply]
  cases hu : act u with
  | mk result u' =>
    cases hv : act v with
    | mk result' v' =>
      rw [hu, hv] at hresult hafter
      obtain rfl : result = result' := hresult
      cases result with
      | error e => exact ⟨rfl, hafter⟩
      | ok a => exact hf a ⟨u, v, huv, by rw [hu]⟩ u' v' hafter

theorem agrees_mapM {l : List α} {g : α → Act β} (h : ∀ a ∈ l, Agrees R (g a)) : Agrees R (l.mapM g) := by
  induction l with
  | nil => exact agrees_pure []
  | cons a l ih =>
    rw [List.mapM_cons]
    refine (h a (List.mem_cons_self ..)).bind fun _ _ => ?_
    exact (ih fun b hb => h b (List.mem_cons_of_mem _ hb)).bind fun _ _ => agrees_pure _

theorem agrees_lookAt {p : Path} {g : FileTree → Except FileCause α} (h : ∀ u v, R u v → g u.files = g v.files) :
    Agrees R (lookAt p g) := by
  intro u v huv
  refine ⟨?_, by rwa [lookAt_world, lookAt_world]⟩
  rw [lookAt_result, lookAt_result, h u v huv]

end Agreement

theorem mapM_eq_ok {α β : Type} {l : List α} {g : α → Act β} (hstill : ∀ a ∈ l, Edits (fun _ _ => False) (g a))
    {w w' : World} {bs : List β} (h : l.mapM g w = (.ok bs, w')) :
    ∀ a ∈ l, ∃ b v v', v.files = w.files ∧ g a v = (.ok b, v') := by
  induction l generalizing w w' bs with
  | nil => simp
  | cons a l ih =>
    rw [List.mapM_cons] at h
    obtain ⟨b, v, hfirst, hrest⟩ := bind_eq_ok h
    obtain ⟨bs', v', hmore, _⟩ := bind_eq_ok hrest
    intro c hc
    rcases List.mem_cons.mp hc with rfl | hc
    · exact ⟨b, w, v, rfl, hfirst⟩
    · obtain ⟨b', u, u', hfiles, hu⟩ := ih (fun d hd => hstill d (List.mem_cons_of_mem _ hd)) hmore c hc
      exact ⟨b', u, u', hfiles.trans (files_of_still (hstill a (List.mem_cons_self ..)) hfirst), hu⟩

/-- The names in a directory that begin in a given way, and the content of the files that are called so. -/
structure Exported (directory : Path) (start : String) (names : List String) (content : String → Bytes)
    (t : FileTree) : Prop where
  listed : ∃ all, t.list directory = .ok all ∧ (all.filter fun n => start.toList.isPrefixOf n.toList) = names
  read : ∀ n ∈ names, t.read (directory.child n) = .ok (content n)

/-- A file elsewhere does not change what is exported. -/
theorem Exported.write {directory file : Path} {start : String} {names : List String} {content : String → Bytes}
    {t u : FileTree} {bytes : Bytes} (h : Exported directory start names content t)
    (hwrite : t.write file bytes = .ok u)
    (hlist : (file.placeFrom t.home).dropLast ≠ directory.placeFrom t.home)
    (hread : ∀ n ∈ names, (directory.child n).placeFrom t.home ≠ file.placeFrom t.home) :
    Exported directory start names content u := by
  obtain ⟨all, hall, hnames⟩ := h.listed
  exact ⟨⟨all, FileTree.list_write hwrite hall hlist, hnames⟩,
    fun n hn => FileTree.read_write hwrite (h.read n hn) (hread n hn)⟩

section Generation

variable {directory : Path} {config : Config} {docUrl : Option String} {generatedAt : Option Timestamp} {g : Generated}
  {names : List String} {content : String → Bytes} {w w' u v : World}

theorem edits_loadRecord (detached : List String) (p : Path) : Edits (fun _ _ => False) (loadRecord detached p) := by
  refine Edits.bind ?_ fun s => ?_
  · exact (edits_lookAt _ _).bind fun bytes => by split <;> first | exact edits_pure _ | exact edits_throw _
  · refine (edits_ofExcept _).bind fun c => ?_
    split
    · exact (edits_log _ _ _).bind fun _ => edits_pure _
    · exact edits_pure _

/-- A generation that succeeds has found an export. -/
theorem exported_of_generate (h : generate directory config docUrl generatedAt w = (.ok g, w')) :
    directory.hasNul = false ∧ ∃ names content, Exported directory config.registry.classPrefix names content w.files := by
  obtain ⟨r, _, hload, _⟩ := bind_eq_ok h
  obtain ⟨records, _, hrecords, _⟩ := bind_eq_ok hload
  obtain ⟨names, v, hlist, hrest⟩ := bind_eq_ok hrecords
  obtain ⟨rfl, hnul, hlisted⟩ := lookAt_eq_ok hlist
  obtain ⟨_, _, hmap, _⟩ := bind_eq_ok hrest
  have hread := mapM_eq_ok (fun n _ => edits_loadRecord _ _) hmap
  refine ⟨hnul, _, fun n => (v.files.read (directory.child n)).toOption.getD [], ⟨names, hlisted, rfl⟩, fun n hn => ?_⟩
  obtain ⟨_, u, _, hsame, hrecord⟩ := hread n hn
  obtain ⟨_, _, htext, _⟩ := bind_eq_ok hrecord
  obtain ⟨bytes, _, hbytes, _⟩ := bind_eq_ok htext
  obtain ⟨_, _, hcontent⟩ := lookAt_eq_ok hbytes
  rw [← hsame, hcontent]
  rfl

/-- Two worlds with the same export and the same clock. -/
def SameExport (directory : Path) (start : String) (names : List String) (content : String → Bytes)
    (u v : World) : Prop :=
  Exported directory start names content u.files ∧ Exported directory start names content v.files ∧
    u.clock = v.clock

theorem agrees_log {start : String} (level : LogLevel) (source : LogSource) (message : String) :
    Agrees (SameExport directory start names content) (log level source message) := fun _ _ h => ⟨rfl, h⟩

theorem agrees_forM_log {start : String} {α : Type} (l : List α) (level : LogLevel) (source : LogSource)
    (message : α → String) :
    Agrees (SameExport directory start names content) (l.forM fun a => log level source (message a)) := by
  induction l with
  | nil => exact agrees_pure ()
  | cons a l ih =>
    change Agrees _ (log level source (message a) >>= fun _ => l.forM fun a => log level source (message a))
    exact (agrees_log level source _).bind fun _ _ => ih

theorem agrees_emission {start : String} {α : Type} (act : Emit α) (state : EmitState) :
    Agrees (SameExport directory start names content) (emission act state) := by
  unfold emission
  cases act state with
  | mk a next => exact (agrees_forM_log _ _ _ _).bind fun _ _ => agrees_pure _

theorem agrees_loadRecord {start : String} {n : String} (hn : n ∈ names) (detached : List String) :
    Agrees (SameExport directory start names content) (loadRecord detached (directory.child n)) := by
  have hread : Agrees (SameExport directory start names content) (read (directory.child n)) :=
    agrees_lookAt fun u v h => (h.1.read n hn).trans (h.2.1.read n hn).symm
  refine Agrees.bind (hread.bind fun bytes _ => ?_) fun s _ => ?_
  · split
    · exact agrees_pure _
    · exact agrees_throw _
  · refine Agrees.bind (fun u v h => ?_) fun c _ => ?_
    · cases readRecord _ s <;> exact ⟨rfl, h⟩
    · split
      · exact (agrees_log _ _ _).bind fun _ _ => agrees_pure _
      · exact agrees_pure _

/-- The registry that is loaded depends on nothing but the export. -/
theorem agrees_loadRegistry (config : RegistryConfig) :
    Agrees (SameExport directory config.classPrefix names content) (loadRegistry directory config) := by
  refine Agrees.bind (fun u v huv => ?_) fun records _ =>
    (agrees_forM_log _ _ _ _).bind fun _ _ => agrees_pure _
  -- other names may be found in the directory, but none that is wanted
  obtain ⟨all, hall, hnames⟩ := huv.1.listed
  obtain ⟨all', hall', hnames'⟩ := huv.2.1.listed
  have hlook : ∀ {x : World} {found : List String}, x.files.list directory = .ok found →
      list directory x = (if directory.hasNul then .error .nul else .ok found, x) := by
    intro x found hfound
    refine Prod.ext ?_ (lookAt_world _ _ _)
    rw [list, lookAt_result, hfound]
  unfold loadRecords
  rw [bind_apply, bind_apply, hlook hall, hlook hall']
  by_cases hnul : directory.hasNul = true
  · rw [if_pos hnul, if_pos hnul]
    exact ⟨rfl, huv⟩
  · rw [if_neg hnul, if_neg hnul]
    simp only [hnames, hnames']
    refine Agrees.bind (agrees_mapM fun n hn => agrees_loadRecord hn config.detachedParents) (fun records _ => ?_) u v huv
    exact (agrees_log _ _ _).bind fun _ _ => agrees_pure _

/-- Two worlds with the same clock can be asked for the time. -/
theorem agrees_clock {α : Type} {start : String} {f : Timestamp → Act α}
    (h : ∀ time, Agrees (SameExport directory start names content) (f time)) :
    Agrees (SameExport directory start names content) (get >>= fun w => f w.clock) := by
  intro u v huv
  rw [bind_of_ok (get_apply u), bind_of_ok (get_apply v), huv.2.2]
  exact h v.clock u v huv

/-- With the same export and at the same time the same is generated. -/
theorem generate_congr (h : SameExport directory config.registry.classPrefix names content u v) :
    (generate directory config docUrl none u).1 = (generate directory config docUrl none v).1 := by
  have hall : Agrees (SameExport directory config.registry.classPrefix names content)
      (generate directory config docUrl none) := by
    unfold generate
    refine (agrees_loadRegistry config.registry).bind fun r _ => ?_
    simp only [Option.getD_none]
    refine agrees_clock fun time => (agrees_emission _ _).bind fun emitted _ => ?_
    exact (agrees_log _ _ _).bind fun _ _ => agrees_pure _
  exact (hall u v h).1

end Generation
end Act
end AmbientDecls
