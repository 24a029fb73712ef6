import AmbientDecls.Docs.Reading
import Mathlib.Logic.Relation

/-! What reading a record does not look at. Keys that are not known, keys whose value is null and members of other kinds
can be added anywhere in a document; what is read from it, or what is wrong with it, stays the same. -/

namespace AmbientDecls

open Schema Checked

/-- The values that the document of a record is made of. -/
inductive Portion
  | record
  | members
  | member
  | params
  | param
  | backing

def MemberKind.keys : MemberKind → List String
  | .property => ["type", "optional"]
  | .config => ["type", "optional", "required"]
  | .method => ["params", "return", "returns"]

namespace Portion

/-- The known keys of an object; those of a member depend on its kind. -/
def keys : Portion → List (Data × Data) → List String
  | record, _ => ["name", "alternateClassNames", "aliases", "extends", "parent", "singleton", "members", "mixins",
      "enum", "short_doc"]
  | member, es => ["tagname", "name", "owner", "private", "protected", "static", "short_doc"] ++
      ((memberKind? es).map MemberKind.keys).getD []
  | param, _ => ["name", "type", "optional", "properties", "short_doc"]
  | backing, _ => ["type"]
  | members, _ | params, _ => []

/-- What stands under a key, if it is a part of its own. -/
def under? : Portion → String → Option Portion
  | record, "members" => some members
  | record, "enum" => some backing
  | member, "params" => some params
  | member, "return" => some param
  | member, "returns" => some param
  | param, "properties" => some params
  | _, _ => none

/-- What the items of a list are. -/
def item? : Portion → Option Portion
  | members => some member
  | params => some param
  | _ => none

end Portion

/-- One addition, at any depth: a key that is not known, a key that was absent with the value null, or an object among
the members whose tag is that of no kind. -/
inductive Adds : Portion → Data → Data → Prop
  | unknown {p : Portion} (es fs : List (Data × Data)) (key : String) (d : Data) (h : key ∉ p.keys (es ++ fs)) :
      Adds p (.map (es ++ fs)) (.map (es ++ (.text key, d) :: fs))
  | null {p : Portion} (es fs : List (Data × Data)) (key : String) (h : Data.lookup? key (es ++ fs) = none) :
      Adds p (.map (es ++ fs)) (.map (es ++ (.text key, .null) :: fs))
  | other (ds ds' : List Data) (es : List (Data × Data))
      (h : ∀ kind : MemberKind, Data.lookup? "tagname" es ≠ some (.text kind.word)) :
      Adds .members (.list (ds ++ ds')) (.list (ds ++ .map es :: ds'))
  | entry {p q : Portion} (es fs : List (Data × Data)) (key : String) {d d' : Data} (h : p.under? key = some q)
      (hd : Adds q d d') : Adds p (.map (es ++ (.text key, d) :: fs)) (.map (es ++ (.text key, d') :: fs))
  | item {p q : Portion} (ds ds' : List Data) {d d' : Data} (h : p.item? = some q) (hd : Adds q d d') :
      Adds p (.list (ds ++ d :: ds')) (.list (ds ++ d' :: ds'))

/-- Two values are read alike: the same comes of them, or the same is wrong with them. -/
def Portion.Alike : Portion → Data → Data → Prop
  | .record, d, d' => ClassRecord.ofData d' = ClassRecord.ofData d
  | .members, d, d' => membersOf d' = membersOf d
  | .member, d, d' => Member.ofData d' = Member.ofData d ∧ isKept d' = isKept d
  | .params, d, d' => ∀ left, listOf .notATuple (Param.within left) d' = listOf .notATuple (Param.within left) d
  | .param, d, d' => ∀ left, Param.within left d' = Param.within left d
  | .backing, d, d' => backingOf d' = backingOf d

section Lookup

variable {α : Type} {key k : String} {es fs : List (Data × Data)} {d d' : Data}

theorem lookup?_append (es fs : List (Data × Data)) :
    Data.lookup? key (es ++ fs) = (Data.lookup? key es).or (Data.lookup? key fs) := by
  fun_induction Data.lookup? key es with
  | case1 => rfl
  | case2 v es => simp [Data.lookup?]
  | case3 k v es h ih => simp [Data.lookup?, h, ih]
  | case4 e es h ih =>
    obtain ⟨k, v⟩ := e
    cases k <;> simp_all [Data.lookup?]

theorem lookup?_cons_text :
    Data.lookup? key ((.text k, d) :: fs) = if k = key then some d else Data.lookup? key fs := rfl

theorem lookup?_add (h : k ≠ key) : Data.lookup? key (es ++ (.text k, d) :: fs) = Data.lookup? key (es ++ fs) := by
  rw [lookup?_append, lookup?_append, lookup?_cons_text, if_neg h]

theorem present_append (es fs : List (Data × Data)) : present (es ++ fs) = present es ++ present fs :=
  List.filter_append ..

theorem present_cons (h : d.isNull = false) : present ((.text k, d) :: fs) = (.text k, d) :: present fs :=
  List.filter_cons_of_pos (by simp [h])

theorem present_cons_null : present ((.text k, .null) :: fs) = present fs :=
  List.filter_cons_of_neg (by simp [Data.isNull])

end Lookup

section Readers

variable {α : Type} {R : Data → Data → Prop} {key other : String} {read : Data → Checked α} {default : α}
  {es es' : List (Data × Data)}

theorem orDefault_congr (hread : ∀ d d', R d d' → read d' = read d)
    (h : Option.Rel R (Data.lookup? key es) (Data.lookup? key es')) :
    orDefault key read default es' = orDefault key read default es := by
  unfold orDefault
  generalize Data.lookup? key es = old, Data.lookup? key es' = new at h
  cases h with
  | none => rfl
  | some hd => simp only [hread _ _ hd]

theorem eitherKey_congr (hread : ∀ d d', R d d' → read d' = read d)
    (h : Option.Rel R (Data.lookup? key es) (Data.lookup? key es'))
    (hother : Option.Rel R (Data.lookup? other es) (Data.lookup? other es')) :
    eitherKey key other read default es' = eitherKey key other read default es := by
  unfold eitherKey
  generalize Data.lookup? key es = old, Data.lookup? key es' = new at h
  cases h with
  | none => exact orDefault_congr hread hother
  | some hd => simp only [hread _ _ hd]

theorem listOf_congr {f : Fault} {ds ds' : List Data} (h : ds'.map read = ds.map read) :
    listOf f read (.list ds') = listOf f read (.list ds) := by
  have hmap : ∀ ds : List Data, (ds.mapIdx fun i d => (read d).under (.index i)) =
      (ds.map read).mapIdx fun i c => c.under (.index i) := by
    intro ds
    apply List.ext_getElem?
    intro i
    simp [Function.comp_def]
  simp only [listOf, hmap, h]

end Readers

namespace Portion

/-- What stands under a key is read alike. -/
def AlikeUnder (p : Portion) (key : String) (d d' : Data) : Prop :=
  match p.under? key with
  | some q => q.Alike d d'
  | none => d' = d

/-- The same known keys are there, and what stands under them is read alike. -/
structure Agree (p : Portion) (es es' : List (Data × Data)) : Prop where
  kind : p = .member → memberKind? es' = memberKind? es
  under : ∀ key ∈ p.keys es,
    Option.Rel (p.AlikeUnder key) (Data.lookup? key (present es)) (Data.lookup? key (present es'))

variable {es es' : List (Data × Data)}

theorem Agree.plain {p : Portion} (h : p.Agree es es') (key : String) (hkey : key ∈ p.keys es)
    (hunder : p.under? key = none) : Data.lookup? key (present es') = Data.lookup? key (present es) := by
  have hrel := h.under key hkey
  generalize Data.lookup? key (present es) = old, Data.lookup? key (present es') = new at hrel
  cases hrel with
  | none => rfl
  | some hd =>
    unfold AlikeUnder at hd
    rw [hunder] at hd
    exact congrArg some hd

theorem Agree.plain_of {p : Portion} (h : p.Agree es es') (keys : List String)
    (hkeys : ∀ key ∈ keys, key ∈ p.keys es ∧ p.under? key = none) :
    ∀ key ∈ keys, Data.lookup? key (present es') = Data.lookup? key (present es) :=
  fun key hkey => h.plain key (hkeys key hkey).1 (hkeys key hkey).2

theorem Agree.record (h : Portion.record.Agree es es') : Portion.record.Alike (.map es) (.map es') := by
  have hmembers : orDefault "members" membersOf [] (present es') = orDefault "members" membersOf [] (present es) :=
    orDefault_congr (fun _ _ hd => hd) (h.under "members" (by simp [keys]))
  have henum : orDefault "enum" (fun d => some <$> backingOf d) none (present es') =
      orDefault "enum" (fun d => some <$> backingOf d) none (present es) :=
    orDefault_congr (fun _ _ hd => congrArg _ hd) (h.under "enum" (by simp [keys]))
  have hplain := h.plain_of ["name", "alternateClassNames", "aliases", "extends", "parent", "singleton", "mixins",
    "short_doc"] (by simp [keys, under?])
  simp only [List.forall_mem_cons] at hplain
  obtain ⟨hname, hnames, haliases, hextends, hparent, hsingleton, hmixins, hdoc, -⟩ := hplain
  show ClassRecord.ofData (.map es') = ClassRecord.ofData (.map es)
  simp only [ClassRecord.ofData, entriesOf, Checked.andThen]
  rw [hmembers, henum]
  simp only [required, orDefault, eitherKey, hname, hnames, haliases, hextends, hparent, hsingleton, hmixins, hdoc]

theorem Agree.backing (h : Portion.backing.Agree es es') : Portion.backing.Alike (.map es) (.map es') := by
  have htype := h.plain "type" (by simp [keys]) rfl
  show backingOf (.map es') = backingOf (.map es)
  simp only [backingOf, entriesOf, Checked.andThen, required, htype]

theorem Agree.param (h : Portion.param.Agree es es') : Portion.param.Alike (.map es) (.map es') := by
  have hplain := h.plain_of ["name", "type", "optional", "short_doc"] (by simp [keys, under?])
  simp only [List.forall_mem_cons] at hplain
  obtain ⟨hname, htype, hoptional, hdoc, -⟩ := hplain
  intro left
  cases left with
  | zero => rfl
  | succ left =>
    have hproperties : orDefault "properties" (fun d => some <$> listOf .notATuple (Param.within left) d) none
        (present es') = orDefault "properties" (fun d => some <$> listOf .notATuple (Param.within left) d) none
          (present es) :=
      orDefault_congr (fun _ _ hd => congrArg _ (hd left)) (h.under "properties" (by simp [keys]))
    simp only [Param.within]
    rw [hproperties]
    simp only [required, orDefault, hname, htype, hoptional, hdoc]

theorem Agree.body (h : Portion.member.Agree es es') {kind : MemberKind} (hkind : memberKind? es = some kind) :
    MemberBody.ofEntries (present es') kind = MemberBody.ofEntries (present es) kind := by
  have hkeys : ∀ key ∈ kind.keys, key ∈ Portion.member.keys es := by
    intro key hkey
    simp [keys, hkind, hkey]
  cases kind with
  | property =>
    have htype := h.plain _ (hkeys "type" (by simp [MemberKind.keys])) rfl
    have hoptional := h.plain _ (hkeys "optional" (by simp [MemberKind.keys])) rfl
    simp only [MemberBody.ofEntries, orDefault, htype, hoptional]
  | config =>
    have htype := h.plain _ (hkeys "type" (by simp [MemberKind.keys])) rfl
    have hoptional := h.plain _ (hkeys "optional" (by simp [MemberKind.keys])) rfl
    have hrequired := h.plain _ (hkeys "required" (by simp [MemberKind.keys])) rfl
    simp only [MemberBody.ofEntries, orDefault, htype, hoptional, hrequired]
  | method =>
    have hparams : orDefault "params" (listOf .notATuple Param.ofData) [] (present es') =
        orDefault "params" (listOf .notATuple Param.ofData) [] (present es) :=
      orDefault_congr (fun _ _ hd => hd Param.levels) (h.under "params" (hkeys _ (by simp [MemberKind.keys])))
    have hreturn : eitherKey "return" "returns" (fun d => some <$> Param.ofData d) none (present es') =
        eitherKey "return" "returns" (fun d => some <$> Param.ofData d) none (present es) :=
      eitherKey_congr (R := Portion.param.Alike) (fun _ _ hd => congrArg _ (hd Param.levels))
        (h.under "return" (hkeys _ (by simp [MemberKind.keys])))
        (h.under "returns" (hkeys _ (by simp [MemberKind.keys])))
    simp only [MemberBody.ofEntries, hparams, hreturn]

theorem Agree.member (h : Portion.member.Agree es es') : Portion.member.Alike (.map es) (.map es') := by
  have hplain := h.plain_of ["name", "owner", "private", "protected", "static", "short_doc"]
    (by simp [keys, under?])
  simp only [List.forall_mem_cons] at hplain
  obtain ⟨hname, howner, hprivate, hprotected, hstatic, hdoc, -⟩ := hplain
  have hkinds := h.kind rfl
  refine ⟨?_, by simp only [isKept, hkinds]⟩
  simp only [Member.ofData, hkinds]
  cases hkind : memberKind? es with
  | none => rfl
  | some kind =>
    simp only [Member.ofEntries, h.body hkind]
    simp only [required, orDefault, hname, howner, hprivate, hprotected, hstatic, hdoc]

theorem Agree.alike {p : Portion} (h : p.Agree es es') : p.Alike (.map es) (.map es') := by
  cases p with
  | record => exact h.record
  | members => rfl
  | member => exact h.member
  | params => exact fun left => rfl
  | param => exact h.param
  | backing => exact h.backing

theorem Alike.refl (p : Portion) (d : Data) : p.Alike d d := by
  cases p with
  | record | members | backing => rfl
  | member => exact ⟨rfl, rfl⟩
  | params | param => exact fun left => rfl

theorem AlikeUnder.refl (p : Portion) (key : String) (d : Data) : p.AlikeUnder key d d := by
  unfold AlikeUnder
  split
  · exact Alike.refl ..
  · rfl

theorem AlikeUnder.rel_refl (p : Portion) (key : String) (d : Option Data) : Option.Rel (p.AlikeUnder key) d d := by
  cases d with
  | none => exact .none
  | some d => exact .some (AlikeUnder.refl ..)

theorem tagname_mem_keys (es : List (Data × Data)) : "tagname" ∈ Portion.member.keys es := by simp [keys]

section Additions

variable {p q : Portion} {es fs : List (Data × Data)} {key : String} {d d' : Data}

theorem present_add_null : present (es ++ (.text key, .null) :: fs) = present (es ++ fs) := by
  rw [present_append, present_cons_null, present_append]

theorem present_add {k : String} (h : key ≠ k) :
    Data.lookup? k (present (es ++ (.text key, d) :: fs)) = Data.lookup? k (present (es ++ fs)) := by
  cases hd : d.isNull with
  | true =>
    cases d <;> simp [Data.isNull] at hd
    rw [present_add_null]
  | false => rw [present_append, present_append, present_cons hd, lookup?_add h]

theorem memberKind?_add (h : key ≠ "tagname") :
    memberKind? (es ++ (.text key, d) :: fs) = memberKind? (es ++ fs) := by
  simp only [memberKind?, lookup?_add h]

theorem agree_unknown (h : key ∉ p.keys (es ++ fs)) : p.Agree (es ++ fs) (es ++ (.text key, d) :: fs) where
  kind := by
    rintro rfl
    exact memberKind?_add fun htag => h (htag ▸ tagname_mem_keys _)
  under := by
    intro k hk
    have hne : key ≠ k := by
      rintro rfl
      exact h hk
    rw [present_add hne]
    exact AlikeUnder.rel_refl ..

theorem agree_null (h : Data.lookup? key (es ++ fs) = none) : p.Agree (es ++ fs) (es ++ (.text key, .null) :: fs) where
  kind := by
    intro hp
    by_cases htag : key = "tagname"
    · subst htag
      rw [lookup?_append, Option.or_eq_none_iff] at h
      simp [memberKind?, lookup?_append, lookup?_cons_text, h]
    · exact memberKind?_add htag
  under := by
    intro k hk
    rw [present_add_null]
    exact AlikeUnder.rel_refl ..

theorem agree_entry (h : p.under? key = some q) (hold : d.isNull = false) (hnew : d'.isNull = false)
    (hd : q.Alike d d') : p.Agree (es ++ (.text key, d) :: fs) (es ++ (.text key, d') :: fs) where
  kind := by
    rintro rfl
    have htag : key ≠ "tagname" := by
      rintro rfl
      cases h
    rw [memberKind?_add htag, memberKind?_add htag]
  under := by
    intro k hk
    by_cases hkey : key = k
    · subst hkey
      have hunder : p.AlikeUnder key d d' := by
        unfold AlikeUnder
        rw [h]
        exact hd
      simp only [present_append, present_cons hold, present_cons hnew, lookup?_append, lookup?_cons_text, if_pos]
      cases Data.lookup? key (present es) with
      | none => exact .some hunder
      | some old => exact AlikeUnder.rel_refl ..
    · rw [present_add hkey, present_add hkey]
      exact AlikeUnder.rel_refl ..

end Additions

section Items

variable {ds ds' : List Data} {d d' : Data}

theorem alike_members_item (h : Portion.member.Alike d d') :
    Portion.members.Alike (.list (ds ++ d :: ds')) (.list (ds ++ d' :: ds')) := by
  obtain ⟨hread, hkept⟩ := h
  refine listOf_congr (f := .notATuple) ?_
  simp only [List.filter_append, List.filter_cons, List.map_append, hkept]
  split
  · simp only [List.map_cons, hread]
  · rfl

theorem alike_params_item (h : Portion.param.Alike d d') :
    Portion.params.Alike (.list (ds ++ d :: ds')) (.list (ds ++ d' :: ds')) := by
  intro left
  apply listOf_congr
  simp [h left]

theorem isKept_eq_false {es : List (Data × Data)}
    (h : ∀ kind : MemberKind, Data.lookup? "tagname" es ≠ some (.text kind.word)) : isKept (.map es) = false := by
  have hkind : memberKind? es = none := by
    unfold memberKind?
    split
    · next tag htag =>
      refine List.find?_eq_none.2 fun kind _ hword => h kind ?_
      rw [htag, of_decide_eq_true hword]
    · rfl
  simp [isKept, hkind]

theorem alike_members_other {other : Data} (h : isKept other = false) :
    Portion.members.Alike (.list (ds ++ ds')) (.list (ds ++ other :: ds')) := by
  have hkept : (ds ++ other :: ds').filter isKept = (ds ++ ds').filter isKept := by
    simp [h]
  show membersOf (.list (ds ++ other :: ds')) = membersOf (.list (ds ++ ds'))
  simp only [membersOf, hkept]

end Items
end Portion

namespace Adds

variable {p : Portion} {d d' : Data}

theorem isNull (h : Adds p d d') : d.isNull = false ∧ d'.isNull = false := by
  cases h <;> exact ⟨rfl, rfl⟩

/-- One addition is not seen: by induction on where it is made. -/
theorem alike (h : Adds p d d') : p.Alike d d' := by
  induction h with
  | unknown _ _ _ d h => exact (Portion.agree_unknown h).alike
  | null _ _ _ h => exact (Portion.agree_null h).alike
  | other _ _ _ h => exact Portion.alike_members_other (Portion.isKept_eq_false h)
  | entry _ _ _ h hd ih => exact (Portion.agree_entry h hd.isNull.1 hd.isNull.2 ih).alike
  | @item p _ _ _ _ _ h hd ih =>
    cases p <;> cases h
    · exact Portion.alike_members_item ih
    · exact Portion.alike_params_item ih

end Adds

/-- Whatever is added, the record that is read stays the same, and so does what is found wrong. -/
theorem ClassRecord.ofData_of_additions {d d' : Data} (h : Relation.ReflTransGen (Adds .record) d d') :
    ClassRecord.ofData d' = ClassRecord.ofData d := by
  induction h with
  | refl => rfl
  | tail _ hadd ih =>
    have hstep := hadd.alike
    exact hstep.trans ih

/-- A class with a method that takes a callback. -/
def bareDocument : Data :=
  .map [(.text "name", .text "Ext.Button"), (.text "aliases", .list [.text "Ext.Btn"]),
    (.text "members", .list [.map [(.text "tagname", .text "method"), (.text "name", .text "on"),
      (.text "params", .list [.map [(.text "name", .text "fn"), (.text "type", .text "Function"),
        (.text "properties", .list [.map [(.text "name", .text "e")]])]])]])]

/-- The same with a null alias key, an event that is no record at all and an unknown key on the callback's argument. -/
def annotatedDocument : Data :=
  .map [(.text "name", .text "Ext.Button"), (.text "alternateClassNames", .null),
    (.text "aliases", .list [.text "Ext.Btn"]),
    (.text "members", .list [.map [(.text "tagname", .text "event"), (.text "name", .int 7)],
      .map [(.text "tagname", .text "method"), (.text "name", .text "on"),
        (.text "params", .list [.map [(.text "name", .text "fn"), (.text "type", .text "Function"),
          (.text "properties", .list [.map [(.text "id", .bool true), (.text "name", .text "e")]])]])]])]

theorem ClassRecord.ofData_annotatedDocument :
    Relation.ReflTransGen (Adds .record) bareDocument annotatedDocument ∧
      ClassRecord.ofData annotatedDocument = ClassRecord.ofData bareDocument := by
  have hid : Adds .param (.map [(.text "name", .text "e")])
      (.map [(.text "id", .bool true), (.text "name", .text "e")]) :=
    .unknown [] [(.text "name", .text "e")] "id" (.bool true) (by simp [Portion.keys])
  have hcallback : Adds .params _ _ := .item [] [] rfl hid
  have hparam : Adds .param _ _ :=
    .entry [(.text "name", .text "fn"), (.text "type", .text "Function")] [] "properties" rfl hcallback
  have hparams : Adds .params _ _ := .item [] [] rfl hparam
  have hmethod : Adds .member _ _ :=
    .entry [(.text "tagname", .text "method"), (.text "name", .text "on")] [] "params" rfl hparams
  have hmembers : Adds .members _ _ := .item [] [] rfl hmethod
  have hfirst : Adds .record _ _ :=
    .entry [(.text "name", .text "Ext.Button"), (.text "aliases", .list [.text "Ext.Btn"])] [] "members" rfl hmembers
  have hevent (kind : MemberKind) :
      Data.lookup? "tagname" [(.text "tagname", .text "event"), (.text "name", .int 7)] ≠ some (.text kind.word) := by
    cases kind <;> simp [Data.lookup?, MemberKind.word]
  have hadditions : Relation.ReflTransGen (Adds .record) bareDocument annotatedDocument := by
    refine .head hfirst (.head ?_ (.single (.null [(.text "name", .text "Ext.Button")] _ "alternateClassNames" rfl)))
    refine .entry [(.text "name", .text "Ext.Button"), (.text "aliases", .list [.text "Ext.Btn"])] [] "members" rfl ?_
    exact .other [] _ _ hevent
  exact ⟨hadditions, ClassRecord.ofData_of_additions hadditions⟩

end AmbientDecls
