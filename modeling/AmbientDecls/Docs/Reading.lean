import AmbientDecls.Docs.Record
import AmbientDecls.Schema.Scalar

/-! Reading records from documents. A key whose value is null counts as absent, unknown keys are not looked at,
and of the members only those with a declaration form are read. -/

namespace AmbientDecls

open Schema Checked

def present (entries : List (Data × Data)) : List (Data × Data) :=
  entries.filter fun e => !e.2.isNull

def Param.levels : Nat := 255

/-- Reads a parameter with everything that is documented below it, up to `left` levels. -/
def Param.within : Nat → Data → Checked Param
  | 0, _ => fault .tooDeep
  | left + 1, .map entries =>
    let es := present entries
    Param.mk <$> required "name" text es <*> orDefault "type" text "Object" es <*>
      orDefault "optional" truth false es <*>
      orDefault "properties" (fun d => some <$> listOf .notATuple (Param.within left) d) none es <*>
      orDefault "short_doc" text "" es
  | _ + 1, _ => fault .notAModel

def Param.ofData : Data → Checked Param := Param.within Param.levels

def MemberBody.ofEntries (es : List (Data × Data)) : MemberKind → Checked MemberBody
  | .property =>
    MemberBody.property <$> orDefault "type" text "Object" es <*> orDefault "optional" truth false es
  | .config =>
    MemberBody.config <$> orDefault "type" text "Object" es <*> orDefault "optional" truth false es <*>
      orDefault "required" truth false es
  | .method =>
    MemberBody.method <$> orDefault "params" (listOf .notATuple Param.ofData) [] es <*>
      eitherKey "return" "returns" (fun d => some <$> Param.ofData d) none es

def Member.ofEntries (kind : MemberKind) (entries : List (Data × Data)) : Checked Member :=
  let es := present entries
  Member.mk <$> required "name" text es <*> orDefault "owner" text "" es <*>
    orDefault "private" truth false es <*> orDefault "protected" truth false es <*>
    orDefault "static" truth false es <*> orDefault "short_doc" text "" es <*>
    MemberBody.ofEntries es kind

def memberKind? (entries : List (Data × Data)) : Option MemberKind :=
  match Data.lookup? "tagname" entries with
  | some (.text t) => MemberKind.ofWord? t
  | _ => none

/-- Whether an item of a member list is kept: members of other kinds are not, while what is no record at
all is kept as a fault. -/
def isKept : Data → Bool
  | .map entries => (memberKind? entries).isSome
  | _ => true

/-- Reads a member; the path to what is wrong names its kind. -/
def Member.ofData : Data → Checked Member
  | .map entries => match memberKind? entries with
    | some kind => (Member.ofEntries kind entries).under (.field kind.word)
    | none => fault .notAMember
  | _ => fault .notAMember

/-- Reads the kept items of a member list; places are counted among those. -/
def membersOf : Data → Checked (List Member)
  | .list ds => listOf .notATuple Member.ofData (.list (ds.filter isKept))
  | _ => fault .notATuple

def backingOf (d : Data) : Checked String :=
  (entriesOf d).andThen fun entries => required "type" text (present entries)

def ClassRecord.ofData (d : Data) : Checked ClassRecord :=
  (entriesOf d).andThen fun entries =>
    let es := present entries
    ClassRecord.mk <$> required "name" nonEmptyText es <*>
      eitherKey "alternateClassNames" "aliases" (listOf .notATuple text) [] es <*>
      eitherKey "extends" "parent" text "" es <*> orDefault "singleton" truth false es <*>
      orDefault "members" membersOf [] es <*> orDefault "mixins" (listOf .notATuple text) [] es <*>
      orDefault "enum" (fun d => some <$> backingOf d) none es <*> orDefault "short_doc" text "" es

end AmbientDecls
