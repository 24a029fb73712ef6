import AmbientDecls.Proofs.Types.Token
import AmbientDecls.Proofs.Types.Tree

/-! Reading the types of declarations. Array markers belong to the operand before them, bars separate operands, and an
arrow takes everything up to the end of its type. The types around the one that is being read wait in frames. -/

namespace AmbientDecls

abbrev TypeParams := List (Label × TypeTree)

/-- What a type that is being read stands in. -/
inductive Frame
  /-- Parentheses, behind some alternatives of the type around them. -/
  | group (before : List TypeTree)
  /-- A parameter behind others. -/
  | param (read : TypeParams) (label : Label)
  /-- The type that a function with these parameters returns. -/
  | returns (params : TypeParams)

inductive Mode
  | operand
  /-- An opening parenthesis; a parameter may follow as well as an operand. -/
  | opened
  /-- A word behind an opening parenthesis, an operand or the name of a parameter. -/
  | named (s : List Char)
  | done (t : TypeTree)
  | bracket (t : TypeTree)
  | param (read : TypeParams)
  | label (read : TypeParams) (s : List Char)
  | colon (read : TypeParams) (label : Label)
  | closed (params : TypeParams)

/-- A type that is being read: the alternatives before the current operand and the types around it. -/
structure Reader where
  frames : List Frame
  before : List TypeTree
  mode : Mode

namespace Mode

def expects : Mode → Bool
  | operand | opened => true
  | _ => false

def value? : Mode → Option TypeTree
  | named s => some (.name (String.ofList s))
  | done t => some t
  | _ => none

end Mode

namespace Reader

def restName? : List Char → Option (List Char)
  | '.' :: '.' :: '.' :: s => if isName s then some s else none
  | _ => none

/-- Ends the functions whose returned type ends. -/
def complete : List Frame → TypeTree → List Frame × TypeTree
  | .returns ps :: frames, t => complete frames (.function ps t)
  | frames, t => (frames, t)

def close (st : Reader) (t : TypeTree) : List Frame × TypeTree :=
  complete st.frames (.ofAlternatives (st.before ++ [t]))

def readOperand (st : Reader) : Token → Option Reader
  | .word s => if isDotted s then some { st with mode := .done (.name (String.ofList s)) } else none
  | .literal s => some { st with mode := .done (.literal (String.ofList s)) }
  | .sign '(' => some ⟨.group st.before :: st.frames, [], .opened⟩
  | _ => none

def readParam (frames : List Frame) (ps : TypeParams) : Token → Option Reader
  | .word s =>
    match restName? s with
    | some name => some ⟨frames, [], .colon ps ⟨String.ofList name, .rest⟩⟩
    | none => if isName s then some ⟨frames, [], .label ps s⟩ else none
  | _ => none

def readLabel (frames : List Frame) (ps : TypeParams) (s : List Char) : Token → Option Reader
  | .sign ':' => some ⟨.param ps ⟨String.ofList s, .required⟩ :: frames, [], .operand⟩
  | .sign '?' => some ⟨frames, [], .colon ps ⟨String.ofList s, .optional⟩⟩
  | _ => none

/-- Behind an opening parenthesis. Parameters are possible only if it begins its type. -/
def readOpened (st : Reader) (token : Token) : Option Reader :=
  match token, st.frames with
  | .sign ')', .group [] :: frames => some ⟨frames, [], .closed []⟩
  | .sign ')', _ => none
  | .word s, .group [] :: frames =>
    if isDotted s then some { st with mode := .named s } else readParam frames [] token
  | _, _ => readOperand st token

def readFollowing (st : Reader) (t : TypeTree) : Token → Option Reader
  | .sign '[' => some { st with mode := .bracket t }
  | .sign '|' => some { st with before := st.before ++ [t], mode := .operand }
  | .sign ')' =>
    match st.close t with
    | (.group us :: frames, u) => some ⟨frames, us, .done u⟩
    | (.param ps label :: frames, u) => some ⟨frames, [], .closed (ps ++ [(label, u)])⟩
    | _ => none
  | .sign ',' =>
    match st.close t with
    | (.param ps label :: frames, u) => some ⟨frames, [], .param (ps ++ [(label, u)])⟩
    | _ => none
  | _ => none

def step (st : Reader) (token : Token) : Option Reader :=
  match st.mode with
  | .operand => st.readOperand token
  | .opened => st.readOpened token
  | .named s =>
    match token, st.frames with
    | .sign ':', .group [] :: frames => if isName s then readLabel frames [] s token else none
    | .sign '?', .group [] :: frames => if isName s then readLabel frames [] s token else none
    | _, _ => st.readFollowing (.name (String.ofList s)) token
  | .done t => st.readFollowing t token
  | .bracket t => if token = .sign ']' then some { st with mode := .done (.array t) } else none
  | .param ps => readParam st.frames ps token
  | .label ps s => readLabel st.frames ps s token
  | .colon ps label =>
    if token = .sign ':' then some ⟨.param ps label :: st.frames, [], .operand⟩ else none
  | .closed ps => if token = .arrow then some ⟨.returns ps :: st.frames, [], .operand⟩ else none

def run (st : Reader) (ts : List Token) : Option Reader := ts.foldlM step st

def finish (st : Reader) : Option TypeTree :=
  match st.mode.value? with
  | some t =>
    match st.close t with
    | ([], u) => some u
    | _ => none
  | none => none

/-- The type that a text is read as. -/
def read (text : String) : Option TypeTree :=
  ((Token.all text.toList).bind (run ⟨[], [], .operand⟩)).bind finish

theorem run_cons {st next : Reader} {t : Token} (h : step st t = some next) (ts : List Token) :
    run st (t :: ts) = run next ts := by
  rw [run, List.foldlM_cons, h]
  rfl

theorem run_singleton (st : Reader) (t : Token) : run st [t] = step st t := by
  rw [run, List.foldlM_cons]
  cases step st t <;> rfl

theorem run_append {st next : Reader} {ts : List Token} (h : run st ts = some next)
    (us : List Token) : run st (ts ++ us) = run next us := by
  rw [run] at h
  rw [run, List.foldlM_append, h]
  rfl

def IsOperand (ts : List Token) (t : TypeTree) : Prop :=
  ∀ st : Reader, st.mode.expects = true →
    ∃ mode, run st ts = some { st with mode := mode } ∧ mode.value? = some t

/-- Tokens that are read as one or several alternatives. -/
def IsUnion (ts : List Token) (us : List TypeTree) : Prop :=
  ∀ st : Reader, st.mode.expects = true → ∃ init last mode, us = init ++ [last] ∧
    run st ts = some { st with before := st.before ++ init, mode := mode } ∧
      mode.value? = some last

/-- Tokens that are read as a type where no alternative stands before them. -/
def IsType (ts : List Token) (t : TypeTree) : Prop :=
  ∀ st : Reader, st.mode.expects = true → st.before = [] → ∃ after last,
    run st ts = some after ∧ after.mode.value? = some last ∧
      after.close last = complete st.frames t

/-- Where a parameter behind others begins. -/
inductive AtParam (frames : List Frame) : TypeParams → Reader → Prop
  | first : AtParam frames [] ⟨.group [] :: frames, [], .opened⟩
  | later (ps : TypeParams) : AtParam frames ps ⟨frames, [], .param ps⟩

def IsParam (ts : List Token) (p : Label × TypeTree) : Prop :=
  ∀ frames ps st, AtParam frames ps st → ∃ after last,
    run st ts = some after ∧ after.mode.value? = some last ∧
      after.close last = (.param ps p.1 :: frames, p.2)

theorem step_literal {st : Reader} (h : st.mode.expects = true) (s : List Char) :
    step st (.literal s) = some { st with mode := .done (.literal (String.ofList s)) } := by
  obtain ⟨frames, before, mode⟩ := st
  cases mode <;> first | rfl | cases h

theorem step_open {st : Reader} (h : st.mode.expects = true) :
    step st (.sign '(') = some ⟨.group st.before :: st.frames, [], .opened⟩ := by
  obtain ⟨frames, before, mode⟩ := st
  cases mode <;> first | rfl | cases h

theorem step_of_value {st : Reader} {t : TypeTree} (h : st.mode.value? = some t) {c : Char}
    (hcolon : c ≠ ':') (hmark : c ≠ '?') : step st (.sign c) = st.readFollowing t (.sign c) := by
  obtain ⟨frames, before, mode⟩ := st
  cases mode with
  | named s =>
    obtain rfl := Option.some.inj h
    unfold step
    split <;> simp_all
  | done u =>
    obtain rfl := Option.some.inj h
    rfl
  | _ => cases h

theorem isOperand_literal (s : List Char) :
    IsOperand [.literal s] (.literal (String.ofList s)) := by
  intro st hst
  refine ⟨.done (.literal (String.ofList s)), ?_, rfl⟩
  rw [run_singleton, step_literal hst]

theorem isOperand_name {s : List Char} (h : isDotted s = true) :
    IsOperand [.word s] (.name (String.ofList s)) := by
  intro st hst
  obtain ⟨frames, before, mode⟩ := st
  cases mode with
  | operand =>
    refine ⟨.done (.name (String.ofList s)), ?_, rfl⟩
    rw [run_singleton, step, readOperand, if_pos h]
  | opened =>
    by_cases hgroup : ∃ more, frames = .group [] :: more
    · obtain ⟨more, rfl⟩ := hgroup
      -- the word may still become the name of a parameter
      refine ⟨.named s, ?_, rfl⟩
      have hopened : step ⟨.group [] :: more, before, .opened⟩ (.word s) =
          some ⟨.group [] :: more, before, .named s⟩ := if_pos h
      rw [run_singleton, hopened]
    · refine ⟨.done (.name (String.ofList s)), ?_, rfl⟩
      have hopened : readOpened ⟨frames, before, .opened⟩ (.word s) =
          readOperand ⟨frames, before, .opened⟩ (.word s) := by
        unfold readOpened
        split <;> simp_all
      rw [run_singleton, step, hopened, readOperand, if_pos h]
  | _ => cases hst

theorem IsOperand.array {ts : List Token} {t : TypeTree} (h : IsOperand ts t) :
    IsOperand (ts ++ [.sign '[', .sign ']']) (.array t) := by
  intro st hst
  obtain ⟨mode, hrun, hvalue⟩ := h st hst
  refine ⟨.done (.array t), ?_, rfl⟩
  have hopen : step { st with mode := mode } (.sign '[') = some { st with mode := .bracket t } :=
    step_of_value hvalue (by decide) (by decide)
  rw [run_append hrun, run_cons hopen, run_singleton]
  rfl

theorem IsOperand.isUnion {ts : List Token} {t : TypeTree} (h : IsOperand ts t) :
    IsUnion ts [t] := by
  intro st hst
  obtain ⟨mode, hrun, hvalue⟩ := h st hst
  refine ⟨[], t, mode, rfl, ?_, hvalue⟩
  rw [hrun, List.append_nil]

theorem IsUnion.append {ts rest : List Token} {us more : List TypeTree} (h : IsUnion ts us)
    (k : IsUnion rest more) : IsUnion (ts ++ .sign '|' :: rest) (us ++ more) := by
  intro st hst
  obtain ⟨init, last, mode, rfl, hrun, hvalue⟩ := h st hst
  let next : Reader := { st with before := st.before ++ init ++ [last], mode := .operand }
  obtain ⟨init', last', mode', rfl, hrun', hvalue'⟩ := k next rfl
  refine ⟨init ++ [last] ++ init', last', mode', by simp, ?_, hvalue'⟩
  have hbar : step { st with before := st.before ++ init, mode := mode } (.sign '|') = some next :=
    step_of_value hvalue (by decide) (by decide)
  rw [run_append hrun, run_cons hbar, hrun']
  simp [next]

theorem IsUnion.isType {ts : List Token} {us : List TypeTree} (h : IsUnion ts us) :
    IsType ts (.ofAlternatives us) := by
  intro st hst hbefore
  obtain ⟨init, last, mode, rfl, hrun, hvalue⟩ := h st hst
  refine ⟨_, last, hrun, hvalue, ?_⟩
  rw [close, hbefore, List.nil_append]

theorem IsType.group {ts : List Token} {t : TypeTree} (h : IsType ts t) :
    IsOperand (.sign '(' :: ts ++ [.sign ')']) t := by
  intro st hst
  obtain ⟨after, last, hrun, hvalue, hclose⟩ :=
    h ⟨.group st.before :: st.frames, [], .opened⟩ rfl rfl
  refine ⟨.done t, ?_, rfl⟩
  -- the group is the innermost frame again when its type is closed
  rw [List.cons_append, run_cons (step_open hst), run_append hrun, run_singleton,
    step_of_value hvalue (by decide) (by decide), readFollowing, hclose]
  rfl

/-- The tokens before the colon of a parameter. -/
def labelTokens (label : Label) : List Token :=
  match label.mark with
  | .required => [.word label.name.toList]
  | .optional => [.word label.name.toList, .sign '?']
  | .rest => [.word ('.' :: '.' :: '.' :: label.name.toList)]

theorem restName?_of_isName {s : List Char} (h : isName s = true) : restName? s = none := by
  unfold restName?
  split
  · exact absurd h (by simp [isName, isNameStart, isIdentifierStart])
  · rfl

theorem run_name {frames : List Frame} {ps : TypeParams} {st : Reader} (hst : AtParam frames ps st)
    {s : List Char} (h : isName s = true) {c : Char} (hc : c = ':' ∨ c = '?') :
    run st [.word s, .sign c] = readLabel frames ps s (.sign c) := by
  cases hst with
  | first =>
    have hword : step ⟨.group [] :: frames, [], .opened⟩ (.word s) =
        some ⟨.group [] :: frames, [], .named s⟩ := if_pos (isDotted_of_isName h)
    have hsign : step ⟨.group [] :: frames, [], .named s⟩ (.sign c) =
        readLabel frames [] s (.sign c) := by
      rcases hc with rfl | rfl <;> exact if_pos h
    rw [run_cons hword, run_singleton, hsign]
  | later =>
    have hword : step ⟨frames, [], .param ps⟩ (.word s) = some ⟨frames, [], .label ps s⟩ := by
      simp only [step, readParam, restName?_of_isName h, h, if_true]
    rw [run_cons hword, run_singleton]
    rfl

theorem step_rest {frames : List Frame} {ps : TypeParams} {st : Reader} (hst : AtParam frames ps st)
    {s : List Char} (h : isName s = true) :
    step st (.word ('.' :: '.' :: '.' :: s)) =
      some ⟨frames, [], .colon ps ⟨String.ofList s, .rest⟩⟩ := by
  have hrest : restName? ('.' :: '.' :: '.' :: s) = some s := if_pos h
  have hparam : readParam frames ps (.word ('.' :: '.' :: '.' :: s)) =
      some ⟨frames, [], .colon ps ⟨String.ofList s, .rest⟩⟩ := by
    simp only [readParam, hrest]
  cases hst with
  | first =>
    have hdotted : isDotted ('.' :: '.' :: '.' :: s) = false := rfl
    rw [← hparam]
    simp only [step, readOpened, hdotted, Bool.false_eq_true, if_false]
  | later => exact hparam

theorem run_label {frames : List Frame} {ps : TypeParams} {st : Reader} (hst : AtParam frames ps st)
    {label : Label} (h : isName label.name.toList = true) :
    run st (labelTokens label ++ [.sign ':']) = some ⟨.param ps label :: frames, [], .operand⟩ := by
  obtain ⟨name, mark⟩ := label
  cases mark with
  | required =>
    change run st [.word name.toList, .sign ':'] = _
    rw [run_name hst h (Or.inl rfl), readLabel, String.ofList_toList]
  | optional =>
    have hmark : run st [.word name.toList, .sign '?'] =
        some ⟨frames, [], .colon ps ⟨name, .optional⟩⟩ := by
      rw [run_name hst h (Or.inr rfl), readLabel, String.ofList_toList]
    exact run_append hmark [.sign ':']
  | rest =>
    change run st [.word ('.' :: '.' :: '.' :: name.toList), .sign ':'] = _
    rw [run_cons (step_rest hst h), String.ofList_toList]
    rfl

theorem IsParam.of_label {label : Label} (hlabel : isName label.name.toList = true) {ts : List Token}
    {t : TypeTree} (h : IsType ts t) :
    IsParam (labelTokens label ++ .sign ':' :: ts) (label, t) := by
  intro frames ps st hst
  obtain ⟨after, last, hrun, hvalue, hclose⟩ := h ⟨.param ps label :: frames, [], .operand⟩ rfl rfl
  refine ⟨after, last, ?_, hvalue, hclose⟩
  rw [List.append_cons, run_append (run_label hst hlabel)]
  exact hrun

theorem run_params {tss : List (List Token)} {qs : TypeParams} (h : List.Forall₂ IsParam tss qs)
    (hne : tss ≠ []) {frames : List Frame} {ps : TypeParams} {st : Reader}
    (hst : AtParam frames ps st) :
    run st ([Token.sign ','].intercalate tss ++ [.sign ')']) =
      some ⟨frames, [], .closed (ps ++ qs)⟩ := by
  induction h generalizing ps st with
  | nil => exact absurd rfl hne
  | @cons ts q tss qs hq hqs ih =>
    obtain ⟨after, last, hrun, hvalue, hclose⟩ := hq frames ps st hst
    cases hqs with
    | nil =>
      rw [List.intercalate_singleton, run_append hrun, run_singleton,
        step_of_value hvalue (by decide) (by decide), readFollowing, hclose]
    | @cons us _ tss _ hp hps =>
      have hcomma : step after (.sign ',') = some ⟨frames, [], .param (ps ++ [q])⟩ := by
        rw [step_of_value hvalue (by decide) (by decide), readFollowing, hclose]
      have hrest := ih (List.cons_ne_nil _ _) (AtParam.later (ps ++ [q]))
      rw [List.append_assoc, List.singleton_append] at hrest
      rw [List.intercalate_cons_cons, List.append_assoc, List.append_assoc, run_append hrun,
        List.singleton_append, run_cons hcomma]
      exact hrest

theorem IsType.function {tss : List (List Token)} {qs : TypeParams}
    (hparams : List.Forall₂ IsParam tss qs) {ts : List Token} {t : TypeTree} (h : IsType ts t) :
    IsType (.sign '(' :: [Token.sign ','].intercalate tss ++ .sign ')' :: .arrow :: ts)
      (.function qs t) := by
  intro st hst hbefore
  have hopen : step st (.sign '(') = some ⟨.group [] :: st.frames, [], .opened⟩ := by
    rw [step_open hst, hbefore]
  have hclosed : run ⟨.group [] :: st.frames, [], .opened⟩
      ([Token.sign ','].intercalate tss ++ [.sign ')']) = some ⟨st.frames, [], .closed qs⟩ := by
    cases tss with
    | nil =>
      cases hparams
      rfl
    | cons ts tss => exact run_params hparams (List.cons_ne_nil ts tss) AtParam.first
  -- completing the returned type completes the function as well
  obtain ⟨after, last, hrun, hvalue, hclose⟩ := h ⟨.returns qs :: st.frames, [], .operand⟩ rfl rfl
  refine ⟨after, last, ?_, hvalue, hclose⟩
  rw [List.cons_append, run_cons hopen, List.append_cons, run_append hclosed]
  exact hrun

/-- A text whose tokens make up one type is read as that type. -/
theorem read_eq {text : String} {ts : List Token} {t : TypeTree}
    (hscans : Token.Scans text.toList ts) (h : IsType ts t) : read text = some t := by
  obtain ⟨after, last, hrun, hvalue, hclose⟩ := h ⟨[], [], .operand⟩ rfl rfl
  rw [read, Token.all_of_scans hscans, Option.bind_some, hrun, Option.bind_some, finish, hvalue]
  simp only [hclose]
  rfl

/-- Reading precedence: array markers before bars, bars before arrows. -/
example : read "() => A|B[]" =
    some (.function [] (.union [.name "A", .array (.name "B")])) := by rfl

end Reader
end AmbientDecls
