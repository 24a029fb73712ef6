import AmbientDecls.CommandLine.Emoji
import AmbientDecls.CommandLine.Literal
import AmbientDecls.CommandLine.Style
import AmbientDecls.Text.Word

/-! Text with style tags in brackets. Tags are not shown, a tag behind a backslash is text, and a closing tag has to
match an open one. Emoji codes are replaced between the tags. -/

namespace AmbientDecls.Markup

inductive Fault
  | unopened
  | arguments
  | colour
deriving DecidableEq, Repr

def startsTag (c : Char) : Bool := c.isLower || c == '#' || c == '/' || c == '@'

def inTag (c : Char) : Bool := c != '[' && c != ']'

def tag? : List Char → Option (List Char × List Char)
  | '[' :: s =>
    match s.takeWhile inTag, s.dropWhile inTag with
    | c :: inside, ']' :: rest => if startsTag c then some (c :: inside, rest) else none
    | _, _ => none
  | _ => none

theorem tag?_nil : tag? [] = none := rfl

/-- A tag at the front behind backslashes: their number, the inside of the tag, and what follows. -/
def guarded? (s : List Char) : Option (Nat × List Char × List Char) :=
  (tag? (s.dropWhile (· == '\\'))).map fun (inside, rest) =>
    ((s.takeWhile (· == '\\')).length, inside, rest)

inductive Item
  | text (s : List Char)
  | tag (inside : List Char)
deriving DecidableEq, Repr

/-- The items of markup; `plain` is the text before them, backwards. Two backslashes before a tag are one, and a single
one makes a text of it. Every round reads a character at least. -/
def itemsFrom : Nat → List Char → List Char → List Item
  | 0, plain, _ => [.text plain.reverse]
  | fuel + 1, plain, s =>
    match guarded? s with
    | some (n, inside, rest) =>
      let item : Item := if n % 2 = 1 then .text ('[' :: inside ++ [']']) else .tag inside
      .text plain.reverse :: .text (List.replicate (n / 2) '\\') :: item :: itemsFrom fuel [] rest
    | none => match s with
      | [] => [.text plain.reverse]
      | c :: rest => itemsFrom fuel (c :: plain) rest

def items (s : List Char) : List Item := itemsFrom (s.length + 1) [] s

/-- What a text between tags shows: a backslash before a bracket is dropped. -/
def plainText (s : List Char) : List Char := Emoji.replaced (Text.replacePair '\\' '[' ['['] s)

/-- An open tag: the normal form of its style, and what stands behind the equals sign. -/
structure Tag where
  name : List Char
  parameters : Option (List Char)
deriving DecidableEq, Repr

def Tag.definition (t : Tag) : List Char :=
  match t.parameters with
  | some p => t.name ++ ' ' :: p
  | none => t.name

def styleName (s : List Char) : Except Fault (List Char) :=
  match Style.normal s with
  | .ok name => .ok name
  | .error _ => .error .colour

/-- The part of a handler's parameters that holds its arguments: behind a name, all that stands in parentheses up to the
end of a line. -/
def arguments (s : List Char) : List Char :=
  let s := Text.trimmed Text.isBlank s
  match s.dropWhile fun c => Text.isWordChar c || c == '.' with
  | [] => ['(', ')']
  | c :: rest =>
    if c = '(' ∧ rest.getLast? = some ')' ∧ '\n' ∉ rest then c :: rest else s

/-- Whether a tag may be closed: the arguments of a handler are values. -/
def Tag.closes (t : Tag) : Bool :=
  match t.name, t.parameters with
  | '@' :: _, some (c :: p) => Literal.accepts (arguments (c :: p))
  | _, _ => true

/-- The tag that a closing tag means, and the others; the innermost comes first. -/
def closed? (name : List Char) (tags : List Tag) : Option (Tag × List Tag) :=
  if name.isEmpty then
    match tags with
    | t :: tags => some (t, tags)
    | [] => none
  else (tags.find? fun t => t.name = name).map fun t => (t, tags.erase t)

/-- The open tags, innermost first, behind a further tag, and the one that it closes. -/
def applied (tags : List Tag) (inside : List Char) : Except Fault (List Tag × Option Tag) :=
  let (name, parameters) := Text.cutAt (· == '=') inside
  match name with
  | '/' :: name => do
    let name := Text.trimmed Text.isBlank name
    let name ← if name.isEmpty then .ok [] else styleName name
    match closed? name tags with
    | none => .error .unopened
    | some (t, tags) => if t.closes then .ok (tags, some t) else .error .arguments
  | name => do return (⟨← styleName name, parameters⟩ :: tags, none)

def Tag.isReadable (t : Tag) : Bool :=
  match t.name with
  | '@' :: _ => true
  | _ => match Style.read t.definition with
    | .error .emptyPart => false
    | _ => true

/-- Shows items with some tags open. The styles are looked up at the end, those of tags that were closed among them. -/
def shownItems (tags closed : List Tag) : List Item → Except Fault (List Char)
  | [] => if (closed ++ tags).all Tag.isReadable then .ok [] else .error .colour
  | .text s :: rest => do return plainText s ++ (← shownItems tags closed rest)
  | .tag inside :: rest => do
    let (tags, last) ← applied tags inside
    shownItems tags (last.toList ++ closed) rest

def shown (s : List Char) : Except Fault (List Char) := shownItems [] [] (items s)

theorem guarded?_eq_none {s : List Char} (h : '[' ∉ s) : guarded? s = none := by
  have ht : tag? (s.dropWhile (· == '\\')) = none := by
    unfold tag?
    split
    · next r hr => exact absurd ((List.dropWhile_sublist _).subset (hr ▸ List.mem_cons_self)) h
    · rfl
  simp [guarded?, ht]

theorem itemsFrom_eq_text {fuel : Nat} {plain s : List Char} (hs : s.length < fuel) (h : '[' ∉ s) :
    itemsFrom fuel plain s = [.text (plain.reverse ++ s)] := by
  induction fuel generalizing plain s with
  | zero => omega
  | succ fuel ih =>
    unfold itemsFrom
    rw [guarded?_eq_none h]
    cases s with
    | nil => simp
    | cons c r =>
      have hr : '[' ∉ r := fun hm => h (List.mem_cons_of_mem _ hm)
      simp only [ih (Nat.lt_of_succ_lt_succ hs) hr, List.reverse_cons, List.append_assoc,
        List.singleton_append]

theorem shown_eq_replaced {s : List Char} (h : '[' ∉ s) : shown s = .ok (Emoji.replaced s) := by
  have hpair : ¬ ['\\', '['] <:+: s := fun hpair => h (hpair.subset (List.mem_cons_of_mem _ (List.mem_cons_self ..)))
  simp only [shown, items, itemsFrom_eq_text (Nat.lt_succ_self _) h, List.reverse_nil, List.nil_append,
    shownItems, plainText, Text.replacePair_eq_self hpair, List.all_nil, if_true]
  simp [bind, Except.bind, pure, Except.pure]

theorem shown_eq_self {s : List Char} (h : '[' ∉ s) (hc : ':' ∉ s) : shown s = .ok s := by
  rw [shown_eq_replaced h, Emoji.replaced_eq_self hc]

end AmbientDecls.Markup
