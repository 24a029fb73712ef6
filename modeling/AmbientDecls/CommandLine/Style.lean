import AmbientDecls.CommandLine.ColourNames
import AmbientDecls.Decimal.Scientific
import AmbientDecls.Text.Blank
import AmbientDecls.Text.Lower

/-! Definitions of styles: words for attributes and colours. Definitions of the same style have one normal form, in
which the words stand in a fixed order. -/

namespace AmbientDecls

inductive StyleAttribute
  | bold
  | dim
  | italic
  | underline
  | blink
  | blink2
  | reverse
  | conceal
  | strike
  | underline2
  | frame
  | encircle
  | overline
deriving DecidableEq, Repr

namespace StyleAttribute

def all : List StyleAttribute :=
  [bold, dim, italic, underline, blink, blink2, reverse, conceal, strike, underline2, frame, encircle,
    overline]

/-- The words for an attribute; the first is the one of the normal form. -/
def words : StyleAttribute → List String
  | bold => ["bold", "b"]
  | dim => ["dim", "d"]
  | italic => ["italic", "i"]
  | underline => ["underline", "u"]
  | blink => ["blink"]
  | blink2 => ["blink2"]
  | reverse => ["reverse", "r"]
  | conceal => ["conceal", "c"]
  | strike => ["strike", "s"]
  | underline2 => ["underline2", "uu"]
  | frame => ["frame"]
  | encircle => ["encircle"]
  | overline => ["overline", "o"]

def word (a : StyleAttribute) : String := a.words.headD ""

def ofWord? (s : List Char) : Option StyleAttribute :=
  all.find? fun a => a.words.any fun w => w.toList == s

theorem mem_all (a : StyleAttribute) : a ∈ all := by cases a <;> decide

@[simp] theorem ofWord?_word (a : StyleAttribute) : ofWord? a.word.toList = some a := by
  cases a <;> decide

end StyleAttribute

structure Style where
  /-- The attributes that are set or taken back, the latest first. -/
  attributes : List (StyleAttribute × Bool) := []
  colour : Option (List Char) := none
  background : Option (List Char) := none
  link : Option (List Char) := none

namespace Style

inductive Fault
  | unknownWord
  | emptyPart
deriving DecidableEq, Repr

def colourNames : List (List Char) := Text.words colourRows.toList

/-- The text between a word with an opening parenthesis and a closing one at the end. -/
def between? (front : String) (s : List Char) : Option (List Char) :=
  if front.toList.isPrefixOf s ∧ s.getLast? = some ')' then some (s.drop front.length).dropLast else none

def isHexDigit (c : Char) : Bool := c.isDigit || ('a' ≤ c && c ≤ 'f')

def checkParts (s : List Char) : Except Fault Unit :=
  match Text.pieces (· == ',') s with
  | [r, g, b] =>
    if [r, g, b].any List.isEmpty then .error .emptyPart
    else if [r, g, b].all fun p => Decimal.natOfDigits p ≤ 255 then .ok ()
    else .error .unknownWord
  | _ => .error .unknownWord

/-- A colour in normal form: a name, six hexadecimal digits, a number or three parts, each below
256. -/
def readColour (s : List Char) : Except Fault (List Char) :=
  let s := Text.lowered s
  if s = "default".toList ∨ colourNames.contains s then .ok s
  else match s with
    | '#' :: digits =>
      if digits.length = 6 ∧ digits.all isHexDigit then .ok s else .error .unknownWord
    | _ =>
      match between? "color(" s, between? "rgb(" s with
      | some digits, _ =>
        if 1 ≤ digits.length ∧ digits.length ≤ 3 ∧ digits.all Char.isDigit ∧
            Decimal.natOfDigits digits ≤ 255 then .ok s
        else .error .unknownWord
      | none, some parts =>
        if !parts.isEmpty && parts.all fun c => c.isDigit || c == ',' then (checkParts parts).map fun _ => s
        else .error .unknownWord
      | none, none => .error .unknownWord

/-- Reads the words of a definition; a later word counts before an earlier one. -/
def readWords (style : Style) : List (List Char) → Except Fault Style
  | [] => .ok style
  | w :: ws =>
    let word := Text.lowered w
    if word = "on".toList then
      match ws with
      | [] => .error .unknownWord
      | c :: ws => do readWords { style with background := some (← readColour c) } ws
    else if word = "not".toList then
      match ws with
      | [] => .error .unknownWord
      | a :: ws => match StyleAttribute.ofWord? a with
        | some a => readWords { style with attributes := (a, false) :: style.attributes } ws
        | none => .error .unknownWord
    else if word = "link".toList then
      match ws with
      | [] => .error .unknownWord
      | url :: ws => readWords { style with link := some url } ws
    else match StyleAttribute.ofWord? word with
      | some a => readWords { style with attributes := (a, true) :: style.attributes } ws
      | none => do readWords { style with colour := some (← readColour word) } ws

def noneWord : List Char := "none".toList

def read (s : List Char) : Except Fault Style :=
  if Text.trimmed Text.isBlank s = noneWord then .ok {} else readWords {} (Text.words s)

def parts (style : Style) : List (List Char) :=
  let attributes := StyleAttribute.all.flatMap fun a =>
    match style.attributes.lookup a with
    | some true => [a.word.toList]
    | some false => ["not".toList, a.word.toList]
    | none => []
  attributes ++ style.colour.toList ++ (style.background.map fun c => ["on".toList, c]).getD [] ++
    (style.link.map fun url => ["link".toList, url]).getD []

def text (style : Style) : List Char :=
  if style.parts.isEmpty then noneWord else Text.joined [' '] style.parts

/-- The normal form of a definition; one that names no style is trimmed and in lower case. -/
def normal (s : List Char) : Except Fault (List Char) :=
  match read s with
  | .ok style => .ok style.text
  | .error .unknownWord => .ok (Text.lowered (Text.trimmed Text.isBlank s))
  | .error .emptyPart => .error .emptyPart

end Style
end AmbientDecls
