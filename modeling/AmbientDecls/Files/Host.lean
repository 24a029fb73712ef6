import AmbientDecls.Json.Reader
import AmbientDecls.Text.Pieces

/-! Hosts of URLs: what may stand in brackets, and characters that would fall apart into delimiters. -/

namespace AmbientDecls.Host

inductive Fault
  /-- Brackets do not match, or something stands beside them. -/
  | brackets
  | address
  | delimiter
deriving DecidableEq, Repr

/-- One of the four numbers of a dotted address: it has no zeros in front and is below 256. -/
def isOctet (s : List Char) : Bool :=
  !s.isEmpty && s.length ≤ 3 && s.all Char.isDigit && (s.length == 1 || s.head? != some '0') &&
    Decimal.natOfDigits s ≤ 255

def isDotted (s : List Char) : Bool :=
  let parts := Text.pieces (· == '.') s
  parts.length == 4 && parts.all isOctet

def isGroup (s : List Char) : Bool :=
  !s.isEmpty && s.length ≤ 4 && s.all fun c => (Json.hexValue? c).isSome

/-- The groups of an address; a dotted address at the end stands for two. -/
def groups? (s : List Char) : Option (List (List Char)) :=
  let parts := Text.pieces (· == ':') s
  if parts.length < 3 then none
  else
    let last := parts.getLastD []
    if last.contains '.' then
      if isDotted last then some (parts.dropLast ++ [['0'], ['0']]) else none
    else some parts

/-- Whether groups make up an address: eight of them, or fewer with one gap. A gap is an empty group; at an end of the
address the group beyond it is empty as well. -/
def areAddress (gs : List (List Char)) : Bool :=
  let inner := gs.tail.dropLast
  let front := gs.takeWhile fun g => !g.isEmpty
  match inner.countP List.isEmpty with
  | 0 => gs.length == 8 && gs.all isGroup
  | 1 =>
    let rest := gs.drop (max 1 front.length + 1)
    let back := if rest == [[]] then [] else rest
    gs.length ≤ 9 && front.all isGroup && back.all isGroup && front.length + back.length ≤ 7
  | _ => false

/-- Whether a text is an address of groups between colons; the name of a zone may follow a percent
sign. -/
def isGrouped (s : List Char) : Bool :=
  let (address, zone) := Text.cutAt (· == '%') s
  let zoned := match zone with
    | none => true
    | some z => !z.isEmpty && !z.contains '%'
  zoned && (groups? address).any areAddress

/-- An address of a version to come: its number in hexadecimal digits, a point, and anything. -/
def isVersioned : List Char → Bool
  | 'v' :: s =>
    match Text.cutAt (· == '.') s with
    | (version, some rest) =>
      !version.isEmpty && version.all (fun c => (Json.hexValue? c).isSome) && !rest.isEmpty
    | _ => false
  | _ => false

def isAddress (s : List Char) : Bool :=
  match s with
  | 'v' :: _ => isVersioned s
  | s => isGrouped s

def withoutUser (s : List Char) : List Char := (s.reverse.takeWhile (· != '@')).reverse

/-- Checks the brackets of a host. What follows them begins with a colon; nothing may stand before them. -/
def checkBrackets (host : List Char) : Except Fault Unit :=
  if host.contains '[' != host.contains ']' then .error .brackets
  else if !host.contains '[' then .ok ()
  else
    let host := withoutUser host
    let (before, inside) := Text.cutAt (· == '[') host
    match inside with
    | some inside =>
      let (address, after) := Text.cutAt (· == ']') inside
      let after := after.getD []
      if !before.isEmpty || (!after.isEmpty && after.head? != some ':') then .error .brackets
      else if isAddress address then .ok ()
      else .error .address
    | none => if isAddress (Text.cutAt (· == ':') host).1 then .ok () else .error .address

/-- The characters whose compatibility form holds a slash, a question mark, a number sign, an at sign or a
colon. -/
def wideDelimiters : List Nat :=
  [0x2047, 0x2048, 0x2049, 0x2100, 0x2101, 0x2105, 0x2106, 0x2a74, 0xfe13, 0xfe16, 0xfe55, 0xfe56,
    0xfe5f, 0xfe6b, 0xff03, 0xff0f, 0xff1a, 0xff1f, 0xff20]

def check (host : List Char) : Except Fault Unit := do
  checkBrackets host
  if host.any fun c => wideDelimiters.contains c.toNat then .error .delimiter else .ok ()

theorem checkBrackets_of_plain {host : List Char} (h : '[' ∉ host) (h' : ']' ∉ host) :
    checkBrackets host = .ok () := by
  simp [checkBrackets, h, h']

end AmbientDecls.Host
