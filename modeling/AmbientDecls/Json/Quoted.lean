import AmbientDecls.Text.Quoted

/-! String literals of JSON in printable ASCII: what ASCII cannot show is written as UTF-16 units, so a
character past U+FFFF takes two escapes. -/

namespace AmbientDecls.Json

def unitEscape (n : Nat) : List Char := '\\' :: 'u' :: Text.hexPadded 4 n

def surrogates (n : Nat) : Nat × Nat :=
  (0xd800 + (n - 0x10000) / 0x400, 0xdc00 + (n - 0x10000) % 0x400)

def encodeChar (c : Char) : List Char :=
  if c = '"' then ['\\', '"']
  else if c = '\\' then ['\\', '\\']
  else if c = '\n' then ['\\', 'n']
  else if c = '\r' then ['\\', 'r']
  else if c = '\t' then ['\\', 't']
  else if c = '\x0c' then ['\\', 'f']
  else if c = '\x08' then ['\\', 'b']
  else if 32 ≤ c.toNat ∧ c.toNat < 127 then [c]
  else if c.toNat < 0x10000 then unitEscape c.toNat
  else unitEscape (surrogates c.toNat).1 ++ unitEscape (surrogates c.toNat).2

def encode (s : List Char) : List Char :=
  '"' :: s.flatMap encodeChar ++ ['"']

theorem encode_nil : encode [] = ['"', '"'] := rfl

end AmbientDecls.Json
