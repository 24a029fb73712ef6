import AmbientDecls.Files.Host
import AmbientDecls.Files.Path
import AmbientDecls.Text.Blank

/-! The path of a URL, and the file name that a download is kept under. -/

namespace AmbientDecls.Url

def isSchemeChar (c : Char) : Bool := c.isAlphanum || c == '+' || c == '-' || c == '.'

/-- What stands before the first colon, if it is a scheme, in lower case; and the rest. -/
def takeScheme (s : List Char) : List Char × List Char :=
  match Text.cutAt (· == ':') s with
  | (scheme, some rest) =>
    match scheme with
    | c :: _ => if c.isAlpha && scheme.all isSchemeChar then (scheme.map Char.toLower, rest) else ([], s)
    | [] => ([], s)
  | (_, none) => ([], s)

def endsHost (c : Char) : Bool := c == '/' || c == '?' || c == '#'

def takeHost : List Char → List Char × List Char
  | '/' :: '/' :: s => (s.takeWhile fun c => !endsHost c, s.dropWhile fun c => !endsHost c)
  | s => ([], s)

def schemesWithParams : List String :=
  ["", "ftp", "hdl", "prospero", "http", "imap", "https", "shttp", "rtsp", "rtsps", "rtspu", "sip",
    "sips", "mms", "sftp", "tel"]

def dropParams (s : List Char) : List Char :=
  let last := (s.reverse.takeWhile (· != '/')).reverse
  s.take (s.length - last.length) ++ last.takeWhile (· != ';')

/-- The path of a URL, if its host is in order. -/
def path (url : String) : Except Host.Fault (List Char) := do
  let s := (url.toList.dropWhile fun c => c.toNat ≤ 32).filter fun c =>
    !(c == '\t' || c == '\r' || c == '\n')
  let (scheme, s) := takeScheme s
  let (host, s) := takeHost s
  Host.check host
  let s := (s.takeWhile (· != '#')).takeWhile (· != '?')
  return if schemesWithParams.contains (String.ofList scheme) then dropParams s else s

/-- The name of an archive that is fetched from a URL: the last name of its path, if there is one. -/
def archiveName (url : String) : Except Host.Fault String := do
  let name := (Path.ofText (String.ofList (← path url))).name
  return if name.isEmpty then "distribution.zip" else name

end AmbientDecls.Url
