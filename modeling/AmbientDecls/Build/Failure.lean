import AmbientDecls.Files.Host
import AmbientDecls.Files.Tree
import AmbientDecls.Files.Zip.Directory
import AmbientDecls.Schema.Checked
import AmbientDecls.Text.ShellWords
import AmbientDecls.Yaml.Plain

/-! Why a run fails, and how that is told. -/

namespace AmbientDecls

inductive RecordFault
  | invalidJson
  /-- The file describes something else than a class; its tag is shown. -/
  | unknownTag (shown : String)
  | invalidRecord (issues : List Schema.Issue)
deriving DecidableEq, Repr

/-- An external tool or a download that did not do its work. -/
structure ToolFailure where
  tool : String
  stage : String
  detail : String
  exitCode : Option Int := none
  caused : Bool := false
deriving DecidableEq, Repr

inductive ConfigFault
  | invalidYaml
  | invalidConfig (issues : List Schema.Issue)
deriving DecidableEq, Repr

inductive Failure
  | file (e : FileError)
  | nul
  | record (path : String) (fault : RecordFault)
  | tool (f : ToolFailure)
  | config (path : String) (fault : ConfigFault)
  | configShape
  | scalar (fault : Yaml.PlainFault)
  | noCharacter
  /-- A number that does not fit where it is needed. -/
  | overflow
  | tooLong (digits : Nat)
  | tooDeep
  | notUtf8 (fault : Utf8.Fault)
  | shellWords (fault : ShellWords.Fault)
  | host (fault : Host.Fault)
  | archive (fault : Zip.Fault)
  | noWords
  /-- Printed text with a tag that closes nothing, or that calls a handler with what is no value. -/
  | markup
  | colour
deriving DecidableEq, Repr

namespace Schema

def Fault.message : Fault → String
  | missing => "missing"
  | notText => "not a text"
  | textTooShort => "empty"
  | notBool => "not a truth value"
  | unreadableBool => "not readable as a truth value"
  | notInt => "not an integer"
  | unreadableInt => "not readable as an integer"
  | fractionalInt => "not a whole number"
  | tooLargeInt => "too large for an integer"
  | notFinite => "not finite"
  | notFloat => "not a number"
  | unreadableFloat => "not readable as a number"
  | notPositive => "not above zero"
  | notAChoice => "not one of the choices"
  | notATuple => "not a list"
  | notAList => "not a list"
  | notAModel => "not an object"
  | notAMember => "not a member"
  | tooDeep => "too deep"

def Step.text : Step → String
  | field name => name
  | index i => toString i

def Issue.message (i : Issue) : String :=
  ".".intercalate (i.path.map Step.text) ++ " is " ++ i.fault.message

def issuesText (is : List Issue) : String := "; ".intercalate (is.map Issue.message)

end Schema

def RecordFault.message : RecordFault → String
  | invalidJson => "invalid JSON"
  | unknownTag shown => "unknown top level tagname: " ++ shown
  | invalidRecord is => "invalid class record: " ++ Schema.issuesText is

def ToolFailure.message (f : ToolFailure) : String :=
  f.tool ++ " " ++ f.stage ++ " failed: " ++ f.detail

def hexByte (b : UInt8) : String := "0x" ++ String.ofList (Text.hexPadded 2 b.toNat)

def Utf8.Fault.message (f : Utf8.Fault) : String :=
  "'utf-8' codec can't decode " ++
    (if f.count = 1 then "byte " ++ hexByte f.byte ++ " in position " ++ toString f.position
      else "bytes in position " ++ toString f.position ++ "-" ++
        toString (f.position + f.count - 1)) ++ ": " ++ f.reason.message

def Host.Fault.message : Host.Fault → String
  | brackets => "Invalid IPv6 URL"
  | address => "the brackets of the host hold no address"
  | delimiter => "the host holds a character that stands for a delimiter"

def Zip.Fault.message : Zip.Fault → String
  | damaged d => d.message
  | unsupported => "a kind of archive that cannot be read"
  | encrypted => "the archive needs a password"
  | notUtf8 fault => fault.message
  | beforeStart => "a record would begin before the archive"
  | brokenData | brokenSteps => "compressed data is broken"
  | brokenBlocks => "Invalid data stream"
  | missingData => "the archive ends inside of an entry"

def Failure.message : Failure → String
  | file e => e.message
  | nul => "a path holds a NUL character"
  | record path fault => path ++ ": " ++ fault.message
  | tool f => f.message
  | config path .invalidYaml => "Invalid YAML in " ++ path
  | config path (.invalidConfig is) => "Invalid config in " ++ path ++ ": " ++ Schema.issuesText is
  | configShape => "the configuration is not a mapping with text keys"
  | scalar fault => fault.message
  | noCharacter => "chr() arg not in range(0x110000)"
  | overflow => "a number is too large"
  | tooLong digits => Decimal.tooLongMessage digits
  | tooDeep => "values lie too deep in one another"
  | notUtf8 fault => fault.message
  | shellWords fault => fault.message
  | host fault => fault.message
  | archive fault => fault.message
  | noWords => "no tool is named"
  | markup => "a tag of the printed text closes nothing or cannot be read"
  | colour => "a part of a colour is empty"

end AmbientDecls
