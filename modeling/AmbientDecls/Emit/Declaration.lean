import AmbientDecls.Types.Conversion

/-! Declarations before they are written out: members, configuration interfaces, classes and modules, each with its
written form. -/

namespace AmbientDecls

inductive Signature
  /-- A property; options are written in the same way. -/
  | property (optional : Bool) (type : String)
  /-- A method; a constructor has no return type. -/
  | method (params : List Parameter) (returns : Option String)
deriving DecidableEq, Repr

def Signature.render : Signature → String
  | .property optional type => (if optional then "?" else "") ++ ": " ++ type ++ ";"
  | .method params returns =>
    "(" ++ Parameter.renderAll params ++ ")" ++ (returns.map (": " ++ ·)).getD "" ++ ";"

structure MemberDecl where
  name : String
  isStatic : Bool
  doc : String
  signature : Signature
deriving DecidableEq, Repr

namespace MemberDecl

def key (d : MemberDecl) : String × Bool := (d.name, d.isStatic)

def render (d : MemberDecl) : String :=
  d.doc ++ "\n" ++ (if d.isStatic then "static " else "") ++ quoteProperty d.name ++
    d.signature.render

end MemberDecl

structure ConfigField where
  name : String
  optional : Bool
  type : String
deriving DecidableEq, Repr

def ConfigField.render (f : ConfigField) : String :=
  quoteProperty f.name ++ (if f.optional then "?" else "") ++ ": " ++ f.type ++ ";"

/-- Text that ends its last line, unless it is empty. -/
def endLine (s : String) : String := if s.isEmpty then s else s ++ "\n"

structure ConfigInterface where
  exported : Bool
  name : String
  base : Option String
  fields : List ConfigField
deriving DecidableEq, Repr

def extendsClause (base : Option String) : String := (base.map (" extends " ++ ·)).getD ""

def ConfigInterface.render (i : ConfigInterface) : String :=
  (if i.exported then "export interface " else "interface ") ++ i.name ++ extendsClause i.base ++
    " \x7b\n" ++ endLine (indent ("\n".intercalate (i.fields.map ConfigField.render))) ++ "\x7d\n"

structure ClassDecl where
  config : Option ConfigInterface
  doc : String
  exported : Bool
  name : String
  base : Option String
  members : List MemberDecl
deriving DecidableEq, Repr

def ClassDecl.render (c : ClassDecl) : String :=
  (c.config.map ConfigInterface.render).getD "" ++ c.doc ++ "\n" ++
    (if c.exported then "export class " else "declare class ") ++ c.name ++ extendsClause c.base ++
    " \x7b\n" ++ endLine ("\n".intercalate (c.members.map fun m => indent m.render)) ++ "\x7d"

structure ModuleDecl where
  name : String
  classes : List ClassDecl
  aliases : List (String × String)
deriving DecidableEq, Repr

/-- Classes of a module stand in a namespace; those of the nameless one stand free. -/
def ModuleDecl.render (m : ModuleDecl) : String :=
  let classes := "\n".intercalate (m.classes.map ClassDecl.render)
  if m.name.isEmpty then classes
  else "declare namespace " ++ m.name ++ " \x7b\n" ++ classes ++ "\n\x7d"

end AmbientDecls
