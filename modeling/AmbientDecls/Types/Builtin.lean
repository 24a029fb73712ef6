/-! The types that documentation may name without documenting them, and what they are called in
declarations. -/

namespace AmbientDecls

def builtinTypes : List (String × String) :=
  [("*", "any"), ("any", "any"), ("Arguments", "any"), ("Array", "any[]"),
    ("boolean", "boolean"), ("Boolean", "boolean"), ("CSSStyleSheet", "CSSStyleSheet"),
    ("CSSStyleRule", "CSSStyleRule"), ("Date", "Date"), ("Error", "Error"), ("Event", "Event"),
    ("Function", "Function"), ("HtmlElement", "HTMLElement"), ("HTMLElement", "HTMLElement"),
    ("null", "void"), ("number", "number"), ("Number", "number"), ("NodeList", "NodeList"),
    ("Mixed", "any"), ("Object", "any"), ("RegExp", "RegExp"), ("string", "string"),
    ("String", "string"), ("Text", "Text"), ("TextNode", "Text"), ("undefined", "void"),
    ("void", "void"), ("XMLElement", "any"), ("Window", "Window")]

def builtin? (name : String) : Option String := builtinTypes.lookup name

def unknownType : String := "any"

def functionType : String := "Function"

end AmbientDecls
