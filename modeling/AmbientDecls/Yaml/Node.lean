import AmbientDecls.Yaml.Token

/-! Documents as trees of scalars, sequences and mappings. Where a value is missing there is an empty scalar. -/

namespace AmbientDecls.Yaml

inductive Node
  | scalar (text : String) (plain : Bool)
  | sequence (items : List Node)
  | mapping (entries : List (Node × Node))

namespace Node

def missing : Node := .scalar "" true

def comes (stops : List Token) : List Token → Bool
  | [] => true
  | t :: _ => stops.contains t

def afterKey : List Token := [.key, .value, .blockEnd]

def refuse {α : Type} : List Token → Except TextFault α
  | .fault f :: _ => throw f
  | _ => throw .malformed

def separated : Bool → List Token → Except TextFault (List Token)
  | true, ts => return ts
  | false, .comma :: ts => return ts
  | false, ts => refuse ts

mutual

/-- A node. Outside brackets blocks count; as a value of a mapping, items without a block of their own
do too. -/
def read : Nat → Bool → Bool → List Token → Except TextFault (Node × List Token)
  | 0, _, _, ts => refuse ts
  | fuel + 1, block, loose, ts =>
    match ts with
    | .scalar text plain :: ts => return (.scalar text plain, ts)
    | .openBracket :: ts => flowItems fuel true [] ts
    | .openBrace :: ts => flowEntries fuel true [] ts
    | .sequenceStart :: rest => if block then blockItems fuel [] rest else refuse ts
    | .mappingStart :: rest => if block then blockEntries fuel [] rest else refuse ts
    | .item :: _ => if loose then looseItems fuel [] ts else refuse ts
    | ts => refuse ts

/-- A node, or a missing one if one of the tokens comes next. -/
def readUnless : Nat → Bool → Bool → List Token → List Token → Except TextFault (Node × List Token)
  | 0, _, _, _, ts => refuse ts
  | fuel + 1, block, loose, stops, ts =>
    if comes stops ts then return (missing, ts) else read fuel block loose ts

def blockItems : Nat → List Node → List Token → Except TextFault (Node × List Token)
  | 0, _, ts => refuse ts
  | _ + 1, done, .blockEnd :: ts => return (.sequence done.reverse, ts)
  | fuel + 1, done, .item :: ts => do
    let (n, ts) ← readUnless fuel true false [.item, .blockEnd] ts
    blockItems fuel (n :: done) ts
  | _, _, ts => refuse ts

def looseItems : Nat → List Node → List Token → Except TextFault (Node × List Token)
  | 0, _, ts => refuse ts
  | fuel + 1, done, .item :: ts => do
    let (n, ts) ← readUnless fuel true false (.item :: afterKey) ts
    looseItems fuel (n :: done) ts
  | _, done, ts => return (.sequence done.reverse, ts)

def blockEntries : Nat → List (Node × Node) → List Token → Except TextFault (Node × List Token)
  | 0, _, ts => refuse ts
  | _ + 1, done, .blockEnd :: ts => return (.mapping done.reverse, ts)
  | fuel + 1, done, .key :: ts => do
    match ← readUnless fuel true true afterKey ts with
    | (k, .value :: ts) =>
      let (v, ts) ← readUnless fuel true true afterKey ts
      blockEntries fuel ((k, v) :: done) ts
    | (k, ts) => blockEntries fuel ((k, missing) :: done) ts
  | _, _, ts => refuse ts

/-- The items between brackets; all but the first follow a comma, and a key opens a mapping with a
single entry. -/
def flowItems : Nat → Bool → List Node → List Token → Except TextFault (Node × List Token)
  | 0, _, _, ts => refuse ts
  | _ + 1, _, done, .closeBracket :: ts => return (.sequence done.reverse, ts)
  | fuel + 1, first, done, ts => do
    match ← separated first ts with
    | .closeBracket :: ts => return (.sequence done.reverse, ts)
    | .key :: ts =>
      match ← readUnless fuel false false [.value, .comma, .closeBracket] ts with
      | (k, .value :: ts) =>
        let (v, ts) ← readUnless fuel false false [.comma, .closeBracket] ts
        flowItems fuel false (.mapping [(k, v)] :: done) ts
      | (k, ts) => flowItems fuel false (.mapping [(k, missing)] :: done) ts
    | ts =>
      let (n, ts) ← read fuel false false ts
      flowItems fuel false (n :: done) ts

/-- The entries between braces; an entry without a key is a key alone. -/
def flowEntries : Nat → Bool → List (Node × Node) → List Token → Except TextFault (Node × List Token)
  | 0, _, _, ts => refuse ts
  | _ + 1, _, done, .closeBrace :: ts => return (.mapping done.reverse, ts)
  | fuel + 1, first, done, ts => do
    match ← separated first ts with
    | .closeBrace :: ts => return (.mapping done.reverse, ts)
    | .key :: ts =>
      match ← readUnless fuel false false [.value, .comma, .closeBrace] ts with
      | (k, .value :: ts) =>
        let (v, ts) ← readUnless fuel false false [.comma, .closeBrace] ts
        flowEntries fuel false ((k, v) :: done) ts
      | (k, ts) => flowEntries fuel false ((k, missing) :: done) ts
    | ts =>
      let (n, ts) ← read fuel false false ts
      flowEntries fuel false ((n, missing) :: done) ts

end

/-- The root of the only document in the tokens; without a document it is missing. -/
def ofTokens (ts : List Token) : Except TextFault Node := do
  let fuel := 4 * ts.length + 4
  let (n, rest) ← match ts with
    | [] => pure (missing, [])
    | .documentStart :: ts => readUnless fuel true false [.documentStart, .documentEnd] ts
    | ts => read fuel true false ts
  match rest.dropWhile (· = .documentEnd) with
  | [] => return n
  | rest => refuse rest

/-- The root of the only document in a text. -/
def ofText (s : List Char) : Except TextFault Node := ofTokens (tokens s)

end Node
end AmbientDecls.Yaml
