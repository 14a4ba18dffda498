import TypeScriptGen.Yaml.Scalar
import TypeScriptGen.Yaml.Token

/-!
A document as a tree: scalars with their kinds, lists and mappings. A node may be named by an anchor
and meant again by that name behind it, and a tag may give its kind.
-/

set_option autoImplicit false
set_option relaxedAutoImplicit false

namespace TypeScriptGen.Yaml

inductive Node where
  | scalar (kind : Kind) (text : String)
  | list (items : List Node)
  | mapping (entries : List (Node × Node))

inductive Tag where
  /-- The kind that the spelling shows, also in quotes. -/
  | bySpelling
  | scalar (kind : Kind)
  | list
  | mapping
deriving DecidableEq, Repr

def Tag.named : List (String × Tag) :=
  [("!", .bySpelling), ("!!null", .scalar .null), ("!!bool", .scalar .bool),
    ("!!int", .scalar .int), ("!!float", .scalar .float), ("!!str", .scalar .text),
    ("!!timestamp", .scalar .timestamp), ("!!seq", .list), ("!!map", .mapping)]

namespace Node

def empty : Node := .scalar .null ""

def ofScalar? (tag : Option Tag) (text : String) (plain : Bool) : Option Node :=
  match tag with
  | none => some (.scalar (if plain then .ofPlain text else .text) text)
  | some .bySpelling => some (.scalar (.ofPlain text) text)
  | some (.scalar kind) => some (.scalar kind text)
  | some _ => none

def ofItems? (tag : Option Tag) (items : List Node) : Option Node :=
  if tag.all fun t => t == .bySpelling || t == .list then some (.list items) else none

def ofEntries? (tag : Option Tag) (entries : List (Node × Node)) : Option Node :=
  if tag.all fun t => t == .bySpelling || t == .mapping then some (.mapping entries) else none

/-- The tokens that are left, and the nodes that have names. -/
structure Reading where
  tokens : List Token
  named : List (String × Node)

abbrev Step := StateT Reading Option

namespace Step

def next : Step (Option Token) := do return (← get).tokens.head?

def skip : Step Unit := modify fun r => { r with tokens := r.tokens.drop 1 }

def skipIf (t : Token) : Step Bool := do
  if (← next) == some t then
    skip
    return true
  else return false

def need (t : Token) : Step Unit := do
  if !(← skipIf t) then failure

def isAt (ts : List Token) : Step Bool := do return (← next).any ts.contains

def skipTag : Step (Option Tag) := do
  match ← next with
  | some (.tag name) =>
    skip
    match Tag.named.find? (·.1 == name) with
    | some (_, tag) => return some tag
    | none => failure
  | _ => return none

def skipAnchor : Step (Option String) := do
  match ← next with
  | some (.anchor name) =>
    skip
    return some name
  | _ => return none

def skipMarks : Step (Option String × Option Tag) := do
  let first ← skipAnchor
  let tag ← skipTag
  let anchor ← match first with
    | some name => pure (some name)
    | none => skipAnchor
  return (anchor, tag)

def name (anchor : Option String) (n : Node) : Step Unit := do
  match anchor with
  | none => return
  | some name =>
    if (← get).named.any (·.1 == name) then failure
    else modify fun r => { r with named := (name, n) :: r.named }

def named (name : String) : Step Node := do
  match (← get).named.find? (·.1 == name) with
  | some (_, n) => return n
  | none => failure

/-- A part that is a node, unless one of the given tokens comes next. -/
def orEmpty (stops : List Token) (step : Step Node) : Step Node := do
  if ← isAt stops then return empty else step

end Step

mutual

/-- The node here. Inside a flow collection there are no blocks; the value of an entry may be a list
whose items stand at the indentation of the mapping. The fuel bounds the nodes and their parts. -/
def nodeFrom : (fuel : Nat) → (inBlock inEntry : Bool) → Step Node
  | 0, _, _ => failure
  | fuel + 1, inBlock, inEntry => do
    match ← Step.next with
    | some (.reference name) =>
      Step.skip
      Step.named name
    | _ =>
      let (anchor, tag) ← Step.skipMarks
      let n ← contentFrom fuel inBlock inEntry (anchor.isSome || tag.isSome) tag
      Step.name anchor n
      return n

def contentFrom : (fuel : Nat) → (inBlock inEntry marked : Bool) → Option Tag → Step Node
  | 0, _, _, _, _ => failure
  | fuel + 1, inBlock, inEntry, marked, tag => do
    match ← Step.next with
    | some (.scalar text plain) =>
      Step.skip
      StateT.lift (ofScalar? tag text plain)
    | some .openList =>
      Step.skip
      StateT.lift (ofItems? tag (← flowItems fuel true))
    | some .openMapping =>
      Step.skip
      StateT.lift (ofEntries? tag (← flowEntries fuel true))
    | some t =>
      if t == .item && inEntry then
        StateT.lift (ofItems? tag (← blockItems fuel [.item, .key, .value, .blockEnd]))
      else if t == .blockList && inBlock then
        Step.skip
        let items ← blockItems fuel [.item, .blockEnd]
        Step.need .blockEnd
        StateT.lift (ofItems? tag items)
      else if t == .blockMapping && inBlock then
        Step.skip
        let entries ← blockEntries fuel
        Step.need .blockEnd
        StateT.lift (ofEntries? tag entries)
      else if marked then StateT.lift (ofScalar? tag "" true)
      else failure
    | none => if marked then StateT.lift (ofScalar? tag "" true) else failure

/-- The items of a block list; one without content comes before the given tokens. -/
def blockItems : (fuel : Nat) → (stops : List Token) → Step (List Node)
  | 0, _ => failure
  | fuel + 1, stops => do
    if ← Step.skipIf .item then
      let n ← Step.orEmpty stops (nodeFrom fuel true false)
      return n :: (← blockItems fuel stops)
    else return []

def blockEntries : (fuel : Nat) → Step (List (Node × Node))
  | 0 => failure
  | fuel + 1 => do
    if ← Step.skipIf .key then
      let entry ← entryFrom fuel true [.key, .blockEnd]
      return entry :: (← blockEntries fuel)
    else return []

/-- An entry behind the mark of its key. Key and value may be missing before the given tokens. -/
def entryFrom : (fuel : Nat) → (inBlock : Bool) → (stops : List Token) → Step (Node × Node)
  | 0, _, _ => failure
  | fuel + 1, inBlock, stops => do
    let part := Step.orEmpty (.value :: stops) (nodeFrom fuel inBlock inBlock)
    let key ← part
    if ← Step.skipIf .value then return (key, ← part) else return (key, empty)

/-- The items of a flow list up to its end, with commas between them; an entry is a mapping of its
own. -/
def flowItems : (fuel : Nat) → (first : Bool) → Step (List Node)
  | 0, _ => failure
  | fuel + 1, first => do
    if ← Step.skipIf .closeList then return []
    if !first then Step.need .comma
    if ← Step.skipIf .closeList then return []
    let n ←
      if ← Step.skipIf .key then
        let entry ← entryFrom fuel false [.comma, .closeList]
        pure (.mapping [entry])
      else nodeFrom fuel false false
    return n :: (← flowItems fuel false)

/-- The entries of a flow mapping up to its end, with commas between them; a value may be
missing. -/
def flowEntries : (fuel : Nat) → (first : Bool) → Step (List (Node × Node))
  | 0, _ => failure
  | fuel + 1, first => do
    if ← Step.skipIf .closeMapping then return []
    if !first then Step.need .comma
    if ← Step.skipIf .closeMapping then return []
    let entry ←
      if ← Step.skipIf .key then entryFrom fuel false [.comma, .closeMapping]
      else
        let key ← nodeFrom fuel false false
        pure (key, empty)
    return entry :: (← flowEntries fuel false)

end

/-- The node of a document: nothing, or one node behind a start and before any number of ends. -/
def document (fuel : Nat) : Step Node := do
  if (← get).tokens.isEmpty then return empty
  let started ← Step.skipIf .documentStart
  if started && (← get).tokens.head?.all [Token.documentStart, .documentEnd].contains then
    return empty
  nodeFrom fuel true false

def ofTokens? (tokens : List Token) : Option Node := do
  let (n, r) ← (document (4 * tokens.length + 4)).run ⟨tokens, []⟩
  if (r.tokens.dropWhile (· == .documentEnd)).isEmpty then return n else none

end Node

end TypeScriptGen.Yaml
