import TypeScriptGen.Config.Store
import TypeScriptGen.Yaml.Node

/-!
Reading YAML 1.1: the value of a document. A key that occurs again takes the later value. Anything
malformed has no value; the reader gives no reasons. It is the reader that the command brings along:
it refuses directives and all but the plainest tags. What is proved of loading holds for any reader.
-/

set_option autoImplicit false
set_option relaxedAutoImplicit false

namespace TypeScriptGen.Yaml

/-- Enter a key: an equal key keeps its place and takes the new value. -/
def put (entries : List (Value × Value)) (key v : Value) : List (Value × Value) :=
  if entries.any fun entry => Value.sameKey key entry.1 then
    entries.map fun entry => if Value.sameKey key entry.1 then (entry.1, v) else entry
  else entries ++ [(key, v)]

def dictOf? (entries : List (Value × Value)) : Option Value :=
  if entries.any fun entry => (Value.keyFault? entry.1).isSome then none
  else some (.dict (entries.foldl (fun done entry => put done entry.1 entry.2) []))

/-- The entries that others are merged from, and those that a mapping has itself. -/
structure Entries where
  merged : List (Value × Value)
  own : List (Value × Value)

/-- All entries; the own ones come last. -/
def Entries.all (e : Entries) : List (Value × Value) := e.merged ++ e.own

namespace Node

mutual

def toValue? : Node → Option Value
  | .scalar kind text => kind.read? text
  | .list items => (itemValues? items).map .list
  | .mapping entries => (entryValues? entries).bind fun e => dictOf? e.all

def itemValues? : List Node → Option (List Value)
  | [] => some []
  | n :: rest => do
    let v ← toValue? n
    return v :: (← itemValues? rest)

/-- The values of entries. The key of a default is its own text. -/
def entryValues? : List (Node × Node) → Option Entries
  | [] => some ⟨[], []⟩
  | (key, n) :: rest => do
    let e ← entryValues? rest
    match key with
    | .scalar .mergeMark _ => return { e with merged := (← mergedValues? n) ++ e.merged }
    | .scalar .defaultMark text => return { e with own := (.text text, ← toValue? n) :: e.own }
    | _ => return { e with own := (← toValue? key, ← toValue? n) :: e.own }

/-- The entries of a mapping that is merged, or of several, of which the first wins. -/
def mergedValues? : Node → Option (List (Value × Value))
  | .scalar _ _ => none
  | .mapping entries => (entryValues? entries).map Entries.all
  | .list items => (mergedItems? items).map fun all => all.reverse.flatten

def mergedItems? : List Node → Option (List (List (Value × Value)))
  | [] => some []
  | .mapping entries :: rest => do
    let e ← entryValues? entries
    return e.all :: (← mergedItems? rest)
  | _ => none

end

end Node

def isAllowed (c : Char) : Bool :=
  let n := c.toNat
  n == 0x09 || n == 0x0A || n == 0x0D || (0x20 ≤ n && n ≤ 0x7E) || n == 0x85 ||
    (0xA0 ≤ n && n ≤ 0xFFFD) || 0x10000 ≤ n

/-- The value of a document, if it is well formed; an empty document has none. -/
def read? (s : String) : Option Value := do
  if !s.toList.all isAllowed then none
  else (← Node.ofTokens? (← Token.scan? s.toList)).toValue?

def readContent (content : FileContent) : Except Unreadable Value := do
  let text ← (Config.decode content).mapError .refused
  match read? text with
  | some v => return v
  | none => throw (.refused "malformed document")

end TypeScriptGen.Yaml
