import TypeScriptGen.Yaml.BlockText
import TypeScriptGen.Yaml.Plain
import TypeScriptGen.Yaml.Quoted

/-!
The signs and scalars of a document in a row, with marks where blocks start and end. Indentation
tells the blocks. A scalar or flow collection turns out to be a key only when a colon follows it, so
a key may be pending at every level of flow collections; it has to stand on one line with its colon,
at most 1024 characters away. Only spaces separate, and where a tab is left nothing can start.
-/

set_option autoImplicit false
set_option relaxedAutoImplicit false

namespace TypeScriptGen.Yaml

/-- A sign, scalar or mark. -/
inductive Token where
  | documentStart
  | documentEnd
  | blockList
  | blockMapping
  | blockEnd
  | openList
  | closeList
  | openMapping
  | closeMapping
  | comma
  | item
  | key
  | value
  | anchor (name : String)
  | reference (name : String)
  | tag (name : String)
  | scalar (text : String) (plain : Bool)
deriving DecidableEq, Repr

/-- What may turn out to be a key: the number of tokens in front of it and its place. It is required
to be one if it stands at the indentation of the block. -/
structure PendingKey where
  before : Nat
  index : Nat
  line : Nat
  column : Nat
  required : Bool

/-- The distance at which a colon still makes a key. -/
def PendingKey.reach : Nat := 1024

/-- A colon at this place comes too late. -/
def PendingKey.isStale (p : Cursor) (k : PendingKey) : Bool :=
  k.line != p.line || PendingKey.reach < p.index - k.index

/-- A document that has been read up to a place. -/
structure Scan where
  cursor : Cursor
  tokens : Array Token
  indents : List Nat
  keyAllowed : Bool
  pending : Option PendingKey
  /-- The pending keys outside each open flow collection, innermost first. -/
  outer : List (Option PendingKey)

namespace Scan

def start (cs : List Char) : Scan := ⟨.start cs, #[], [], true, none, []⟩

def inFlow (s : Scan) : Bool := !s.outer.isEmpty

def add (s : Scan) (t : Token) : Scan := { s with tokens := s.tokens.push t }

def goTo (s : Scan) (rest : List Char) : Scan := { s with cursor := s.cursor.goTo rest }

def passSign (s : Scan) (count : Nat) (t : Token) : Scan :=
  (s.goTo (s.cursor.rest.drop count)).add t

/-- Pass what separates tokens. Outside flow collections a key may start in a new line. -/
def passGap (s : Scan) : Scan :=
  match skipGap false s.cursor.rest with
  | (rest, lineEnded) =>
    { s.goTo rest with keyAllowed := s.keyAllowed || (lineEnded && !s.inFlow) }

/-- Drop the pending keys whose colon would come too late; a required key must not be dropped. -/
def dropStale? (s : Scan) : Option Scan :=
  let stale := PendingKey.isStale s.cursor
  if (s.pending :: s.outer).any (Option.any fun k => stale k && k.required) then none
  else
    some { s with
      pending := s.pending.filter (!stale ·)
      outer := s.outer.map (Option.filter (!stale ·)) }

/-- Close the innermost blocks whose columns say so; a flow collection closes none. -/
def closeBlocks (s : Scan) (closes : Nat → Bool) : Scan :=
  if s.inFlow then s
  else { s with
    indents := s.indents.dropWhile closes
    tokens := s.tokens ++ (s.indents.takeWhile closes).toArray.map fun _ => Token.blockEnd }

def dropKey? (s : Scan) : Option Scan :=
  if s.pending.any PendingKey.required then none else some { s with pending := none }

def saveKey? (s : Scan) : Option Scan :=
  if !s.keyAllowed then some s
  else
    let p := s.cursor
    let required := !s.inFlow && s.indents.head? == some p.column
    s.dropKey?.map fun s =>
      { s with pending := some ⟨s.tokens.size, p.index, p.line, p.column, required⟩ }

def isDeeper (s : Scan) (column : Nat) : Bool := s.indents.head?.all (· < column)

/-- A sign of a block: it opens a new one if it stands further in. It may only stand where a key
may. -/
def enterBlock? (s : Scan) (t : Token) : Option Scan :=
  if s.inFlow then some s
  else if !s.keyAllowed then none
  else if s.isDeeper s.cursor.column then
    some ({ s with indents := s.cursor.column :: s.indents }.add t)
  else some s

def marker? (s : Scan) (t : Token) : Option Scan := do
  let s ← (s.closeBlocks fun _ => true).dropKey?
  return { s with keyAllowed := false }.passSign 3 t

def openFlow? (s : Scan) (t : Token) : Option Scan := do
  let s ← s.saveKey?
  return { s with keyAllowed := true, pending := none, outer := s.pending :: s.outer }.passSign 1 t

/-- The end of a flow collection; one has to be open. -/
def closeFlow? (s : Scan) (t : Token) : Option Scan :=
  match s.outer with
  | [] => none
  | pending :: outer => some ({ s with keyAllowed := false, pending, outer }.passSign 1 t)

def comma? (s : Scan) : Option Scan := do
  let s ← s.dropKey?
  return { s with keyAllowed := true }.passSign 1 .comma

def item? (s : Scan) : Option Scan := do
  let s ← (← s.enterBlock? .blockList).dropKey?
  return { s with keyAllowed := true }.passSign 1 .item

def key? (s : Scan) : Option Scan := do
  let s ← (← s.enterBlock? .blockMapping).dropKey?
  return { s with keyAllowed := !s.inFlow }.passSign 1 .key

/-- The pending key is one: it gets its mark, and so does the block that it opens. -/
def confirmKey (s : Scan) (k : PendingKey) : Scan :=
  let opens := !s.inFlow && s.isDeeper k.column
  let marks := if opens then #[Token.blockMapping, Token.key] else #[Token.key]
  { s with
    tokens := s.tokens.take k.before ++ marks ++ s.tokens.drop k.before
    indents := if opens then k.column :: s.indents else s.indents
    keyAllowed := false
    pending := none }

def value? (s : Scan) : Option Scan :=
  match s.pending with
  | some k => some ((s.confirmKey k).passSign 1 .value)
  | none => do
    let s ← s.enterBlock? .blockMapping
    return { s with keyAllowed := !s.inFlow }.passSign 1 .value

def isNameChar (c : Char) : Bool := c.isAlphanum || c == '_' || c == '-'

def mayFollowName (c : Char) : Bool :=
  ['?', ':', ',', ']', '\x7d', '%', '@', '\x60'].contains c

def name? (s : Scan) (make : String → Token) : Option Scan := do
  let s ← s.saveKey?
  let text := s.cursor.rest.drop 1
  let name := text.takeWhile isNameChar
  let tail := text.dropWhile isNameChar
  if name.isEmpty || !(atGap tail || tail.head?.any mayFollowName) then none
  else return ({ s with keyAllowed := false }.goTo tail).add (make (String.ofList name))

/-- A tag, up to the next space or line end. -/
def tag? (s : Scan) : Option Scan := do
  let s ← s.saveKey?
  let isInside := fun c => !(c == ' ' || isBreak c)
  let name := String.ofList (s.cursor.rest.takeWhile isInside)
  return ({ s with keyAllowed := false }.goTo (s.cursor.rest.dropWhile isInside)).add (.tag name)

/-- The least column of what stands inside the innermost block. -/
def innerColumn (s : Scan) : Nat :=
  match s.indents with
  | [] => 0
  | column :: _ => column + 1

/-- A block scalar. It always stands further in than the margin. -/
def blockText? (s : Scan) (folded : Bool) : Option Scan := do
  let s ← s.dropKey?
  let (text, rest) ← readBlockText? folded (max 1 s.innerColumn) (s.cursor.rest.drop 1)
  return ({ s with keyAllowed := true }.goTo rest).add (.scalar (String.ofList text) false)

def quoted? (s : Scan) (quote : Char) : Option Scan := do
  let s ← s.saveKey?
  let (text, rest) ← readQuoted? quote (s.cursor.rest.drop 1)
  return ({ s with keyAllowed := false }.goTo rest).add (.scalar (String.ofList text) false)

def plain? (s : Scan) : Option Scan := do
  let s ← s.saveKey?
  let found := readPlain s.inFlow s.innerColumn s.cursor.rest
  return ({ s with keyAllowed := found.lineEnded }.goTo found.rest).add
    (.scalar (String.ofList found.text) true)

def token? (s : Scan) (c : Char) (rest : List Char) : Option Scan :=
  if s.cursor.column == 0 && atMarkerOf '-' (c :: rest) then s.marker? .documentStart
  else if s.cursor.column == 0 && atMarkerOf '.' (c :: rest) then s.marker? .documentEnd
  else if c == '[' then s.openFlow? .openList
  else if c == '\x7b' then s.openFlow? .openMapping
  else if c == ']' then s.closeFlow? .closeList
  else if c == '\x7d' then s.closeFlow? .closeMapping
  else if c == ',' then s.comma?
  else if c == '-' && atGap rest then s.item?
  else if c == '?' && (s.inFlow || atGap rest) then s.key?
  else if c == ':' && (s.inFlow || atGap rest) then s.value?
  else if c == '*' then s.name? .reference
  else if c == '&' then s.name? .anchor
  else if c == '!' then s.tag?
  else if (c == '|' || c == '>') && !s.inFlow then s.blockText? (c == '>')
  else if c == Text.singleQuote || c == Text.doubleQuote then s.quoted? c
  else if startsPlain s.inFlow c rest then s.plain?
  else none

/-- The tokens up to the end. The fuel bounds the tokens. -/
def finish? : (fuel : Nat) → Scan → Option (Array Token)
  | 0, _ => none
  | fuel + 1, s => do
    let s ← s.passGap.dropStale?
    let s := s.closeBlocks (s.cursor.column < ·)
    match s.cursor.rest with
    | [] => return (← (s.closeBlocks fun _ => true).dropKey?).tokens
    | c :: rest => finish? fuel (← s.token? c rest)

end Scan

def Token.scan? (cs : List Char) : Option (List Token) :=
  (Scan.finish? (cs.length + 1) (.start cs)).map Array.toList

end TypeScriptGen.Yaml
