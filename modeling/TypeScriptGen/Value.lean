import TypeScriptGen.Fault
import TypeScriptGen.Layout
import TypeScriptGen.Number.Exact
import TypeScriptGen.Text.Blank

/-!
Values: what a caller can hand to a builder or a configuration, and what any object of the library
looks like when it is inspected. Most text positions of a builder take a value and use its text.
-/

set_option autoImplicit false
set_option relaxedAutoImplicit false

namespace TypeScriptGen

inductive Value where
  | none
  | bool (b : Bool)
  | int (n : Int)
  | float (x : Binary64)
  | text (s : String)
  | tuple (items : List Value)
  | list (items : List Value)
  | dict (entries : List (Value × Value))
  /-- A collection of the type where it occurs inside itself, with its items left out. -/
  | again (type : String)
  | member (type name : String) (content : String)
  /-- An object that is made of its fields, with the facts derived from them and its own text if it
  has one; a fact or the text may fail to be given. -/
  | record (type : String) (fields : List (String × Value))
      (derived : List (String × Except Fault Value)) (shown : Option (Except Fault String))
  /-- An object with an identity of its own: what owns its features in messages, the features that
  can be inspected, its text and its quoted form. -/
  | entity (type owner : String) (features : List (String × Except Fault Value))
      (shown : Except Fault String) (quotedForm : String)

/-- What a caller supplied where an `α` is expected: either that, or some other value, which is
kept as it is until somebody uses it. -/
inductive Supplied (α : Type) where
  | good (a : α)
  | stray (v : Value)

instance : Coe String Value := ⟨.text⟩

instance : Inhabited Value := ⟨.none⟩

namespace Value

def ownerOf (type : String) : String := "'" ++ type ++ "' object"

def object (type : String) (features : List (String × Except Fault Value)) : Value :=
  .entity type (ownerOf type) features (.ok ("<" ++ type ++ ">")) ("<" ++ type ++ ">")

def typeName : Value → String
  | .none => "NoneType"
  | .bool _ => "bool"
  | .int _ => "int"
  | .float _ => "float"
  | .text _ => "str"
  | .tuple _ => "tuple"
  | .list _ => "list"
  | .dict _ => "dict"
  | .again type => type
  | .member type _ _ => type
  | .record type _ _ _ => type
  | .entity type _ _ _ _ => type

/-- The name of a value's type without the module that may stand in front of it. -/
def className (v : Value) : String :=
  String.ofList (v.typeName.toList.reverse.takeWhile (· != '.')).reverse

def owner : Value → String
  | .entity _ owner _ _ _ => owner
  | v => ownerOf v.typeName

/-- Absent, false, zero and empty values do not hold; all others do. -/
def holds : Value → Bool
  | .none => false
  | .bool b => b
  | .int n => n != 0
  | .float x => !x.isZero
  | .text s => !s.isEmpty
  | .tuple items => !items.isEmpty
  | .list items => !items.isEmpty
  | .dict entries => !entries.isEmpty
  | .again _ => true
  | .member _ _ _ => true
  | .record _ _ _ _ => true
  | .entity _ _ _ _ _ => true

def isNone : Value → Bool
  | .none => true
  | _ => false

def boolText (b : Bool) : String := if b then "True" else "False"

/-- The quoted form of a collection inside itself. -/
def quotedAgain (type : String) : String :=
  if type == "dict" then "\x7b...\x7d" else if type == "tuple" then "(...)" else "[...]"

mutual

def quoted : Value → String
  | .none => "None"
  | .bool b => boolText b
  | .int n => toString n
  | .float x => x.text
  | .text s => Text.quoted s
  | .tuple [v] => "(" ++ quoted v ++ ",)"
  | .tuple items => "(" ++ ", ".intercalate (quotedItems items) ++ ")"
  | .list items => "[" ++ ", ".intercalate (quotedItems items) ++ "]"
  | .dict entries => "\x7b" ++ ", ".intercalate (quotedEntries entries) ++ "\x7d"
  | .again type => quotedAgain type
  | .member type name content =>
    "<" ++ type ++ "." ++ name ++ ": " ++ Text.quoted content ++ ">"
  | .record type fields _ _ => type ++ "(" ++ ", ".intercalate (quotedFields fields) ++ ")"
  | .entity _ _ _ _ form => form

def quotedItems : List Value → List String
  | [] => []
  | v :: rest => quoted v :: quotedItems rest

def quotedEntries : List (Value × Value) → List String
  | [] => []
  | (k, v) :: rest => (quoted k ++ ": " ++ quoted v) :: quotedEntries rest

def quotedFields : List (String × Value) → List String
  | [] => []
  | (name, v) :: rest => (name ++ "=" ++ quoted v) :: quotedFields rest

end

/-- The text of a value, as every text position uses it. A text is its own text, an object may have
one of its own, and all else is shown in quoted form. -/
def toText : Value → Except Fault String
  | .text s => .ok s
  | .member type name _ => .ok (type ++ "." ++ name)
  | .record _ _ _ (some shown) => shown
  | .entity _ _ _ shown _ => shown
  | v => .ok v.quoted

def toTexts : List Value → Except Fault (List String)
  | [] => .ok []
  | v :: rest => do
    let s ← v.toText
    let more ← toTexts rest
    return s :: more

def commaText (vs : List Value) : Except Fault String := do
  return ", ".intercalate (← toTexts vs)

/-- Nothing was given, or the text is blank. -/
def isBlank (v : Value) : Except Fault Bool :=
  if v.isNone then .ok true else v.toText.map Text.isBlank

/-- The text of a value that must not be blank, with the name of an argument if there is one. -/
def requireTextFor (v : Value) (message : String) (argument : Option String) :
    Except Fault String := do
  if ← v.isBlank then throw (.precondition message argument)
  v.toText

def requireText (v : Value) (message argument : String) : Except Fault String :=
  v.requireTextFor message (some argument)

def optionalText (v : Value) : Except Fault (Option String) :=
  if v.isNone then .ok Option.none else v.toText.map Option.some

/-- The text that an object made of one slot gives as its own: the slot itself, which has to be a
text. -/
def ownText : Value → Except Fault String
  | .text s => .ok s
  | v => .error (.mistyped (.ownText v.typeName))

/-- The parts of a whole number: it is its own real part and numerator. -/
def wholePart? (n : Int) : String → Option Value
  | "real" => some (.int n)
  | "numerator" => some (.int n)
  | "imag" => some (.int 0)
  | "denominator" => some (.int 1)
  | _ => Option.none

def realPart? (x : Binary64) : String → Option Value
  | "real" => some (.float x)
  | "imag" => some (.float (Binary64.ofDecimal false 0 0))
  | _ => Option.none

/-- A feature of an object: a field, a derived fact, a part of a number, or what every member of an
enumeration has. -/
def feature? : Value → String → Option (Except Fault Value)
  | .record _ fields derived _, name =>
    match fields.find? (·.1 == name) with
    | some field => some (.ok field.2)
    | Option.none => (derived.find? (·.1 == name)).map Prod.snd
  | .entity _ _ features _ _, name => (features.find? (·.1 == name)).map Prod.snd
  | .member type name content, wanted =>
    if wanted == "name" then some (.ok (.text name))
    else if wanted == "value" || (wanted == "keyword" && type == "Accessibility") then
      some (.ok (.text content))
    else if wanted == "rank" && type == "ValidationLevel" then
      some (.ok (.int (if content == "none" then 0 else 1)))
    else Option.none
  | .int n, name => (wholePart? n name).map .ok
  | .bool b, name => (wholePart? (if b then 1 else 0) name).map .ok
  | .float x, name => (realPart? x name).map .ok
  | _, _ => Option.none

/-- What the library asks objects of a type to do. -/
def abilities : String → List String
  | "str" =>
    ["startswith", "replace", "strip", "rstrip", "lower", "upper", "split", "join", "format"]
  | "dict" => ["get", "items"]
  | "TypeBuilder" => ["emit"]
  | "DprintFormatter" => ["format", "try_format", "is_available"]
  | "PrettierFormatter" => ["format", "try_format", "is_available"]
  | "ChainFormatter" => ["format", "is_available"]
  | "TscValidator" => ["validate", "is_available"]
  | "TscEnvironment" => ["is_available", "get_check_command"]
  | _ => []

def has (v : Value) (name : String) : Bool :=
  (v.feature? name).isSome || (abilities v.typeName).contains name

def fieldNames : Value → List String
  | .record _ fields _ _ => fields.map Prod.fst
  | _ => []

def lack (v : Value) (name : String) : Fault := .lacks v.owner name

/-- The fault of using a value as an object whose features are touched in the given order: the first
one that it lacks. -/
def lacking (v : Value) (touched : List String) : Fault :=
  v.lack ((touched.find? fun name => !v.has name).getD "")

def demand (v : Value) (name : String) : Except Fault Value :=
  (v.feature? name).getD (.error (v.lack name))

/-- The text itself; any other value fails for want of the text operation `operation`. -/
def asText (v : Value) (operation : String) : Except Fault String :=
  match v with
  | .text s => .ok s
  | v => .error (v.lack operation)

/-- The items of a sequence: those of a tuple or list, the characters of a text, the keys of a
dictionary. -/
def items? : Value → Option (List Value)
  | .tuple items => some items
  | .list items => some items
  | .text s => some (s.toList.map fun c => .text (String.ofList [c]))
  | .dict entries => some (entries.map Prod.fst)
  | _ => Option.none

def iterate (v : Value) : Except Fault (List Value) :=
  match v.items? with
  | some items => .ok items
  | Option.none => .error (.mistyped (.iteration v.typeName))

def length (v : Value) : Except Fault Nat :=
  match v.items? with
  | some items => .ok items.length
  | Option.none => .error (.mistyped (.length v.typeName))

def isText (s : String) : Value → Bool
  | .text t => s == t
  | _ => false

def hasChar (v : Value) (c : Char) : Except Fault Bool :=
  match v.items? with
  | some items => .ok (items.any (isText (String.ofList [c])))
  | Option.none => .error (.mistyped (.membership v.typeName))

def unpackPair (v : Value) : Except Fault (Value × Value) :=
  match v.items? with
  | Option.none => .error (.mistyped (.unpacking v.typeName))
  | some [a, b] => .ok (a, b)
  | some items =>
    .error (.misvalued (if items.length < 2 then .tooFew items.length else .tooMany))

/-- A whole number or a truth value as an integer. -/
def toInt? : Value → Option Int
  | .int n => some n
  | .bool b => some (if b then 1 else 0)
  | _ => Option.none

/-- A number or a truth value as a double; integers beyond the range of doubles have none. -/
def toDouble? : Value → Option Binary64
  | .float x => some x
  | v => v.toInt?.bind Binary64.ofInt?

/-- A number or a truth value as an exact quotient, an infinity or not-a-number. -/
def toExact? : Value → Option Exact
  | .float x => some (.ofBinary64 x)
  | v => v.toInt?.map fun n => .finite n 1

/-- Equal as keys: numbers by value, whatever their type. -/
def sameKey (a b : Value) : Bool :=
  match a, b with
  | .none, .none => true
  | .text s, .text t => s == t
  | a, b =>
    match a.toInt?, b.toInt? with
    | some m, some n => m == n
    | _, _ =>
      match a.toDouble?, b.toDouble? with
      | some x, some y => x.numEq y
      | _, _ => false

def entry? (entries : List (Value × Value)) (key : Value) : Option Value :=
  (entries.find? fun entry => sameKey key entry.1).map Prod.snd

def lookup? (key : String) : Value → Option Value
  | .dict entries => entry? entries (.text key)
  | _ => Option.none

/-- The text that data state; data of another kind state the empty one. -/
def textOf : Value → String
  | .text s => s
  | _ => ""

/-- The items that data list; data of another kind list none. -/
def listOf : Value → List Value
  | .list items => items
  | _ => []

def fieldOf (v : Value) (name : String) : Value := (v.lookup? name).getD .none

def itemAt (sequence : String) (items : List Value) (key : Value) : Except Fault Value :=
  match key.toInt? with
  | Option.none => .error (.mistyped (.itemKey sequence key.typeName))
  | some n =>
    match items[n.toNat]? with
    | some item => .ok item
    | Option.none => .error (.beyondEnd (if sequence == "str" then "string" else sequence))

/-- The item of a value under a key that is a text or a position from the front. -/
def item (v key : Value) : Except Fault Value :=
  match v with
  | .dict entries =>
    match entry? entries key with
    | some found => .ok found
    | Option.none => .error (.keyMissing key.quoted)
  | v =>
    match v.items? with
    | some items => itemAt v.typeName items key
    | Option.none => .error (.mistyped (.subscript v.typeName))

mutual

/-- Why a value cannot be a key, if it cannot: lists and dictionaries cannot, nor can what is made
of one. -/
def keyFault? : Value → Option Fault
  | .list _ => some (.mistyped (.hash "list"))
  | .dict _ => some (.mistyped (.hash "dict"))
  | .tuple items => itemFault? items
  | .again type => some (.mistyped (.hash type))
  | .record _ fields _ _ => fieldFault? fields
  | _ => Option.none

def itemFault? : List Value → Option Fault
  | [] => Option.none
  | v :: rest =>
    match keyFault? v with
    | some fault => some fault
    | Option.none => itemFault? rest

def fieldFault? : List (String × Value) → Option Fault
  | [] => Option.none
  | (_, v) :: rest =>
    match keyFault? v with
    | some fault => some fault
    | Option.none => fieldFault? rest

end

def ofLayout {α : Type} : Except LayoutFlaw α → Except Fault α
  | .ok a => .ok a
  | .error .room => .error .exhausted
  | .error flaw => .error (.misvalued (.layout flaw))

def formatText (s layout : String) : Except Fault String :=
  ofLayout (do (← Layout.read "str" (some 's') '<' layout).text s)

def formatReal (x : Binary64) (layout : String) : Except Fault String :=
  ofLayout (do (← Layout.read "float" Option.none '>' layout).real "float" x)

/-- A whole number of a type in a layout. Codes of other numbers convert it first. -/
def formatWhole (type : String) (n : Int) (layout : String) : Except Fault String := do
  let l ← ofLayout (Layout.read type (some 'd') '>' layout)
  let digits (base size : Nat) (lead : String) (large : Bool) : Except Fault String := do
    ofLayout l.checkWhole
    return l.wholeToBase n base size lead.toList large
  match l.code with
  | some 'd' => digits 10 3 "" false
  | some 'n' => digits 10 3 "" false
  | some 'b' => digits 2 4 "0b" false
  | some 'o' => digits 8 4 "0o" false
  | some 'x' => digits 16 4 "0x" false
  | some 'X' => digits 16 4 "0x" true
  | some 'c' =>
    ofLayout l.checkWhole
    if l.sign.isSome then throw (.misvalued (.layout .characterSign))
    if l.alternate then throw (.misvalued (.layout .characterAlternate))
    if Nat.pow 2 63 ≤ n || n < -(Nat.pow 2 63) then
      throw (.overflow "Python int too large to convert to C long")
    if n < 0 || 0x110000 ≤ n then throw (.overflow "%c arg not in range(0x110000)")
    return l.number false [] [] [Char.ofNat n.toNat] 3
  | some c =>
    if "eEfFgG%".toList.contains c then
      match Binary64.ofInt? n with
      | some x => ofLayout (l.real type x)
      | Option.none => throw (.overflow "int too large to convert to float")
    else throw (.misvalued (.layout (.unknownCode c type)))
  | Option.none => return toString n

/-- A value in a layout. Without a layout it is its text; with one it has to be a text, a number or
a member of an enumeration. -/
def format (v : Value) (layout : String) : Except Fault String :=
  if layout.isEmpty then v.toText
  else match v with
    | .text s => formatText s layout
    | .member type name _ => formatText (type ++ "." ++ name) layout
    | .int n => formatWhole "int" n layout
    | .bool b => formatWhole "bool" (if b then 1 else 0) layout
    | .float x => formatReal x layout
    | v => .error (.mistyped (.formatting v.typeName))

def texts (ss : List String) : Value := .tuple (ss.map .text)

def dictOf (fields : List (String × Value)) : Value :=
  .dict (fields.map fun (name, v) => (.text name, v))

def ofOption : Option String → Value
  | Option.none => .none
  | some s => .text s

end Value

namespace Supplied

def toValue {α : Type} (describe : α → Value) : Supplied α → Value
  | .good a => describe a
  | .stray v => v

/-- What was expected, or the fault of touching the features of something else. -/
def need {α : Type} (touched : List String) : Supplied α → Except Fault α
  | .good a => .ok a
  | .stray v => .error (v.lacking touched)

def present {α : Type} : Supplied α → Option (Supplied α)
  | .stray .none => Option.none
  | s => some s

def optionValue {α : Type} (describe : α → Value) : Option (Supplied α) → Value
  | Option.none => .none
  | some s => s.toValue describe

end Supplied

end TypeScriptGen
