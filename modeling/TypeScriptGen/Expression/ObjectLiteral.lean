import TypeScriptGen.Expression.Arrow

/-!
Object literals as expressions. Entries keep the order in which they were added. A few short entries
stand on one line; more than three, a method or a value of several lines put each on its own.
-/

set_option autoImplicit false
set_option relaxedAutoImplicit false

namespace TypeScriptGen

inductive ObjectEntry where
  | property (key value : String)
  | shorthand (key : String)
  | computed (key value : String)
  | spread (source : String)
  | method (name text : String)
deriving DecidableEq, Repr

structure ObjectLiteral where
  entries : List ObjectEntry := []
deriving DecidableEq, Repr

namespace ObjectEntry

def render : ObjectEntry → String
  | .property key value => key ++ ": " ++ value
  | .shorthand key => key
  | .computed key value => "[" ++ key ++ "]: " ++ value
  | .spread source => "..." ++ source
  | .method _ text => text

def value? : ObjectEntry → Option String
  | .property _ value => some value
  | .shorthand _ => Option.none
  | .computed _ value => some value
  | .spread _ => Option.none
  | .method _ text => some text

def key : ObjectEntry → String
  | .property key _ => key
  | .shorthand key => key
  | .computed key _ => key
  | .spread source => source
  | .method name _ => name

def describeKind : ObjectEntry → Value
  | .property _ _ => .member "EntryKind" "PROPERTY" "property"
  | .shorthand _ => .member "EntryKind" "SHORTHAND" "shorthand"
  | .computed _ _ => .member "EntryKind" "COMPUTED" "computed"
  | .spread _ => .member "EntryKind" "SPREAD" "spread"
  | .method _ _ => .member "EntryKind" "METHOD" "method"

def describe (e : ObjectEntry) : Value :=
  .record "ObjectEntry"
    [("kind", e.describeKind), ("key", .text e.key), ("value", .ofOption e.value?)] [] Option.none

def wantsLines : ObjectEntry → Bool
  | .method _ _ => true
  | e => match e.value? with
    | some value => value.toList.contains '\n'
    | Option.none => false

end ObjectEntry

namespace ObjectLiteral

/-- The number of entries up to which a literal can stand on one line. -/
def lineLimit : Nat := 3

def isMultiLine (o : ObjectLiteral) : Bool :=
  lineLimit < o.entries.length || o.entries.any ObjectEntry.wantsLines

def entryLines : List ObjectEntry → List String
  | [] => []
  | [e] => [Body.blockIndent ++ e.render]
  | e :: rest => (Body.blockIndent ++ e.render ++ ",") :: entryLines rest

def build (o : ObjectLiteral) : Expression :=
  if o.entries.isEmpty then ⟨Body.emptyBlock⟩
  else if o.isMultiLine then
    ⟨"\n".intercalate ("\x7b" :: entryLines o.entries ++ ["\x7d"])⟩
  else ⟨"\x7b " ++ ", ".intercalate (o.entries.map ObjectEntry.render) ++ " \x7d"⟩

/-- A literal under inspection; its text is that of the built expression. -/
def describe (o : ObjectLiteral) : Value :=
  .record "ObjectLiteralBuilder" [("entries", .tuple (o.entries.map ObjectEntry.describe))]
    [("is_multi_line", .ok (.bool o.isMultiLine))] (some (.ok o.build.value))

def add (o : ObjectLiteral) (e : ObjectEntry) : ObjectLiteral :=
  { o with entries := o.entries ++ [e] }

def propertyName (v : Value) : Except Fault String :=
  v.requireText "Property name cannot be empty or whitespace." "name"

def addProperty (o : ObjectLiteral) (name value : Value) : Except Fault ObjectLiteral := do
  let n ← propertyName name
  return o.add (.property n (← value.toText))

/-- Add a property whose value is the variable of the same name. -/
def addShorthand (o : ObjectLiteral) (name : Value) : Except Fault ObjectLiteral := do
  return o.add (.shorthand (← propertyName name))

def addComputed (o : ObjectLiteral) (key value : Value) : Except Fault ObjectLiteral := do
  let k ← key.toText
  return o.add (.computed k (← value.toText))

def addSpread (o : ObjectLiteral) (source : Value) : Except Fault ObjectLiteral := do
  return o.add (.spread (← source.toText))

def bodyIndent : String := Body.blockIndent ++ Body.blockIndent

def methodText (d : Method) : Except Fault String := do
  let parameters ← Parameter.renderAll false d.parameters
  let head := (if d.isAsync then "async " else "") ++ (if d.isGenerator then "*" else "") ++
    d.name ++ "(" ++ parameters ++ ")" ++ resultType d.returnType
  match d.expressionBody with
  | some e =>
    return head ++ " \x7b\n" ++ bodyIndent ++ "return " ++ e ++ ";\n" ++ Body.blockIndent ++ "\x7d"
  | Option.none =>
    match d.body with
    | Option.none => return head ++ " " ++ Body.emptyBlock
    | some supplied =>
      let body ← supplied.need ["is_empty", "statements"]
      if body.isEmpty then return head ++ " " ++ Body.emptyBlock
      return "\n".intercalate ((head ++ " \x7b") ::
        body.statements.flatMap (Text.leadLines bodyIndent) ++ [Body.blockIndent ++ "\x7d"])

/-- What is touched of a method when it becomes an entry, in order. -/
def methodTouched : List String :=
  ["name", "is_async", "is_generator", "parameters", "return_type", "expression_body", "body"]

def addMethod {m : Type → Type} [Monad m] [MonadExceptOf Fault m] (o : ObjectLiteral)
    (name : Value) (configure : Method → m (Supplied Method)) : m ObjectLiteral := do
  let supplied ← Method.configured name (some configure)
  let d ← Fault.lift (supplied.need methodTouched)
  return o.add (.method d.name (← Fault.lift (methodText d)))

end ObjectLiteral

end TypeScriptGen
