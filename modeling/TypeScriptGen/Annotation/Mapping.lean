import TypeScriptGen.Annotation

/-!
The TypeScript type of an annotation. Numbers become `number`, sequences arrays, sets `Set<T>`,
mappings `Record<K, V>`, awaitables `Promise<T>`; a class that is not known keeps its name.
-/

set_option autoImplicit false
set_option relaxedAutoImplicit false

namespace TypeScriptGen.Annotation

def primitive? (c : ClassRef) : Option String :=
  match c.home, c.name with
  | .builtin, "bool" => some "boolean"
  | .builtin, "int" => some "number"
  | .builtin, "float" => some "number"
  | .builtin, "complex" => some "number"
  | .builtin, "Decimal" => some "number"
  | .builtin, "timedelta" => some "number"
  | .builtin, "str" => some "string"
  | .builtin, "UUID" => some "string"
  | .builtin, "bytes" => some "Uint8Array"
  | .builtin, "bytearray" => some "Uint8Array"
  | .builtin, "datetime" => some "Date"
  | .builtin, "date" => some "Date"
  | .builtin, "object" => some "unknown"
  | .builtin, "NoneType" => some "void"
  | _, _ => Option.none

/-- What a generic class stands for. -/
inductive Role where
  | tuple
  | awaitable
  | mapping
  | set
  | sequence
  | other
deriving DecidableEq, Repr

def role (c : ClassRef) : Role :=
  match c.home with
  | .program _ => .other
  | .builtin =>
    if c.name == "tuple" then .tuple
    else if c.name == "dict" then .mapping
    else if c.name == "set" || c.name == "frozenset" then .set
    else if c.name == "list" then .sequence
    else .other
  | .collections =>
    if c.name == "Awaitable" || c.name == "Coroutine" then .awaitable
    else if c.name == "Mapping" || c.name == "MutableMapping" then .mapping
    else if c.name == "Set" || c.name == "MutableSet" then .set
    else if ["Sequence", "MutableSequence", "Iterable", "Collection", "Iterator"].contains c.name
    then .sequence
    else .other

/-- The type of a class without arguments. Of the sequences only the built-in ones are arrays. -/
def classType (c : ClassRef) : TypeExpr :=
  match primitive? c with
  | some t => ⟨t⟩
  | Option.none =>
    match role c with
    | .tuple => ⟨"unknown[]"⟩
    | .set => ⟨"Set<unknown>"⟩
    | .mapping => ⟨"Record<string, unknown>"⟩
    | .sequence => if c.home == .builtin then ⟨"unknown[]"⟩ else ⟨c.name⟩
    | .awaitable => ⟨c.name⟩
    | .other => ⟨c.name⟩

/-- The type of array elements: a union or intersection is put in brackets. -/
def element (t : TypeExpr) : TypeExpr :=
  if Text.occursIn " | " t.value || Text.occursIn " & " t.value then t.unary .bracketed else t

/-- A literal type: texts in double quotes, truth values in lower case, all else by its text. -/
def literalType : LiteralValue → Except Fault TypeExpr
  | .text s => TypeExpr.literal (.text s)
  | .bool b => TypeExpr.plainLiteral (if b then "true" else "false")
  | .int n => TypeExpr.plainLiteral (.int n)
  | .none => TypeExpr.plainLiteral .none

/-- The union of types, where a single type stands for itself. -/
def unionType : List TypeExpr → Except Fault TypeExpr
  | [t] => .ok t
  | ts => TypeExpr.union (ts.map TypeExpr.describe)

def literalTypes : List LiteralValue → Except Fault (List TypeExpr)
  | [] => .ok []
  | v :: rest => do
    let t ← literalType v
    let more ← literalTypes rest
    return t :: more

def applyTo (name : TypeExpr) (ts : List TypeExpr) : Except Fault TypeExpr :=
  name.apply (ts.map TypeExpr.describe)

/-- The arguments of a tuple of any length: a type and an ellipsis. -/
def isVariadic : List Annotation → Bool
  | [_, .ellipsis] => true
  | _ => false

def noArgument : Fault := .beyondEnd "tuple"

mutual

def toType : Annotation → Except Fault TypeExpr
  | .none => .ok ⟨"void"⟩
  | .any => .ok ⟨"unknown"⟩
  | .ellipsis => .ok ⟨"Ellipsis"⟩
  | .ofClass c => .ok (classType c)
  | .bare _ origin =>
    match role origin with
    | .tuple => .ok ⟨"unknown[]"⟩
    | .awaitable => .ok ⟨"Promise<void>"⟩
    | .other => .ok (classType origin)
    | .mapping => .error noArgument
    | .set => .error noArgument
    | .sequence => .error noArgument
  | .applied _ origin arguments =>
    match role origin with
    | .tuple =>
      if isVariadic arguments then do
        return (element (← firstType arguments)).unary .array
      else if arguments.isEmpty then .ok ⟨"unknown[]"⟩
      else do TypeExpr.tuple ((← toTypes arguments).map TypeExpr.describe)
    | .awaitable => do applyTo ⟨"Promise"⟩ [← lastType arguments]
    | .mapping => recordType arguments
    | .set => do applyTo ⟨"Set"⟩ [← firstType arguments]
    | .sequence => do return (element (← firstType arguments)).unary .array
    | .other => do
      if arguments.isEmpty then return classType origin
      applyTo (classType origin) (← toTypes arguments)
  | .union _ members => do
    let result ← unionType (← toTypesPresent members)
    return if members.any isNoneClass then result.unary .nullable else result
  | .literal values => do unionType (← literalTypes values)
  | .text s => .ok ⟨s⟩
  | .forward s => .ok ⟨"ForwardRef(" ++ Text.quoted s ++ ")"⟩
  | .parameters _ => .error (.mistyped (.hash "list"))
  | .typeVariable _ name => .ok ⟨name⟩

def toTypes : List Annotation → Except Fault (List TypeExpr)
  | [] => .ok []
  | a :: rest => do
    let t ← toType a
    let more ← toTypes rest
    return t :: more

def toTypesPresent : List Annotation → Except Fault (List TypeExpr)
  | [] => .ok []
  | a :: rest =>
    if isNoneClass a then toTypesPresent rest
    else do
      let t ← toType a
      let more ← toTypesPresent rest
      return t :: more

def recordType : List Annotation → Except Fault TypeExpr
  | [] => .error noArgument
  | [k] => do
    let _ ← toType k
    throw noArgument
  | k :: v :: _ => do
    let key ← toType k
    let value ← toType v
    applyTo ⟨"Record"⟩ [key, value]

def firstType : List Annotation → Except Fault TypeExpr
  | [] => .error noArgument
  | a :: _ => toType a

def lastType : List Annotation → Except Fault TypeExpr
  | [] => .ok ⟨"void"⟩
  | [a] => toType a
  | _ :: rest => lastType rest

end

/-- The type of a value in the place of an annotation: nothing is `void`, and all else that can be a
key is named by its text. -/
def typeOfValue (v : Value) : Except Fault TypeExpr :=
  if v.isNone then .ok ⟨"void"⟩
  else match v.keyFault? with
    | some fault => .error fault
    | Option.none => do return ⟨← v.toText⟩

end TypeScriptGen.Annotation
