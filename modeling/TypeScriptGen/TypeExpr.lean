import TypeScriptGen.Expression

/-!
TypeScript types as text, with the type operators that combine them and the expressions that start
from a type.
-/

set_option autoImplicit false
set_option relaxedAutoImplicit false

namespace TypeScriptGen

structure TypeExpr where
  value : String
deriving DecidableEq, Repr

namespace TypeExpr

def describe (t : TypeExpr) : Value :=
  .record "TypeRef" [("value", .text t.value)] [] (some (.ok t.value))

def ofValue (v : Value) : Except Fault TypeExpr := do
  return ⟨← v.requireText "Type name cannot be empty or whitespace." "type_name"⟩

def apply (t : TypeExpr) (arguments : List Value) : Except Fault TypeExpr := do
  if arguments.isEmpty then
    throw (Fault.refuse "At least one type argument is required." "type_arguments")
  return ⟨t.value ++ "<" ++ (← Value.commaText arguments) ++ ">"⟩

def combine (noun sign : String) (types : List Value) : Except Fault TypeExpr := do
  if types.length < 2 then
    throw (Fault.refuse (noun ++ " requires at least two types.") "types")
  return ⟨sign.intercalate (← Value.toTexts types)⟩

def union (types : List Value) : Except Fault TypeExpr := combine "Union" " | " types

def intersection (types : List Value) : Except Fault TypeExpr := combine "Intersection" " & " types

def tuple (elements : List Value) : Except Fault TypeExpr := do
  if elements.isEmpty then
    throw (Fault.refuse "Tuple requires at least one element." "elements")
  return ⟨"[" ++ (← Value.commaText elements) ++ "]"⟩

/-- The elements of a tuple type with names, each given as a pair of type and name. -/
def namedElements : List Value → Except Fault (List String)
  | [] => .ok []
  | v :: rest => do
    let (type, name) ← v.unpackPair
    let nameText ← name.toText
    let typeText ← type.toText
    let more ← namedElements rest
    return (nameText ++ ": " ++ typeText) :: more

def namedTuple (elements : List Value) : Except Fault TypeExpr := do
  if elements.isEmpty then
    throw (Fault.refuse "Named tuple requires at least one element." "elements")
  return ⟨"[" ++ ", ".intercalate (← namedElements elements) ++ "]"⟩

/-- A literal type in double quotes. The text stands between the quotes as it is. -/
def literal (v : Value) : Except Fault TypeExpr := do
  return ⟨"\"" ++ (← v.toText) ++ "\""⟩

def plainLiteral (v : Value) : Except Fault TypeExpr := do
  return ⟨← v.toText⟩

inductive Form where
  | array
  | nullable
  | optional
  | nullableOptional
  | readonly
  | bracketed
  | keyOf
  | typeOf
deriving DecidableEq, Repr

def unary (t : TypeExpr) : Form → TypeExpr
  | .array => ⟨t.value ++ "[]"⟩
  | .nullable => ⟨t.value ++ " | null"⟩
  | .optional => ⟨t.value ++ " | undefined"⟩
  | .nullableOptional => ⟨t.value ++ " | null | undefined"⟩
  | .readonly => ⟨"readonly " ++ t.value⟩
  | .bracketed => ⟨"(" ++ t.value ++ ")"⟩
  | .keyOf => ⟨"keyof " ++ t.value⟩
  | .typeOf => ⟨"typeof " ++ t.value⟩

def toExpression (t : TypeExpr) : Expression := ⟨t.value⟩

def new (t : TypeExpr) (arguments : List Value) : Except Fault Expression :=
  Expression.invoke ⟨"new " ++ t.value⟩ arguments

end TypeExpr

end TypeScriptGen
