import TypeScriptGen.Declaration.Member
import TypeScriptGen.Expression

/-!
Arrow functions as expressions.
-/

set_option autoImplicit false
set_option relaxedAutoImplicit false

namespace TypeScriptGen

/-- An arrow function; an expression body takes precedence over a block body. -/
structure Arrow where
  parameters : List (Supplied Parameter) := []
  typeParameters : List String := []
  isAsync : Bool := false
  returnType : Option String := Option.none
  expressionBody : Option String := Option.none
  body : Option (Supplied Body) := Option.none

/-- Type parameters in angle brackets, nothing if there are none. -/
def angleList (ps : List String) : String :=
  if ps.isEmpty then "" else "<" ++ ", ".intercalate ps ++ ">"

def resultType : Option String → String
  | Option.none => ""
  | some t => ": " ++ t

namespace Arrow

/-- The function as an expression; it must have a body of either kind. -/
def build (a : Arrow) : Except Fault Expression := do
  if a.expressionBody.isNone && a.body.isNone then
    throw (Fault.refuse
      "Arrow function must have either an expression body or a block body." "body")
  let parameters ← Parameter.renderAll false a.parameters
  let body ← match a.expressionBody, a.body with
    | some e, _ => pure e
    | Option.none, some b => Body.suppliedBlock b
    | Option.none, Option.none => pure Body.emptyBlock
  return ⟨(if a.isAsync then "async " else "") ++ angleList a.typeParameters ++
    "(" ++ parameters ++ ")" ++ resultType a.returnType ++ " => " ++ body⟩

/-- An arrow function under inspection; its text is that of the built expression. -/
def describe (a : Arrow) : Value :=
  .record "ArrowFunctionBuilder"
    [("parameters", describeParameters a.parameters), ("type_parameters", .texts a.typeParameters),
      ("is_async", .bool a.isAsync), ("return_type", .ofOption a.returnType),
      ("expression_body", .ofOption a.expressionBody), ("body", describeBody a.body)]
    [] (some (a.build.map Expression.value))

def withReturnType (a : Arrow) (v : Value) : Except Fault Arrow := do
  return { a with returnType := some (← v.toText) }

def addTypeParameter (a : Arrow) (name constraint : Value) : Except Fault Arrow := do
  return { a with typeParameters := a.typeParameters ++ [← typeParameter name constraint] }

def addParameter (a : Arrow) (p : Supplied Parameter) : Arrow :=
  { a with parameters := a.parameters ++ [p] }

def withExpressionBody (a : Arrow) (v : Value) : Except Fault Arrow := do
  return { a with expressionBody := some (← v.toText) }

/-- Give the function the body that a callback makes. -/
def withBody {m : Type → Type} [Monad m] [MonadExceptOf Fault m] (a : Arrow)
    (fill : Body → m (Supplied Body)) : m Arrow := do
  return { a with body := ← bodyFrom fill }

end Arrow

end TypeScriptGen
