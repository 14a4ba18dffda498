import TypeScriptGen.Declaration.Access

/-!
Parameters of constructors, methods and functions.
-/

set_option autoImplicit false
set_option relaxedAutoImplicit false

namespace TypeScriptGen

/-- A parameter. Accessibility and `readonly` turn a constructor's parameter into a property. -/
structure Parameter where
  name : String
  type : String
  defaultValue : Option String := Option.none
  isOptional : Bool := false
  isRest : Bool := false
  access : Supplied Access := .good .unmarked
  isReadonly : Bool := false

namespace Parameter

def describe (p : Parameter) : Value :=
  .record "ParameterBuilder"
    [("name", .text p.name), ("type", .text p.type), ("default_value", .ofOption p.defaultValue),
      ("is_optional", .bool p.isOptional), ("is_rest", .bool p.isRest),
      ("accessibility", p.access.toValue Access.describe), ("is_readonly", .bool p.isReadonly)]
    [] Option.none

def ofValues (name type : Value) : Except Fault Parameter := do
  let n ← name.requireText "Parameter name cannot be empty or whitespace." "name"
  let t ← type.requireText "Parameter type cannot be empty or whitespace." "type"
  return { name := n, type := t }

def withDefault (p : Parameter) (v : Value) : Except Fault Parameter := do
  return { p with defaultValue := some (← v.toText) }

def configured {m : Type → Type} [Monad m] [MonadExceptOf Fault m] (name type : Value)
    (configure : Option (Parameter → m (Supplied Parameter))) : m (Supplied Parameter) := do
  let p ← Fault.lift (ofValues name type)
  match configure with
  | Option.none => return .good p
  | some f => f p

/-- A parameter as text; only a constructor shows what makes it a property. -/
def render (asProperty : Bool) (p : Parameter) : Except Fault String := do
  let access ← if asProperty then Access.lead p.access else pure ""
  let readonly := if asProperty && p.isReadonly then "readonly " else ""
  let rest := if p.isRest then "..." else ""
  let mark := if p.isOptional then "?" else ""
  let default := match p.defaultValue with
    | Option.none => ""
    | some d => " = " ++ d
  return access ++ readonly ++ rest ++ p.name ++ mark ++ ": " ++ p.type ++ default

def wordIf (v : Value) (feature word : String) : Except Fault String := do
  return if (← v.demand feature).holds then word else ""

/-- Any value that has the features of a parameter, as text. They are asked for one after the
other. -/
def renderValue (asProperty : Bool) (v : Value) : Except Fault String := do
  let access ← if asProperty then do Access.leadOf (← v.demand "accessibility") else pure ""
  let readonly ← if asProperty then wordIf v "is_readonly" "readonly " else pure ""
  let rest ← wordIf v "is_rest" "..."
  let name ← (← v.demand "name").toText
  let mark ← wordIf v "is_optional" "?"
  let type ← (← v.demand "type").toText
  let default ← (← v.demand "default_value").optionalText
  return access ++ readonly ++ rest ++ name ++ mark ++ ": " ++ type ++
    (default.elim "" fun d => " = " ++ d)

/-- Values that have the features of parameters, as texts, in order. -/
def renderValues (asProperty : Bool) : List Value → Except Fault (List String)
  | [] => .ok []
  | v :: rest => do
    let s ← renderValue asProperty v
    let more ← renderValues asProperty rest
    return s :: more

def renderSupplied (asProperty : Bool) : Supplied Parameter → Except Fault String
  | .good p => p.render asProperty
  | .stray v => renderValue asProperty v

def renderTexts (asProperty : Bool) : List (Supplied Parameter) → Except Fault (List String)
  | [] => .ok []
  | p :: rest => do
    let s ← renderSupplied asProperty p
    let more ← renderTexts asProperty rest
    return s :: more

def renderAll (asProperty : Bool) (ps : List (Supplied Parameter)) : Except Fault String := do
  return ", ".intercalate (← renderTexts asProperty ps)

end Parameter

end TypeScriptGen
