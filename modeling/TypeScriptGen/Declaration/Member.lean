import TypeScriptGen.Declaration.Body
import TypeScriptGen.Declaration.Parameter

/-!
Members of classes and interfaces: fields, properties, methods and constructors. Every operation
returns a new member and leaves the old one as it was.
-/

set_option autoImplicit false
set_option relaxedAutoImplicit false

namespace TypeScriptGen

structure Field where
  name : String
  type : String
  access : Supplied Access := .good .unmarked
  isReadonly : Bool := false
  isStatic : Bool := false
  isOptional : Bool := false
  isHashPrivate : Bool := false
  isDeclare : Bool := false
  isOverride : Bool := false
  isAbstract : Bool := false
  initializer : Option String := Option.none

structure Property where
  name : String
  type : String
  access : Supplied Access := .good .unmarked
  isReadonly : Bool := false
  isOptional : Bool := false
  isStatic : Bool := false
  isAbstract : Bool := false
  isOverride : Bool := false
  getterExpression : Option String := Option.none
  getterBody : Option (Supplied Body) := Option.none
  setterBody : Option (Supplied Body) := Option.none
  initializer : Option String := Option.none

/-- A method, with a block body, an expression body or none. -/
structure Method where
  name : String
  returnType : Option String := Option.none
  access : Supplied Access := .good .unmarked
  isStatic : Bool := false
  isAsync : Bool := false
  isAbstract : Bool := false
  isOverride : Bool := false
  isGenerator : Bool := false
  isOptional : Bool := false
  typeParameters : List String := []
  parameters : List (Supplied Parameter) := []
  body : Option (Supplied Body) := Option.none
  expressionBody : Option String := Option.none
  overloads : List Value := []
  decorators : List Value := []

/-- A constructor, which may call the constructor of the base class first. -/
structure Constructor where
  access : Supplied Access := .good .unmarked
  parameters : List (Supplied Parameter) := []
  body : Option (Supplied Body) := Option.none
  superArguments : List String := []
  overloads : List Value := []

def typeParameter (name constraint : Value) : Except Fault String := do
  let n ← name.requireText "Type parameter name cannot be empty or whitespace." "name"
  match ← constraint.optionalText with
  | Option.none => return n
  | some c => return n ++ " extends " ++ c

def describeParameters (ps : List (Supplied Parameter)) : Value :=
  .tuple (ps.map fun p => p.toValue Parameter.describe)

def describeBody (b : Option (Supplied Body)) : Value := Supplied.optionValue Body.describe b

section Callbacks

variable {m : Type → Type} [Monad m] [MonadExceptOf Fault m]

/-- The body that a callback makes of an empty one. Whatever it returns is kept; nothing at all
means that there is no body. -/
def bodyFrom (fill : Body → m (Supplied Body)) : m (Option (Supplied Body)) := do
  return (← fill Body.empty).present

end Callbacks

namespace Field

def describe (f : Field) : Value :=
  .record "FieldBuilder"
    [("name", .text f.name), ("type", .text f.type),
      ("accessibility", f.access.toValue Access.describe), ("is_readonly", .bool f.isReadonly),
      ("is_static", .bool f.isStatic), ("is_optional", .bool f.isOptional),
      ("is_es_private", .bool f.isHashPrivate), ("is_declare", .bool f.isDeclare),
      ("is_override", .bool f.isOverride), ("is_abstract", .bool f.isAbstract),
      ("initializer", .ofOption f.initializer)]
    [] Option.none

def ofValues (name type : Value) : Except Fault Field := do
  let n ← name.requireText "Field name cannot be empty or whitespace." "name"
  let t ← type.requireText "Field type cannot be empty or whitespace." "type"
  return { name := n, type := t }

def withInitializer (f : Field) (v : Value) : Except Fault Field := do
  return { f with initializer := some (← v.toText) }

def configured {m : Type → Type} [Monad m] [MonadExceptOf Fault m] (name type : Value)
    (configure : Option (Field → m (Supplied Field))) : m (Supplied Field) := do
  let f ← Fault.lift (ofValues name type)
  match configure with
  | Option.none => return .good f
  | some g => g f

end Field

namespace Property

def hasGetter (p : Property) : Bool := p.getterExpression.isSome || p.getterBody.isSome

def hasAccessor (p : Property) : Bool := p.hasGetter || p.setterBody.isSome

def describe (p : Property) : Value :=
  .record "PropertyBuilder"
    [("name", .text p.name), ("type", .text p.type),
      ("accessibility", p.access.toValue Access.describe), ("is_readonly", .bool p.isReadonly),
      ("is_optional", .bool p.isOptional), ("is_static", .bool p.isStatic),
      ("is_abstract", .bool p.isAbstract), ("is_override", .bool p.isOverride),
      ("getter_expression", .ofOption p.getterExpression),
      ("getter_body", describeBody p.getterBody), ("setter_body", describeBody p.setterBody),
      ("initializer", .ofOption p.initializer)]
    [("has_getter", .ok (.bool p.hasGetter)), ("has_accessor", .ok (.bool p.hasAccessor))]
    Option.none

def ofValues (name type : Value) : Except Fault Property := do
  let n ← name.requireText "Property name cannot be empty or whitespace." "name"
  let t ← type.requireText "Property type cannot be empty or whitespace." "type"
  return { name := n, type := t }

def withInitializer (p : Property) (v : Value) : Except Fault Property := do
  return { p with initializer := some (← v.toText) }

def withGetterExpression (p : Property) (v : Value) : Except Fault Property := do
  return { p with getterExpression := some (← v.toText) }

section Callbacks

variable {m : Type → Type} [Monad m] [MonadExceptOf Fault m]

/-- Give the property a getter with the body that a callback makes. -/
def withGetterBody (p : Property) (fill : Body → m (Supplied Body)) : m Property := do
  return { p with getterBody := ← bodyFrom fill }

/-- Give the property a setter with the body that a callback makes. -/
def withSetter (p : Property) (fill : Body → m (Supplied Body)) : m Property := do
  return { p with setterBody := ← bodyFrom fill }

def configured (name type : Value)
    (configure : Option (Property → m (Supplied Property))) : m (Supplied Property) := do
  let p ← Fault.lift (ofValues name type)
  match configure with
  | Option.none => return .good p
  | some g => g p

end Callbacks

end Property

namespace Method

def hasBody (d : Method) : Bool := d.body.isSome || d.expressionBody.isSome

def describe (d : Method) : Value :=
  .record "MethodBuilder"
    [("name", .text d.name), ("return_type", .ofOption d.returnType),
      ("accessibility", d.access.toValue Access.describe), ("is_static", .bool d.isStatic),
      ("is_async", .bool d.isAsync), ("is_abstract", .bool d.isAbstract),
      ("is_override", .bool d.isOverride), ("is_generator", .bool d.isGenerator),
      ("is_optional", .bool d.isOptional), ("type_parameters", .texts d.typeParameters),
      ("parameters", describeParameters d.parameters), ("body", describeBody d.body),
      ("expression_body", .ofOption d.expressionBody),
      ("overload_signatures", .tuple d.overloads), ("decorators", .tuple d.decorators)]
    [("has_body", .ok (.bool d.hasBody))] Option.none

def ofValue (name : Value) : Except Fault Method := do
  return { name := ← name.requireText "Method name cannot be empty or whitespace." "name" }

def withReturnType (d : Method) (v : Value) : Except Fault Method := do
  return { d with returnType := some (← v.toText) }

def withExpressionBody (d : Method) (v : Value) : Except Fault Method := do
  return { d with expressionBody := some (← v.toText) }

def addTypeParameter (d : Method) (name constraint : Value) : Except Fault Method := do
  return { d with typeParameters := d.typeParameters ++ [← typeParameter name constraint] }

def addParameter (d : Method) (p : Supplied Parameter) : Method :=
  { d with parameters := d.parameters ++ [p] }

def addOverload (d : Method) (v : Value) : Method := { d with overloads := d.overloads ++ [v] }

def withDecorator (d : Method) (v : Value) : Method := { d with decorators := d.decorators ++ [v] }

section Callbacks

variable {m : Type → Type} [Monad m] [MonadExceptOf Fault m]

def withBody (d : Method) (fill : Body → m (Supplied Body)) : m Method := do
  return { d with body := ← bodyFrom fill }

def configured (name : Value) (configure : Option (Method → m (Supplied Method))) :
    m (Supplied Method) := do
  let d ← Fault.lift (ofValue name)
  match configure with
  | Option.none => return .good d
  | some g => g d

end Callbacks

end Method

namespace Constructor

def describe (c : Constructor) : Value :=
  .record "ConstructorBuilder"
    [("accessibility", c.access.toValue Access.describe),
      ("parameters", describeParameters c.parameters), ("body", describeBody c.body),
      ("super_arguments", .texts c.superArguments), ("overload_signatures", .tuple c.overloads)]
    [] Option.none

def addParameter (c : Constructor) (p : Supplied Parameter) : Constructor :=
  { c with parameters := c.parameters ++ [p] }

/-- Call the base class with these arguments, in place of any stated before. -/
def callsSuper (c : Constructor) (arguments : List Value) : Except Fault Constructor := do
  return { c with superArguments := ← Value.toTexts arguments }

def addOverload (c : Constructor) (v : Value) : Constructor :=
  { c with overloads := c.overloads ++ [v] }

def withBody {m : Type → Type} [Monad m] [MonadExceptOf Fault m] (c : Constructor)
    (fill : Body → m (Supplied Body)) : m Constructor := do
  return { c with body := ← bodyFrom fill }

end Constructor

end TypeScriptGen
