import TypeScriptGen.Declaration.Rendering
import TypeScriptGen.Proofs.Balance.Bodies

/-!
Balance through the whole language of builders. `Made` says what the operations can make of values
whose texts are balanced: one rule for each operation, where a callback counts by what it returns.
Main statement: whatever is made stores balanced texts only.
-/

set_option autoImplicit false
set_option relaxedAutoImplicit false

namespace TypeScriptGen

structure Field.Balanced (f : Field) : Prop where
  name : Text.Balanced f.name
  type : Text.Balanced f.type
  access : Access.Balanced f.access
  initializer : ∀ t ∈ f.initializer, Text.Balanced t

theorem Field.balanced_ofValues {name type : Value} (named : name.Balanced)
    (typed : type.Balanced) : Ensures Field.Balanced (ofValues name type) := by
  refine .bind (named.requireText _ _) fun n nameShown => ?_
  refine .bind (typed.requireText _ _) fun t typeShown => .pure ?_
  exact ⟨nameShown, typeShown, Access.balanced_good .unmarked, by simp⟩

theorem Field.Balanced.withInitializer {f : Field} (balanced : f.Balanced) {v : Value}
    (value : v.Balanced) : Ensures Field.Balanced (f.withInitializer v) :=
  .bind value fun _ shown => .pure { balanced with initializer := by simpa using shown }

structure Property.Balanced (p : Property) : Prop where
  name : Text.Balanced p.name
  type : Text.Balanced p.type
  access : Access.Balanced p.access
  getterExpression : ∀ t ∈ p.getterExpression, Text.Balanced t
  getterBody : ∀ b, p.getterBody = some (.good b) → b.Balanced
  setterBody : ∀ b, p.setterBody = some (.good b) → b.Balanced
  initializer : ∀ t ∈ p.initializer, Text.Balanced t

namespace Property

variable {p : Property} {v : Value} {fill : Body → Except Fault (Supplied Body)}

theorem balanced_ofValues {name type : Value} (named : name.Balanced) (typed : type.Balanced) :
    Ensures Balanced (ofValues name type) := by
  refine .bind (named.requireText _ _) fun n nameShown => ?_
  refine .bind (typed.requireText _ _) fun t typeShown => .pure ?_
  exact ⟨nameShown, typeShown, Access.balanced_good .unmarked, by simp, by simp, by simp, by simp⟩

theorem Balanced.withInitializer (balanced : p.Balanced) (value : v.Balanced) :
    Ensures Balanced (p.withInitializer v) :=
  .bind value fun _ shown => .pure { balanced with initializer := by simpa using shown }

theorem Balanced.withGetterExpression (balanced : p.Balanced) (value : v.Balanced) :
    Ensures Balanced (p.withGetterExpression v) :=
  .bind value fun _ shown => .pure { balanced with getterExpression := by simpa using shown }

theorem Balanced.withGetterBody (balanced : p.Balanced)
    (returns : Body.Returns Body.Balanced fill) : Ensures Balanced (p.withGetterBody fill) :=
  .bind (Body.balanced_bodyFrom returns) fun _ kept => .pure { balanced with getterBody := kept }

theorem Balanced.withSetter (balanced : p.Balanced) (returns : Body.Returns Body.Balanced fill) :
    Ensures Balanced (p.withSetter fill) :=
  .bind (Body.balanced_bodyFrom returns) fun _ kept => .pure { balanced with setterBody := kept }

end Property

structure Constructor.Balanced (c : Constructor) : Prop where
  access : Access.Balanced c.access
  parameters : ∀ p ∈ c.parameters, p.Fits Parameter.Balanced
  body : ∀ b, c.body = some (.good b) → b.Balanced
  superArguments : ∀ t ∈ c.superArguments, Text.Balanced t
  overloads : ∀ v ∈ c.overloads, v.Balanced

namespace Constructor

variable {c : Constructor}

theorem balanced_empty : Constructor.Balanced {} :=
  ⟨Access.balanced_good .unmarked, by simp, by simp, by simp, by simp⟩

theorem Balanced.addParameter (balanced : c.Balanced) {p : Parameter} (new : p.Balanced) :
    (c.addParameter (.good p)).Balanced :=
  { balanced with parameters := forall_mem_concat balanced.parameters new }

theorem Balanced.callsSuper (balanced : c.Balanced) {vs : List Value}
    (operands : ∀ v ∈ vs, v.Balanced) : Ensures Balanced (c.callsSuper vs) :=
  .bind (Value.balanced_toTexts operands) fun _ shown =>
    .pure { balanced with superArguments := shown }

theorem Balanced.addOverload (balanced : c.Balanced) {v : Value} (new : v.Balanced) :
    (c.addOverload v).Balanced :=
  { balanced with overloads := forall_mem_concat balanced.overloads new }

theorem Balanced.withBody (balanced : c.Balanced) {fill : Body → Except Fault (Supplied Body)}
    (returns : Body.Returns Body.Balanced fill) : Ensures Balanced (c.withBody fill) :=
  .bind (Body.balanced_bodyFrom returns) fun _ kept => .pure { balanced with body := kept }

end Constructor

/-- All texts of a declaration are balanced, apart from what is nested in it. -/
structure Surface.Balanced (d : Surface) : Prop where
  name : d.name.Balanced
  decorators : ∀ v ∈ d.decorators, v.Balanced
  doc : d.doc.Balanced
  typeParameters : ∀ t ∈ d.typeParameters, Text.Balanced t
  bases : ∀ t ∈ d.bases, Text.Balanced t
  interfaces : ∀ t ∈ d.interfaces, Text.Balanced t
  indexSignatures : ∀ t ∈ d.indexSignatures, Text.Balanced t
  fields : ∀ f ∈ d.fields, f.Fits Field.Balanced
  constructors : ∀ c ∈ d.constructors, c.Fits Constructor.Balanced
  properties : ∀ p ∈ d.properties, p.Fits Property.Balanced
  methods : ∀ m ∈ d.methods, m.Fits Method.Balanced
  enumMembers : ∀ m ∈ d.enumMembers, m.1.Balanced ∧ ∀ t ∈ m.2, Text.Balanced t
  imports : ∀ v ∈ d.imports, v.Balanced
  definition : ∀ t ∈ d.definition, Text.Balanced t

/-- All texts of a declaration are balanced, and so are those of what is nested in it. -/
inductive Declaration.Balanced : Declaration → Prop where
  | mk {d : Surface} {nested : List (Supplied Declaration)} (surface : d.Balanced)
      (within : ∀ n, .good n ∈ nested → n.Balanced) : Balanced ⟨d, nested⟩

namespace Declaration

variable {d : Declaration} {u v w : Value}

theorem Balanced.surface (balanced : d.Balanced) : d.toSurface.Balanced := by
  cases balanced with
  | mk surface within => exact surface

theorem Balanced.within (balanced : d.Balanced) : ∀ n, .good n ∈ d.nested → n.Balanced := by
  cases balanced with
  | mk surface within => exact within

theorem Balanced.change (balanced : d.Balanced) {s : Surface} (new : s.Balanced) :
    Balanced { d with toSurface := s } :=
  .mk new balanced.within

private theorem balanced_bare {name : Value} (named : name.Balanced) (kind : Kind)
    {definition : Option String} (defined : ∀ t ∈ definition, Text.Balanced t) :
    Surface.Balanced { name, kind, definition } := by
  have nothing : Value.Balanced .none := .pure (by decide)
  exact ⟨named, by simp, nothing, by simp, by simp, by simp, by simp, by simp, by simp, by simp,
    by simp, by simp, by simp, defined⟩

theorem balanced_ofKind (kind : Kind) (name : v.Balanced) : (ofKind kind v).Balanced :=
  .mk (balanced_bare name kind (by simp)) (by simp)

theorem balanced_typeAlias (name : v.Balanced) (definition : w.Balanced) :
    Ensures Balanced (typeAlias v w) :=
  .bind definition.optionalText fun _ shown => .pure (.mk (balanced_bare name _ shown) (by simp))

theorem Balanced.withDecorator (balanced : d.Balanced) (new : v.Balanced) :
    (d.withDecorator v).Balanced :=
  balanced.change { balanced.surface with
    decorators := forall_mem_concat balanced.surface.decorators new }

theorem Balanced.withDoc (balanced : d.Balanced) (text : v.Balanced) : (d.withDoc v).Balanced :=
  balanced.change { balanced.surface with doc := text }

theorem Balanced.addTypeParameter (balanced : d.Balanced) (name : v.Balanced)
    (constraint : w.Balanced) : Ensures Balanced (d.addTypeParameter v w) :=
  .bind (balanced_typeParameter name constraint) fun _ shown =>
    .pure (balanced.change { balanced.surface with
      typeParameters := forall_mem_concat balanced.surface.typeParameters shown })

theorem Balanced.addBase (balanced : d.Balanced) (base : v.Balanced) :
    Ensures Balanced (d.addBase v) :=
  .bind base fun _ shown => .pure (balanced.change { balanced.surface with
    bases := forall_mem_concat balanced.surface.bases shown })

theorem Balanced.addInterfaces (balanced : d.Balanced) {vs : List Value}
    (names : ∀ v ∈ vs, v.Balanced) : Ensures Balanced (d.addInterfaces vs) :=
  .bind (Value.balanced_toTexts names) fun _ shown => .pure (balanced.change { balanced.surface with
    interfaces := List.forall_mem_append.mpr ⟨balanced.surface.interfaces, shown⟩ })

theorem Balanced.addField (balanced : d.Balanced) {f : Field} (new : f.Balanced) :
    (d.addField (.good f)).Balanced :=
  balanced.change { balanced.surface with
    fields := forall_mem_concat balanced.surface.fields new }

theorem Balanced.addProperty (balanced : d.Balanced) {p : Property} (new : p.Balanced) :
    (d.addProperty (.good p)).Balanced :=
  balanced.change { balanced.surface with
    properties := forall_mem_concat balanced.surface.properties new }

theorem Balanced.addMethod (balanced : d.Balanced) {m : Method} (new : m.Balanced) :
    (d.addMethod (.good m)).Balanced :=
  balanced.change { balanced.surface with
    methods := forall_mem_concat balanced.surface.methods new }

theorem Balanced.addConstructor (balanced : d.Balanced) {c : Constructor} (new : c.Balanced) :
    (d.addConstructor (.good c)).Balanced :=
  balanced.change { balanced.surface with
    constructors := forall_mem_concat balanced.surface.constructors new }

theorem Balanced.addIndexSignature (balanced : d.Balanced) (keyName : u.Balanced)
    (keyType : v.Balanced) (valueType : w.Balanced) :
    Ensures Balanced (d.addIndexSignature u v w) := by
  refine .bind keyName fun name named => .bind keyType fun key keyed => .bind valueType
    fun value valued => .pure (balanced.change { balanced.surface with
      indexSignatures := forall_mem_concat balanced.surface.indexSignatures ?_ })
  rw [Text.balanced_iff_scan]
  simp [named, keyed, valued]

theorem Balanced.addNested (balanced : d.Balanced) {n : Declaration} (new : n.Balanced) :
    (d.addNested (.good n)).Balanced := by
  refine .mk balanced.surface fun m member => ?_
  rcases List.mem_append.mp member with member | member
  · exact balanced.within m member
  · cases List.mem_singleton.mp member
    exact new

theorem Balanced.addEnumMember (balanced : d.Balanced) (name : v.Balanced) (value : w.Balanced) :
    Ensures Balanced (d.addEnumMember v w) :=
  .bind value.optionalText fun _ shown => .pure (balanced.change { balanced.surface with
    enumMembers := forall_mem_concat balanced.surface.enumMembers ⟨name, shown⟩ })

theorem Balanced.addImport (balanced : d.Balanced) (new : v.Balanced) : (d.addImport v).Balanced :=
  balanced.change { balanced.surface with
    imports := forall_mem_concat balanced.surface.imports new }

end Declaration

/-- What the operations of the library make: values that are used by their text, and builders. -/
inductive Product where
  | operand (v : Value)
  | expression (e : Expression)
  | type (t : TypeExpr)
  | parameter (p : Parameter)
  | body (b : Body)
  | arrow (a : Arrow)
  | literal (o : ObjectLiteral)
  | field (f : Field)
  | property (p : Property)
  | method (d : Method)
  | constructor (c : Constructor)
  | declaration (d : Declaration)

/-- What can be made by operations, starting from values whose texts are balanced. Marks can be set
in any way, and a member that a callback configures is whatever the callback makes of it. An
operation that fails makes nothing. -/
inductive Made : Product → Prop where
  -- Values that are used by their text: what the caller supplies, and what was made before.
  | supplied {v : Value} (balanced : v.Balanced) : Made (.operand v)
  | shownExpression {e : Expression} (made : Made (.expression e)) : Made (.operand e.describe)
  | shownType {t : TypeExpr} (made : Made (.type t)) : Made (.operand t.describe)
  | shownArrow {a : Arrow} (made : Made (.arrow a)) : Made (.operand a.describe)
  | shownLiteral {o : ObjectLiteral} (made : Made (.literal o)) : Made (.operand o.describe)
  -- Expressions.
  | plainExpression {s : String} (balanced : Text.Balanced s) : Made (.expression ⟨s⟩)
  | expressionOf {v : Value} {e : Expression} (operand : Made (.operand v))
      (given : Expression.ofValue v = .ok e) : Made (.expression e)
  | call {e e' : Expression} {v : Value} {vs : List Value} (made : Made (.expression e))
      (method : Made (.operand v)) (operands : ∀ w ∈ vs, Made (.operand w))
      (given : e.call v vs = .ok e') : Made (.expression e')
  | optionalCall {e e' : Expression} {v : Value} {vs : List Value} (made : Made (.expression e))
      (method : Made (.operand v)) (operands : ∀ w ∈ vs, Made (.operand w))
      (given : e.optionalCall v vs = .ok e') : Made (.expression e')
  | invoke {e e' : Expression} {vs : List Value} (made : Made (.expression e))
      (operands : ∀ w ∈ vs, Made (.operand w)) (given : e.invoke vs = .ok e') :
      Made (.expression e')
  | memberOf {e e' : Expression} {v : Value} (made : Made (.expression e))
      (name : Made (.operand v)) (given : e.property v = .ok e') : Made (.expression e')
  | optionalMember {e e' : Expression} {v : Value} (made : Made (.expression e))
      (name : Made (.operand v)) (given : e.optionalProperty v = .ok e') : Made (.expression e')
  | index {e e' : Expression} {v : Value} (made : Made (.expression e)) (key : Made (.operand v))
      (given : e.index v = .ok e') : Made (.expression e')
  | optionalIndex {e e' : Expression} {v : Value} (made : Made (.expression e))
      (key : Made (.operand v)) (given : e.optionalIndex v = .ok e') : Made (.expression e')
  | binary {e e' : Expression} {v : Value} (sign : Expression.Operator)
      (made : Made (.expression e)) (operand : Made (.operand v))
      (given : e.binary sign v = .ok e') : Made (.expression e')
  | unary {e : Expression} (form : Expression.Form) (made : Made (.expression e)) :
      Made (.expression (e.unary form))
  | template {e e' : Expression} {v w : Value} (made : Made (.expression e))
      (before : Made (.operand v)) (behind : Made (.operand w))
      (given : e.template v w = .ok e') : Made (.expression e')
  | newInstance {t : TypeExpr} {e : Expression} {vs : List Value} (made : Made (.type t))
      (operands : ∀ w ∈ vs, Made (.operand w)) (given : t.new vs = .ok e) : Made (.expression e)
  | staticSide {t : TypeExpr} (made : Made (.type t)) : Made (.expression t.toExpression)
  | builtArrow {a : Arrow} {e : Expression} (made : Made (.arrow a)) (given : a.build = .ok e) :
      Made (.expression e)
  | builtLiteral {o : ObjectLiteral} (made : Made (.literal o)) : Made (.expression o.build)
  -- Types.
  | plainType {s : String} (balanced : Text.Balanced s) : Made (.type ⟨s⟩)
  | typeOf {v : Value} {t : TypeExpr} (operand : Made (.operand v))
      (given : TypeExpr.ofValue v = .ok t) : Made (.type t)
  | apply {t t' : TypeExpr} {vs : List Value} (made : Made (.type t))
      (operands : ∀ w ∈ vs, Made (.operand w)) (given : t.apply vs = .ok t') : Made (.type t')
  | union {t : TypeExpr} {vs : List Value} (operands : ∀ w ∈ vs, Made (.operand w))
      (given : TypeExpr.union vs = .ok t) : Made (.type t)
  | intersection {t : TypeExpr} {vs : List Value} (operands : ∀ w ∈ vs, Made (.operand w))
      (given : TypeExpr.intersection vs = .ok t) : Made (.type t)
  | tuple {t : TypeExpr} {vs : List Value} (operands : ∀ w ∈ vs, Made (.operand w))
      (given : TypeExpr.tuple vs = .ok t) : Made (.type t)
  | namedTuple {t : TypeExpr} {vs : List Value}
      (types : ∀ w ∈ vs, ∀ type name, w.unpackPair = .ok (type, name) → Made (.operand type))
      (names : ∀ w ∈ vs, ∀ type name, w.unpackPair = .ok (type, name) → Made (.operand name))
      (given : TypeExpr.namedTuple vs = .ok t) : Made (.type t)
  | literalType {t : TypeExpr} {v : Value} (operand : Made (.operand v))
      (given : TypeExpr.literal v = .ok t) : Made (.type t)
  | plainLiteral {t : TypeExpr} {v : Value} (operand : Made (.operand v))
      (given : TypeExpr.plainLiteral v = .ok t) : Made (.type t)
  | unaryType {t : TypeExpr} (form : TypeExpr.Form) (made : Made (.type t)) :
      Made (.type (t.unary form))
  | annotated {a : Annotation} {t : TypeExpr} (balanced : a.Balanced)
      (given : a.toType = .ok t) : Made (.type t)
  | typeOfValue {t : TypeExpr} {v : Value} (operand : Made (.operand v))
      (given : Annotation.typeOfValue v = .ok t) : Made (.type t)
  -- Parameters.
  | parameter {p : Parameter} {v w : Value} (name : Made (.operand v)) (type : Made (.operand w))
      (given : Parameter.ofValues v w = .ok p) : Made (.parameter p)
  | withDefault {p p' : Parameter} {v : Value} (made : Made (.parameter p))
      (value : Made (.operand v)) (given : p.withDefault v = .ok p') : Made (.parameter p')
  | markedParameter {p : Parameter} (made : Made (.parameter p)) {access : Supplied Access}
      (keyword : Access.Balanced access) (isOptional isRest isReadonly : Bool) :
      Made (.parameter { p with access, isOptional, isRest, isReadonly })
  -- Bodies.
  | emptyBody : Made (.body .empty)
  | addStatement {b b' : Body} {v : Value} (made : Made (.body b)) (operand : Made (.operand v))
      (given : b.addStatement v = .ok b') : Made (.body b')
  | addStatements {b b' : Body} {vs : List Value} (made : Made (.body b))
      (operands : ∀ w ∈ vs, Made (.operand w)) (given : b.addStatements vs = .ok b') :
      Made (.body b')
  | addReturn {b b' : Body} {v : Value} (made : Made (.body b)) (operand : Made (.operand v))
      (given : b.addReturn v = .ok b') : Made (.body b')
  | addThrow {b b' : Body} {v : Value} (made : Made (.body b)) (operand : Made (.operand v))
      (given : b.addThrow v = .ok b') : Made (.body b')
  | addComment {b b' : Body} {v : Value} (made : Made (.body b)) (operand : Made (.operand v))
      (given : b.addComment v = .ok b') : Made (.body b')
  | addConst {b b' : Body} {u v w : Value} (made : Made (.body b)) (name : Made (.operand u))
      (value : Made (.operand v)) (type : Made (.operand w)) (given : b.addConst u v w = .ok b') :
      Made (.body b')
  | addLet {b b' : Body} {u v w : Value} (made : Made (.body b)) (name : Made (.operand u))
      (value : Made (.operand v)) (type : Made (.operand w)) (given : b.addLet u v w = .ok b') :
      Made (.body b')
  | addIf {b b' : Body} {v : Value} {yes : Body → Except Fault (Supplied Body)}
      (made : Made (.body b)) (condition : Made (.operand v))
      (returns : Body.Returns (fun c => Made (.body c)) yes) (given : b.addIf v yes = .ok b') :
      Made (.body b')
  | addIfElse {b b' : Body} {v : Value} {yes no : Body → Except Fault (Supplied Body)}
      (made : Made (.body b)) (condition : Made (.operand v))
      (returnsYes : Body.Returns (fun c => Made (.body c)) yes)
      (returnsNo : Body.Returns (fun c => Made (.body c)) no)
      (given : b.addIfElse v yes no = .ok b') : Made (.body b')
  | addForOf {b b' : Body} {v w : Value} {each : Body → Except Fault (Supplied Body)}
      (made : Made (.body b)) (name : Made (.operand v)) (collection : Made (.operand w))
      (returns : Body.Returns (fun c => Made (.body c)) each)
      (given : b.addForOf v w each = .ok b') : Made (.body b')
  | addForIn {b b' : Body} {v w : Value} {each : Body → Except Fault (Supplied Body)}
      (made : Made (.body b)) (name : Made (.operand v)) (collection : Made (.operand w))
      (returns : Body.Returns (fun c => Made (.body c)) each)
      (given : b.addForIn v w each = .ok b') : Made (.body b')
  | addFor {b b' : Body} {u v w : Value} {each : Body → Except Fault (Supplied Body)}
      (made : Made (.body b)) (start : Made (.operand u)) (condition : Made (.operand v))
      (step : Made (.operand w)) (returns : Body.Returns (fun c => Made (.body c)) each)
      (given : b.addFor u v w each = .ok b') : Made (.body b')
  | addWhile {b b' : Body} {v : Value} {each : Body → Except Fault (Supplied Body)}
      (made : Made (.body b)) (condition : Made (.operand v))
      (returns : Body.Returns (fun c => Made (.body c)) each) (given : b.addWhile v each = .ok b') :
      Made (.body b')
  | addTryCatch {b b' : Body} {v : Value} {attempt handler : Body → Except Fault (Supplied Body)}
      (made : Made (.body b)) (tried : Body.Returns (fun c => Made (.body c)) attempt)
      (name : Made (.operand v)) (handled : Body.Returns (fun c => Made (.body c)) handler)
      (given : b.addTryCatch attempt v handler = .ok b') : Made (.body b')
  | addTryCatchFinally {b b' : Body} {v : Value}
      {attempt handler last : Body → Except Fault (Supplied Body)} (made : Made (.body b))
      (tried : Body.Returns (fun c => Made (.body c)) attempt) (name : Made (.operand v))
      (handled : Body.Returns (fun c => Made (.body c)) handler)
      (ended : Body.Returns (fun c => Made (.body c)) last)
      (given : b.addTryCatchFinally attempt v handler last = .ok b') : Made (.body b')
  -- Arrow functions.
  | emptyArrow : Made (.arrow {})
  | arrowReturning {a a' : Arrow} {v : Value} (made : Made (.arrow a)) (type : Made (.operand v))
      (given : a.withReturnType v = .ok a') : Made (.arrow a')
  | arrowTypeParameter {a a' : Arrow} {v w : Value} (made : Made (.arrow a))
      (name : Made (.operand v)) (constraint : Made (.operand w))
      (given : a.addTypeParameter v w = .ok a') : Made (.arrow a')
  | arrowParameter {a : Arrow} {p : Parameter} (made : Made (.arrow a))
      (new : Made (.parameter p)) : Made (.arrow (a.addParameter (.good p)))
  | arrowExpression {a a' : Arrow} {v : Value} (made : Made (.arrow a)) (value : Made (.operand v))
      (given : a.withExpressionBody v = .ok a') : Made (.arrow a')
  | arrowBody {a a' : Arrow} {fill : Body → Except Fault (Supplied Body)} (made : Made (.arrow a))
      (returns : Body.Returns (fun c => Made (.body c)) fill) (given : a.withBody fill = .ok a') :
      Made (.arrow a')
  | markedArrow {a : Arrow} (made : Made (.arrow a)) (isAsync : Bool) :
      Made (.arrow { a with isAsync })
  -- Object literals.
  | emptyLiteral : Made (.literal {})
  | literalProperty {o o' : ObjectLiteral} {v w : Value} (made : Made (.literal o))
      (name : Made (.operand v)) (value : Made (.operand w))
      (given : o.addProperty v w = .ok o') : Made (.literal o')
  | literalShorthand {o o' : ObjectLiteral} {v : Value} (made : Made (.literal o))
      (name : Made (.operand v)) (given : o.addShorthand v = .ok o') : Made (.literal o')
  | literalComputed {o o' : ObjectLiteral} {v w : Value} (made : Made (.literal o))
      (key : Made (.operand v)) (value : Made (.operand w))
      (given : o.addComputed v w = .ok o') : Made (.literal o')
  | literalSpread {o o' : ObjectLiteral} {v : Value} (made : Made (.literal o))
      (source : Made (.operand v)) (given : o.addSpread v = .ok o') : Made (.literal o')
  | literalMethod {o o' : ObjectLiteral} {v : Value}
      {configure : Method → Except Fault (Supplied Method)} (made : Made (.literal o))
      (configured : ∀ d new, Method.ofValue v = .ok d → configure d = .ok (.good new) →
        Made (.method new))
      (given : o.addMethod v configure = .ok o') : Made (.literal o')
  -- Fields.
  | field {f : Field} {v w : Value} (name : Made (.operand v)) (type : Made (.operand w))
      (given : Field.ofValues v w = .ok f) : Made (.field f)
  | fieldInitializer {f f' : Field} {v : Value} (made : Made (.field f))
      (value : Made (.operand v)) (given : f.withInitializer v = .ok f') : Made (.field f')
  | markedField {f : Field} (made : Made (.field f)) {access : Supplied Access}
      (keyword : Access.Balanced access)
      (isReadonly isStatic isOptional isHashPrivate isDeclare isOverride isAbstract : Bool) :
      Made (.field { f with
        access, isReadonly, isStatic, isOptional, isHashPrivate, isDeclare, isOverride,
        isAbstract })
  -- Properties.
  | property {p : Property} {v w : Value} (name : Made (.operand v)) (type : Made (.operand w))
      (given : Property.ofValues v w = .ok p) : Made (.property p)
  | propertyInitializer {p p' : Property} {v : Value} (made : Made (.property p))
      (value : Made (.operand v)) (given : p.withInitializer v = .ok p') : Made (.property p')
  | getterExpression {p p' : Property} {v : Value} (made : Made (.property p))
      (value : Made (.operand v)) (given : p.withGetterExpression v = .ok p') : Made (.property p')
  | getterBody {p p' : Property} {fill : Body → Except Fault (Supplied Body)}
      (made : Made (.property p)) (returns : Body.Returns (fun c => Made (.body c)) fill)
      (given : p.withGetterBody fill = .ok p') : Made (.property p')
  | setter {p p' : Property} {fill : Body → Except Fault (Supplied Body)}
      (made : Made (.property p)) (returns : Body.Returns (fun c => Made (.body c)) fill)
      (given : p.withSetter fill = .ok p') : Made (.property p')
  | markedProperty {p : Property} (made : Made (.property p)) {access : Supplied Access}
      (keyword : Access.Balanced access)
      (isReadonly isOptional isStatic isAbstract isOverride : Bool) :
      Made (.property { p with access, isReadonly, isOptional, isStatic, isAbstract, isOverride })
  -- Methods.
  | method {d : Method} {v : Value} (name : Made (.operand v))
      (given : Method.ofValue v = .ok d) : Made (.method d)
  | methodReturning {d d' : Method} {v : Value} (made : Made (.method d))
      (type : Made (.operand v)) (given : d.withReturnType v = .ok d') : Made (.method d')
  | methodExpression {d d' : Method} {v : Value} (made : Made (.method d))
      (value : Made (.operand v)) (given : d.withExpressionBody v = .ok d') : Made (.method d')
  | methodTypeParameter {d d' : Method} {v w : Value} (made : Made (.method d))
      (name : Made (.operand v)) (constraint : Made (.operand w))
      (given : d.addTypeParameter v w = .ok d') : Made (.method d')
  | methodParameter {d : Method} {p : Parameter} (made : Made (.method d))
      (new : Made (.parameter p)) : Made (.method (d.addParameter (.good p)))
  | methodOverload {d : Method} {v : Value} (made : Made (.method d)) (new : Made (.operand v)) :
      Made (.method (d.addOverload v))
  | methodDecorator {d : Method} {v : Value} (made : Made (.method d)) (new : Made (.operand v)) :
      Made (.method (d.withDecorator v))
  | methodBody {d d' : Method} {fill : Body → Except Fault (Supplied Body)}
      (made : Made (.method d)) (returns : Body.Returns (fun c => Made (.body c)) fill)
      (given : d.withBody fill = .ok d') : Made (.method d')
  | markedMethod {d : Method} (made : Made (.method d)) {access : Supplied Access}
      (keyword : Access.Balanced access)
      (isStatic isAsync isAbstract isOverride isGenerator isOptional : Bool) :
      Made (.method { d with
        access, isStatic, isAsync, isAbstract, isOverride, isGenerator, isOptional })
  -- Constructors.
  | emptyConstructor : Made (.constructor {})
  | constructorParameter {c : Constructor} {p : Parameter} (made : Made (.constructor c))
      (new : Made (.parameter p)) : Made (.constructor (c.addParameter (.good p)))
  | callsSuper {c c' : Constructor} {vs : List Value} (made : Made (.constructor c))
      (operands : ∀ w ∈ vs, Made (.operand w)) (given : c.callsSuper vs = .ok c') :
      Made (.constructor c')
  | constructorOverload {c : Constructor} {v : Value} (made : Made (.constructor c))
      (new : Made (.operand v)) : Made (.constructor (c.addOverload v))
  | constructorBody {c c' : Constructor} {fill : Body → Except Fault (Supplied Body)}
      (made : Made (.constructor c)) (returns : Body.Returns (fun c => Made (.body c)) fill)
      (given : c.withBody fill = .ok c') : Made (.constructor c')
  | markedConstructor {c : Constructor} (made : Made (.constructor c)) {access : Supplied Access}
      (keyword : Access.Balanced access) : Made (.constructor { c with access })
  -- Declarations.
  | declaration {v : Value} (kind : Kind) (name : Made (.operand v)) :
      Made (.declaration (.ofKind kind v))
  | typeAlias {d : Declaration} {v w : Value} (name : Made (.operand v))
      (definition : Made (.operand w)) (given : Declaration.typeAlias v w = .ok d) :
      Made (.declaration d)
  | decorator {d : Declaration} {v : Value} (made : Made (.declaration d))
      (new : Made (.operand v)) : Made (.declaration (d.withDecorator v))
  | doc {d : Declaration} {v : Value} (made : Made (.declaration d)) (text : Made (.operand v)) :
      Made (.declaration (d.withDoc v))
  | typeParameter {d d' : Declaration} {v w : Value} (made : Made (.declaration d))
      (name : Made (.operand v)) (constraint : Made (.operand w))
      (given : d.addTypeParameter v w = .ok d') : Made (.declaration d')
  | base {d d' : Declaration} {v : Value} (made : Made (.declaration d))
      (type : Made (.operand v)) (given : d.addBase v = .ok d') : Made (.declaration d')
  | interfaces {d d' : Declaration} {vs : List Value} (made : Made (.declaration d))
      (names : ∀ w ∈ vs, Made (.operand w)) (given : d.addInterfaces vs = .ok d') :
      Made (.declaration d')
  | addField {d : Declaration} {f : Field} (made : Made (.declaration d)) (new : Made (.field f)) :
      Made (.declaration (d.addField (.good f)))
  | addProperty {d : Declaration} {p : Property} (made : Made (.declaration d))
      (new : Made (.property p)) : Made (.declaration (d.addProperty (.good p)))
  | addMethod {d : Declaration} {m : Method} (made : Made (.declaration d))
      (new : Made (.method m)) : Made (.declaration (d.addMethod (.good m)))
  | addConstructor {d : Declaration} {c : Constructor} (made : Made (.declaration d))
      (new : Made (.constructor c)) : Made (.declaration (d.addConstructor (.good c)))
  | indexSignature {d d' : Declaration} {u v w : Value} (made : Made (.declaration d))
      (keyName : Made (.operand u)) (keyType : Made (.operand v)) (valueType : Made (.operand w))
      (given : d.addIndexSignature u v w = .ok d') : Made (.declaration d')
  | addNested {d n : Declaration} (made : Made (.declaration d)) (new : Made (.declaration n)) :
      Made (.declaration (d.addNested (.good n)))
  | enumMember {d d' : Declaration} {v w : Value} (made : Made (.declaration d))
      (name : Made (.operand v)) (value : Made (.operand w))
      (given : d.addEnumMember v w = .ok d') : Made (.declaration d')
  | addImport {d : Declaration} {v : Value} (made : Made (.declaration d))
      (line : Made (.operand v)) : Made (.declaration (d.addImport v))
  | markedDeclaration {d : Declaration} (made : Made (.declaration d))
      (isExported isDefaultExport isAbstract isDeclare : Bool) :
      Made (.declaration { d with isExported, isDefaultExport, isAbstract, isDeclare })

def Product.Balanced : Product → Prop
  | .operand v => v.Balanced
  | .expression e => e.Balanced
  | .type t => t.Balanced
  | .parameter p => p.Balanced
  | .body b => b.Balanced
  | .arrow a => a.Balanced
  | .literal o => o.Balanced
  | .field f => f.Balanced
  | .property p => p.Balanced
  | .method d => d.Balanced
  | .constructor c => c.Balanced
  | .declaration d => d.Balanced

theorem Made.balanced {x : Product} (made : Made x) : x.Balanced := by
  induction made with
  | supplied balanced => exact balanced
  | shownExpression _ balanced => exact .pure balanced
  | shownType _ balanced => exact TypeExpr.balanced_describe balanced
  | shownArrow _ balanced => exact .map balanced.build fun _ shown => shown
  | shownLiteral _ balanced => exact .pure balanced.build
  | plainExpression balanced => exact balanced
  | expressionOf _ given operand => exact Expression.balanced_ofValue operand _ given
  | call _ _ _ given balanced method operands =>
    exact Expression.Balanced.calledBy balanced (by decide) method operands _ given
  | optionalCall _ _ _ given balanced method operands =>
    exact Expression.Balanced.calledBy balanced (by decide) method operands _ given
  | invoke _ _ given balanced operands =>
    exact Expression.Balanced.invoke balanced operands _ given
  | memberOf _ _ given balanced name =>
    exact Expression.Balanced.followedBy balanced (by decide) name _ given
  | optionalMember _ _ given balanced name =>
    exact Expression.Balanced.followedBy balanced (by decide) name _ given
  | index _ _ given balanced key => exact Expression.Balanced.index balanced key _ given
  | optionalIndex _ _ given balanced key =>
    exact Expression.Balanced.optionalIndex balanced key _ given
  | binary sign _ _ given balanced operand =>
    exact Expression.Balanced.binary balanced sign operand _ given
  | unary form _ balanced => exact Expression.Balanced.unary balanced form
  | template _ _ _ given balanced before behind =>
    exact Expression.Balanced.template balanced before behind _ given
  | newInstance _ _ given balanced operands =>
    exact TypeExpr.Balanced.new balanced operands _ given
  | staticSide _ balanced => exact balanced
  | builtArrow _ given balanced => exact balanced.build _ given
  | builtLiteral _ balanced => exact balanced.build
  | plainType balanced => exact balanced
  | typeOf _ given operand => exact TypeExpr.balanced_ofValue operand _ given
  | apply _ _ given balanced operands => exact TypeExpr.Balanced.apply balanced operands _ given
  | union _ given operands => exact TypeExpr.balanced_union operands _ given
  | intersection _ given operands => exact TypeExpr.balanced_intersection operands _ given
  | tuple _ given operands => exact TypeExpr.balanced_tuple operands _ given
  | namedTuple _ _ given types names => exact TypeExpr.balanced_namedTuple types names _ given
  | literalType _ given operand => exact TypeExpr.balanced_literal operand _ given
  | plainLiteral _ given operand => exact TypeExpr.balanced_plainLiteral operand _ given
  | unaryType form _ balanced => exact TypeExpr.Balanced.unary balanced form
  | annotated balanced given => exact Annotation.balanced_toType _ balanced _ given
  | typeOfValue _ given operand => exact Annotation.balanced_typeOfValue operand _ given
  | parameter _ _ given name type => exact Parameter.balanced_ofValues name type _ given
  | withDefault _ _ given balanced value => exact balanced.withDefault value _ given
  | markedParameter _ keyword _ _ _ balanced => exact { balanced with access := keyword }
  | emptyBody => exact Body.balanced_empty
  | addStatement _ _ given balanced operand => exact balanced.addStatement operand _ given
  | addStatements _ _ given balanced operands => exact balanced.addStatements operands _ given
  | addReturn _ _ given balanced operand => exact balanced.addReturn operand _ given
  | addThrow _ _ given balanced operand => exact balanced.addThrow operand _ given
  | addComment _ _ given balanced operand => exact balanced.addComment operand _ given
  | addConst _ _ _ _ given balanced name value type =>
    exact balanced.addVariable (by decide) name value type _ given
  | addLet _ _ _ _ given balanced name value type =>
    exact balanced.addVariable (by decide) name value type _ given
  | addIf _ _ _ given balanced condition returns =>
    exact balanced.addIf condition returns _ given
  | addIfElse _ _ _ _ given balanced condition returnsYes returnsNo =>
    exact balanced.addIfElse condition returnsYes returnsNo _ given
  | addForOf _ _ _ _ given balanced name collection returns =>
    exact balanced.addForEach (by decide) name collection returns _ given
  | addForIn _ _ _ _ given balanced name collection returns =>
    exact balanced.addForEach (by decide) name collection returns _ given
  | addFor _ _ _ _ _ given balanced start condition step returns =>
    exact balanced.addFor start condition step returns _ given
  | addWhile _ _ _ given balanced condition returns =>
    exact balanced.addWhile condition returns _ given
  | addTryCatch _ _ _ _ given balanced tried name handled =>
    exact balanced.addTryCatch tried name handled _ given
  | addTryCatchFinally _ _ _ _ _ given balanced tried name handled ended =>
    exact balanced.addTryCatchFinally tried name handled ended _ given
  | emptyArrow => exact Arrow.balanced_empty
  | arrowReturning _ _ given balanced type => exact balanced.withReturnType type _ given
  | arrowTypeParameter _ _ _ given balanced name constraint =>
    exact balanced.addTypeParameter name constraint _ given
  | arrowParameter _ _ balanced new => exact balanced.addParameter new
  | arrowExpression _ _ given balanced value => exact balanced.withExpressionBody value _ given
  | arrowBody _ _ given balanced returns => exact balanced.withBody returns _ given
  | markedArrow _ _ balanced => exact { balanced with }
  | emptyLiteral => exact ObjectLiteral.balanced_empty
  | literalProperty _ _ _ given balanced name value =>
    exact balanced.addProperty name value _ given
  | literalShorthand _ _ given balanced name => exact balanced.addShorthand name _ given
  | literalComputed _ _ _ given balanced key value => exact balanced.addComputed key value _ given
  | literalSpread _ _ given balanced source => exact balanced.addSpread source _ given
  | literalMethod _ _ given balanced configured => exact balanced.addMethod configured _ given
  | field _ _ given name type => exact Field.balanced_ofValues name type _ given
  | fieldInitializer _ _ given balanced value => exact balanced.withInitializer value _ given
  | markedField _ keyword _ _ _ _ _ _ _ balanced => exact { balanced with access := keyword }
  | property _ _ given name type => exact Property.balanced_ofValues name type _ given
  | propertyInitializer _ _ given balanced value => exact balanced.withInitializer value _ given
  | getterExpression _ _ given balanced value =>
    exact balanced.withGetterExpression value _ given
  | getterBody _ _ given balanced returns => exact balanced.withGetterBody returns _ given
  | setter _ _ given balanced returns => exact balanced.withSetter returns _ given
  | markedProperty _ keyword _ _ _ _ _ balanced => exact { balanced with access := keyword }
  | method _ given name => exact Method.balanced_ofValue name _ given
  | methodReturning _ _ given balanced type => exact balanced.withReturnType type _ given
  | methodExpression _ _ given balanced value => exact balanced.withExpressionBody value _ given
  | methodTypeParameter _ _ _ given balanced name constraint =>
    exact balanced.addTypeParameter name constraint _ given
  | methodParameter _ _ balanced new => exact balanced.addParameter new
  | methodOverload _ _ balanced new => exact balanced.addOverload new
  | methodDecorator _ _ balanced new => exact balanced.withDecorator new
  | methodBody _ _ given balanced returns => exact balanced.withBody returns _ given
  | markedMethod _ keyword _ _ _ _ _ _ balanced => exact { balanced with access := keyword }
  | emptyConstructor => exact Constructor.balanced_empty
  | constructorParameter _ _ balanced new => exact balanced.addParameter new
  | callsSuper _ _ given balanced operands => exact balanced.callsSuper operands _ given
  | constructorOverload _ _ balanced new => exact balanced.addOverload new
  | constructorBody _ _ given balanced returns => exact balanced.withBody returns _ given
  | markedConstructor _ keyword balanced => exact { balanced with access := keyword }
  | declaration kind _ name => exact Declaration.balanced_ofKind kind name
  | typeAlias _ _ given name definition =>
    exact Declaration.balanced_typeAlias name definition _ given
  | decorator _ _ balanced new => exact balanced.withDecorator new
  | doc _ _ balanced text => exact balanced.withDoc text
  | typeParameter _ _ _ given balanced name constraint =>
    exact balanced.addTypeParameter name constraint _ given
  | base _ _ given balanced type => exact balanced.addBase type _ given
  | interfaces _ _ given balanced names => exact balanced.addInterfaces names _ given
  | addField _ _ balanced new => exact balanced.addField new
  | addProperty _ _ balanced new => exact balanced.addProperty new
  | addMethod _ _ balanced new => exact balanced.addMethod new
  | addConstructor _ _ balanced new => exact balanced.addConstructor new
  | indexSignature _ _ _ _ given balanced keyName keyType valueType =>
    exact balanced.addIndexSignature keyName keyType valueType _ given
  | addNested _ _ balanced new => exact balanced.addNested new
  | enumMember _ _ _ given balanced name value => exact balanced.addEnumMember name value _ given
  | addImport _ _ balanced line => exact balanced.addImport line
  | markedDeclaration _ _ _ _ _ balanced => exact balanced.change { balanced.surface with }

end TypeScriptGen
