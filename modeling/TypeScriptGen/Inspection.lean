import TypeScriptGen.Declaration.Access
import TypeScriptGen.Diagnostic
import TypeScriptGen.Settings

/-!
Inspection: what an object says about itself beyond its features. Every object has a type, types of
the library have a module and a sentence about them, and operations can be shown without being
carried out.
-/

set_option autoImplicit false
set_option relaxedAutoImplicit false

namespace TypeScriptGen

/-- What is known of a type: the module it belongs to, a sentence about it, the operations of its
objects and those of the type itself. -/
structure TypeNote where
  home : String
  about : Option String := Option.none
  operations : List String := []
  ofType : List String := []
deriving Repr

namespace TypeNote

def words (s : String) : List String := Text.splitAtChar ' ' s

def find? : String → Option TypeNote
  | "EmitOptions" => some {
      home := "tsemit.emit.options"
      about := some "Rendering and post-processing settings for a single emit call."
      operations := words "with_"
      ofType := words "default from_config" }
  | "TypeBuilder" => some {
      home := "tsemit.emit.type_builder"
      about := some "Immutable description of one TypeScript type declaration."
      operations := words
        ("exported default_exported as_abstract as_declare with_decorator with_js_doc " ++
          "add_type_parameter extends implements add_field add_property add_method " ++
          "add_constructor add_index_signature add_nested_type add_enum_member " ++
          "add_import emit")
      ofType := words "class_ interface type_alias enum const_enum" }
  | "FieldBuilder" => some {
      home := "tsemit.emit.field"
      about := some "A field declaration such as ``private readonly id: string = '';``."
      operations := words
        ("with_accessibility as_readonly as_static as_optional as_es_private " ++
          "as_declare as_override as_abstract with_initializer")
      ofType := words "for_" }
  | "PropertyBuilder" => some {
      home := "tsemit.emit.property"
      about := some "A class or interface property with optional accessors."
      operations := words
        ("with_accessibility as_readonly as_optional as_static as_abstract as_override " ++
          "with_getter with_setter with_initializer")
      ofType := words "for_" }
  | "MethodBuilder" => some {
      home := "tsemit.emit.method"
      about := some "A method declaration with either a block body or an expression body."
      operations := words
        ("with_return_type with_accessibility as_static as_async as_abstract " ++
          "as_override as_generator as_optional add_type_parameter add_parameter " ++
          "with_body with_expression_body add_overload_signature with_decorator")
      ofType := words "for_" }
  | "ParameterBuilder" => some {
      home := "tsemit.emit.parameter"
      about := some "A single parameter: name, type annotation and modifiers."
      operations := words
        ("with_default_value as_optional as_rest as_parameter_property " ++
          "as_readonly_parameter_property")
      ofType := words "for_" }
  | "ConstructorBuilder" => some {
      home := "tsemit.emit.constructor"
      about := some "A class constructor with optional ``super(...)`` call and body."
      operations := words
        ("with_accessibility add_parameter with_body calls_super " ++
          "add_overload_signature")
      ofType := words "create" }
  | "BodyBuilder" => some {
      home := "tsemit.emit.body"
      about := some "Immutable sequence of statements for a method, accessor or block."
      operations := words
        ("add_statement add_statements add_return add_throw add_comment add_if " ++
          "add_if_else add_for_of add_for_in add_for add_while add_try_catch " ++
          "add_try_catch_finally add_const add_let")
      ofType := words "empty" }
  | "ArrowFunctionBuilder" => some {
      home := "tsemit.emit.arrow_function"
      about := some "Builds ``[async ][<T>](params)[: R] => body`` expressions."
      operations := words
        ("as_async with_return_type add_type_parameter add_parameter " ++
          "with_expression_body with_body build")
      ofType := words "create" }
  | "ObjectLiteralBuilder" => some {
      home := "tsemit.emit.object_literal"
      about := some "Immutable builder for ``\x7b ... \x7d`` object literal expressions."
      operations := words
        ("add_property add_shorthand add_computed_property add_spread add_method build")
      ofType := words "create" }
  | "ObjectEntry" => some {
      home := "tsemit.emit.object_literal"
      operations := words "render" }
  | "ExpressionRef" => some {
      home := "tsemit.refs.expression_ref"
      about := some "A TypeScript expression such as ``user?.name ?? 'anonymous'``."
      operations := words
        ("call invoke member index optional_chain optional_call optional_index " ++
          "nullish_coalesce non_null as_ satisfies type_of instance_of await_ spread " ++
          "template_literal parenthesize strict_equals strict_not_equals and_ or_ not_")
      ofType := words "from_" }
  | "TypeRef" => some {
      home := "tsemit.refs.type_ref"
      about := some "A TypeScript type such as ``Record<string, number[]>``."
      operations := words
        ("of array nullable optional nullable_optional readonly parenthesize key_of " ++
          "type_of new member call")
      ofType := words
        ("from_ union intersection tuple_ named_tuple literal numeric_literal " ++
          "template_literal from_python") }
  | "Diagnostic" => some {
      home := "tsemit.emit.diagnostics"
      about := some "A single emit or validation message."
      ofType := words "error warning info parse" }
  | "OptionalEmit" => some {
      home := "tsemit.emit.result"
      about := some "Unconfirmed emit result."
      operations := words "validate_or_throw try_validate" }
  | "ValidEmit" => some {
      home := "tsemit.emit.result"
      about := some "Confirmed emit result. Only produced by OptionalEmit." }
  | "ToolResult" => some {
      home := "tsemit.compiler.tsc_utils"
      about := some "Outcome of one external tool run. ``output`` is stdout and stderr joined." }
  | "TypeKind" => some {
      home := "tsemit.emit.kinds"
      about := some "Kind of top-level or nested TypeScript declaration." }
  | "Accessibility" => some {
      home := "tsemit.emit.kinds"
      about := some "Member accessibility keyword. NONE renders no keyword." }
  | "ValidationLevel" => some {
      home := "tsemit.emit.kinds"
      about := some "Level of validation to perform after rendering."
      ofType := words "parse" }
  | "Severity" => some {
      home := "tsemit.emit.diagnostics"
      about := some "Diagnostic severity. NONE marks unclassified compiler output." }
  | "EntryKind" => some { home := "tsemit.emit.object_literal" }
  | "EmitConfig" => some {
      home := "tsemit.utils.config"
      about := some "Rendering configuration." }
  | "ValidationConfig" => some {
      home := "tsemit.utils.config"
      about := some "Compiler validation configuration." }
  | "LoggingConfig" => some {
      home := "tsemit.utils.config"
      about := some "Logging configuration." }
  | "TsEmitConfig" => some { home := "tsemit.utils.config" }
  | "TsEmitError" => some { home := "tsemit.utils.exceptions" }
  | "BuilderError" => some { home := "tsemit.utils.exceptions" }
  | "EmitValidationError" => some {
      home := "tsemit.utils.exceptions"
      operations := words "get_errors" }
  | "CompilationError" => some {
      home := "tsemit.utils.exceptions"
      operations := words "get_compiler_errors" }
  | "ToolNotFoundError" => some { home := "tsemit.utils.exceptions" }
  | "EmitLogger" => some { home := "tsemit.utils.logging" }
  | "DprintFormatter" => some {
      home := "tsemit.compiler.formatter"
      about := some "Formats with ``dprint fmt --stdin ts`` and the TypeScript plugin." }
  | "PrettierFormatter" => some {
      home := "tsemit.compiler.formatter"
      about := some "Formats with prettier run through ``npx``." }
  | "ChainFormatter" => some {
      home := "tsemit.compiler.formatter"
      about := some "Tries each formatter in turn and keeps the first result." }
  | "TscEnvironment" => some {
      home := "tsemit.compiler.tsc_utils"
      about := some "Resolves and checks the TypeScript compiler command." }
  | "TscValidator" => some {
      home := "tsemit.compiler.validator"
      about := some "Checker backed by the TypeScript compiler." }
  | "ABCMeta" => some { home := "abc" }
  | "EnumType" => some { home := "enum" }
  | "Logger" => some { home := "logging" }
  | "PosixPath" => some { home := "pathlib" }
  | _ => Option.none

def plainTypes : List String :=
  ["NoneType", "bool", "int", "float", "str", "tuple", "list", "dict", "type", "method"]

end TypeNote

namespace Value

def membersOf : String → List Value
  | "ValidationLevel" => [Level.unchecked, .compiled].map Level.describe
  | "Severity" => [Severity.error, .warning, .note].map Severity.describe
  | "Accessibility" =>
    [Access.unmarked, .markedPublic, .markedPrivate, .markedProtected].map Access.describe
  | "TypeKind" =>
    [Kind.classDecl, .interfaceDecl, .typeAlias, .enumDecl, .constEnum].map Kind.describe
  | _ => []

def memberName : Value → String
  | .member _ name _ => name
  | _ => ""

def memberOf? (type name : String) : Option Value :=
  (membersOf type).find? (·.memberName == name)

def operation (type name : String) (owner : Value) : Value :=
  let full := type ++ "." ++ name
  let form := "<bound method " ++ full ++ " of " ++ owner.quoted ++ ">"
  .entity "method" (ownerOf "function")
    [("__name__", .ok (.text name)), ("__qualname__", .ok (.text full)), ("__self__", .ok owner)]
    (.ok form) form

/-- The fields of a type whose objects can be made without stating any, as they are then. -/
def defaultsOf : String → List (String × Value)
  | "EmitOptions" => ({} : Settings).fields ++ [("checker", .none), ("formatter", .none)]
  | _ => []

/-- A type with some features under inspection. In messages about an enumeration only the feature is
named. -/
def typeWith (type home : String) (features : List (String × Value)) : Value :=
  let isEnumeration := !(membersOf type).isEmpty
  let full := if home == "builtins" then type else home ++ "." ++ type
  let form := if isEnumeration then "<enum '" ++ type ++ "'>" else "<class '" ++ full ++ "'>"
  .entity (if isEnumeration then "EnumType" else "type")
    (if isEnumeration then "" else "type object '" ++ type ++ "'")
    (features.map fun (name, v) => (name, .ok v)) (.ok form) form

/-- A type under inspection: its names, what is known of it, the members of an enumeration, and the
operations of the type itself. -/
def typeObject (type : String) (note : TypeNote) : Value :=
  let facts : List (String × Value) :=
    [("__name__", .text type), ("__qualname__", .text type), ("__module__", .text note.home)] ++
      (note.about.toList.map fun s => ("__doc__", .text s)) ++
      (membersOf type).map (fun m => (m.memberName, m)) ++ defaultsOf type
  typeWith type note.home
    (facts ++ note.ofType.map fun name =>
      (name, operation type name (typeWith type note.home facts)))

def typeObject? (type : String) : Option Value :=
  match TypeNote.find? type with
  | some note => some (typeObject type note)
  | Option.none =>
    if TypeNote.plainTypes.contains type then some (typeObject type { home := "builtins" })
    else Option.none

/-- What only some values say about themselves: objects made of fields, members of enumerations, and
sequences that cannot be keys. -/
def ownFact? : Value → String → Option Value
  | .list _, "__hash__" => some .none
  | .dict _, "__hash__" => some .none
  | .record _ fields _ _, "__dict__" => some (dictOf fields)
  | .record _ fields _ _, "__match_args__" => some (texts (fields.map Prod.fst))
  | .member type name content, fact =>
    let index := ((membersOf type).findIdx? (·.memberName == name)).getD 0
    let facts := [("_value_", .text content), ("_name_", .text name)] ++
      (typeObject? type).toList.map (fun t => ("__objclass__", t)) ++
      [("_sort_order_", .int index)]
    if fact == "__dict__" then some (dictOf facts)
    else ((facts.find? (·.1 == fact)).map Prod.snd).orElse fun _ => memberOf? type fact
  | _, _ => Option.none

/-- What the type of an object adds to its features: the type itself, what is known of it, and
operations. -/
def typeFact? (v : Value) (fact : String) : Option Value :=
  let type := v.typeName
  if fact == "__class__" then typeObject? type
  else (TypeNote.find? type).bind fun note =>
    if fact == "__module__" then some (.text note.home)
    else if fact == "__doc__" then note.about.map .text
    else if note.operations.contains fact then some (operation type fact v)
    else if note.ofType.contains fact then (typeObject? type).map (operation type fact)
    else Option.none

/-- A feature of an object, or what else it says about itself under the name. -/
def inspect (v : Value) (name : String) : Except Fault Value :=
  match v.feature? name, (v.ownFact? name).orElse fun _ => v.typeFact? name with
  | some found, _ => found
  | Option.none, some found => .ok found
  | Option.none, Option.none => .error (v.lack name)

end Value

end TypeScriptGen
