import TypeScriptGen.Annotation.Printer

/-!
Annotations applied to arguments, and alternatives of annotations. A class or a `typing` form takes
its arguments once; what comes of it takes more only for the type variables that are left in it, as
many as there are and in the order in which they first occur.
-/

set_option autoImplicit false
set_option relaxedAutoImplicit false

namespace TypeScriptGen.Annotation

mutual

/-- The type variables in an annotation, by serial number, as often as they occur. -/
def typeVariables : Annotation → List Nat
  | .typeVariable serial _ => [serial]
  | .applied _ _ arguments => typeVariablesOfAll arguments
  | .union _ members => typeVariablesOfAll members
  | .parameters types => typeVariablesOfAll types
  | _ => []

def typeVariablesOfAll : List Annotation → List Nat
  | [] => []
  | a :: rest => typeVariables a ++ typeVariablesOfAll rest

end

/-- The arguments of a callable: parameter types that are a lone ellipsis or list are that. -/
def callableArguments : List Annotation → List Annotation
  | [.parameters [.ellipsis], result] => [.ellipsis, result]
  | [.parameters [.parameters types], result] => [.parameters types, result]
  | arguments => arguments

/-- A class applied to arguments in a spelling; metadata of the first argument is collected. -/
def rebuilt (spelling : Spelling) (c : ClassRef) (arguments : List Annotation) : Annotation :=
  if c == annotatedClass then annotated (arguments.headD .none) (arguments.drop 1)
  else if c == callableClass then .applied spelling c (callableArguments arguments)
  else .applied spelling c arguments

mutual

/-- The annotation with others in the place of type variables. Unions are put together anew. -/
def substitute (given : List (Nat × Annotation)) : Annotation → Annotation
  | .typeVariable serial name =>
    match given.find? (·.1 == serial) with
    | some (_, a) => deferredOnce a
    | Option.none => .typeVariable serial name
  | .applied spelling c arguments => rebuilt spelling c (substituteAll given arguments)
  | .union spelling members => unionOf spelling (substituteAll given members)
  | .parameters types => .parameters (substituteAll given types)
  | a => a

/-- The annotations with others in the place of type variables. -/
def substituteAll (given : List (Nat × Annotation)) : List Annotation → List Annotation
  | [] => []
  | a :: rest => substitute given a :: substituteAll given rest

end

/-- Put arguments in the place of the type variables that are left. -/
def specialize (a : Annotation) (arguments : List Annotation) : Except Fault Annotation :=
  let left := a.typeVariables.eraseDups
  if left.isEmpty then .error (.mistyped (.notGeneric a.shortText))
  else if arguments.length != left.length then
    .error (.mistyped (.typeArguments a.shortText arguments.length left.length))
  else .ok (a.substitute (left.zip arguments))

def isGenericClass (c : ClassRef) : Bool :=
  match c.home with
  | .program _ => false
  | .collections => c.name != "Hashable" && c.name != "Sized"
  | .builtin =>
    ["list", "tuple", "set", "frozenset", "dict", "type", "deque", "defaultdict", "OrderedDict",
      "Counter", "ChainMap"].contains c.name

def plainText : Annotation → String
  | .text s => s
  | a => a.toText

/-- A class applied to arguments, which stay as they are. A callable takes a list of parameter types
or an ellipsis, and a result. -/
def applyClass (c : ClassRef) (arguments : List Annotation) : Except Fault Annotation :=
  if !isGenericClass c then .error (.mistyped (.classSubscript c.typeText))
  else if c != callableClass then .ok (.applied .direct c arguments)
  else match arguments with
    | [.parameters _, _] => .ok (.applied .direct c (callableArguments arguments))
    | [.ellipsis, _] => .ok (.applied .direct c arguments)
    | [a, _] => .error (.mistyped (.parameterTypes a.plainText))
    | _ => .error (.mistyped .callableForm)

/-- The number of arguments of a `typing` form, unless it takes any number. -/
def formArity (form : String) : Option Nat :=
  if ["", "Tuple"].contains form then Option.none
  else if ["Hashable", "Sized", "ByteString"].contains form then some 0
  else if ["Coroutine", "Generator"].contains form then some 3
  else if ["Dict", "DefaultDict", "OrderedDict", "ChainMap", "Mapping", "MutableMapping",
    "ItemsView", "AsyncGenerator"].contains form then some 2
  else some 1

/-- A `typing` form applied to arguments. What a callable is given instead of a list of parameter
types is the only one. -/
def applyForm (form : String) (c : ClassRef) (arguments : List Annotation) :
    Except Fault Annotation :=
  let shown := headText c (.typing form)
  let deferredArguments := arguments.map deferred
  if c == callableClass then
    match deferredArguments with
    | [.ellipsis, _] => .ok (.applied (.typing form) c deferredArguments)
    | [.parameters _, _] => .ok (.applied (.typing form) c (callableArguments deferredArguments))
    | [a, result] => .ok (.applied (.typing form) c [.parameters [a], result])
    | _ => .error (.mistyped .callableForm)
  else match formArity form with
    | some 0 => .error (.mistyped (.notGeneric shown))
    | some n =>
      if arguments.length == n then .ok (.applied (.typing form) c deferredArguments)
      else .error (.mistyped (.typeArguments shown arguments.length n))
    | Option.none => .ok (.applied (.typing form) c deferredArguments)

def keyType : List Annotation → String
  | [a] => a.typeName
  | _ => "tuple"

def subscript (base : Annotation) (arguments : List Annotation) : Except Fault Annotation :=
  match base with
  | .any => .error (.mistyped (.classSubscript "Any"))
  | .ofClass c => applyClass c arguments
  | .bare form c => applyForm form c arguments
  | .applied _ _ _ => base.specialize arguments
  | .union _ _ => base.specialize arguments
  | .literal _ => base.specialize arguments
  | .text _ => .error (.mistyped (.itemKey "str" (keyType arguments)))
  | .parameters _ => .error (.mistyped (.itemKey "list" (keyType arguments)))
  | a => .error (.mistyped (.subscript a.typeName))

/-- A callable with a result, whose parameter types are given or left open by an ellipsis. -/
def callable (parameters result : Annotation) : Except Fault Annotation :=
  applyForm callableClass.name callableClass [parameters, result]

/-- The annotation can be a member of a union that the classes themselves put together. -/
def isClassLike : Annotation → Bool
  | .none => true
  | .any => true
  | .ofClass _ => true
  | .applied .direct _ _ => true
  | .union .direct _ => true
  | _ => false

def isNone : Annotation → Bool
  | .none => true
  | _ => false

/-- One annotation or the other. A `typing` form takes any other annotation beside it; classes take
classes and nothing. -/
def either (a b : Annotation) : Except Fault Annotation :=
  if isTyping a || isTyping b then .ok (typingUnion [a, b])
  else if isClassLike a && isClassLike b && !(a.isNone && b.isNone) then
    .ok (unionOf .direct [a, b])
  else .error (.mistyped (.alternative a.typeName b.typeName))

end TypeScriptGen.Annotation
