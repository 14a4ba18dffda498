import TypeScriptGen.Annotation

/-!
The text of annotations, and what they are as values: a class is shown by its name and module, a
form by the way it was put together.
-/

set_option autoImplicit false
set_option relaxedAutoImplicit false

namespace TypeScriptGen

namespace ClassRef

def moduleName (c : ClassRef) : Option String :=
  match c.home with
  | .program _ => some "__main__"
  | .collections => some "collections.abc"
  | .builtin =>
    if ["timedelta", "datetime", "date"].contains c.name then some "datetime"
    else if c.name == "Decimal" then some "decimal"
    else if c.name == "UUID" then some "uuid"
    else if ["deque", "defaultdict", "OrderedDict", "Counter", "ChainMap"].contains c.name then
      some "collections"
    else none

def fullName (c : ClassRef) : String :=
  match c.moduleName with
  | some m => m ++ "." ++ c.name
  | none => c.name

/-- The name of a class in messages. Built-in classes of a module are named behind it, apart from
those that are put together from others. -/
def typeText (c : ClassRef) : String :=
  if c.home != .builtin || ["UUID", "Counter", "ChainMap"].contains c.name then c.name
  else c.fullName

def owner (c : ClassRef) : String := "type object '" ++ c.typeText ++ "'"

end ClassRef

def LiteralValue.quoted : LiteralValue → String
  | .text s => Text.quoted s
  | .int n => toString n
  | .bool b => Value.boolText b
  | .none => "None"

namespace Annotation

def bracketed (texts : List String) : String :=
  "[" ++ (if texts.isEmpty then "()" else ", ".intercalate texts) ++ "]"

def headText (c : ClassRef) : Spelling → String
  | .direct => c.fullName
  | .typing form => if form.isEmpty then c.fullName else "typing." ++ form

/-- The text of a union from the texts of its members, each beside whether it says that there may be
nothing. -/
def unionText (spelling : Spelling) (members : List (String × Bool)) : String :=
  match spelling, members with
  | .direct, ms => " | ".intercalate (ms.map fun (s, absent) => if absent then "None" else s)
  | .typing _, [(_, true), (s, _)] => "typing.Optional" ++ bracketed [s]
  | .typing _, [(s, _), (_, true)] => "typing.Optional" ++ bracketed [s]
  | .typing _, ms => "typing.Union" ++ bracketed (ms.map Prod.fst)

mutual

/-- The text of an annotation inside another one: a class by its name alone. -/
def shortText : Annotation → String
  | .none => "None"
  | .any => "typing.Any"
  | .ellipsis => "..."
  | .ofClass c => c.fullName
  | .bare form c => headText c (.typing form)
  | .applied spelling c arguments => headText c spelling ++ bracketed (shortTexts arguments)
  | .union spelling members => unionText spelling (memberTexts members)
  | .literal values => "typing.Literal" ++ bracketed (values.map LiteralValue.quoted)
  | .text s => Text.quoted s
  | .forward s => "ForwardRef(" ++ Text.quoted s ++ ")"
  | .parameters types => "[" ++ ", ".intercalate (shortTexts types) ++ "]"
  | .typeVariable _ name => "~" ++ name

def shortTexts : List Annotation → List String
  | [] => []
  | a :: rest => shortText a :: shortTexts rest

/-- The texts of the members of a union, each beside whether it is the class of nothing. -/
def memberTexts : List Annotation → List (String × Bool)
  | [] => []
  | a :: rest => (shortText a, isNoneClass a) :: memberTexts rest

end

def toText : Annotation → String
  | .ofClass c => "<class '" ++ c.fullName ++ "'>"
  | .bare form c => if form.isEmpty then "<class '" ++ c.fullName ++ "'>" else "typing." ++ form
  | .ellipsis => "Ellipsis"
  | a => shortText a

def typeName : Annotation → String
  | .none => "NoneType"
  | .any => "_AnyMeta"
  | .ellipsis => "ellipsis"
  | .ofClass c => if c.home == .collections then "ABCMeta" else "type"
  | .bare form c =>
    if form.isEmpty then "type"
    else if c == callableClass then "_CallableType"
    else if form == "Tuple" then "_TupleType"
    else "_SpecialGenericAlias"
  | .applied .direct c _ =>
    if c == callableClass then "_CallableGenericAlias" else "types.GenericAlias"
  | .applied (.typing _) c _ =>
    if c == annotatedClass then "_AnnotatedAlias"
    else if c == callableClass then "_CallableGenericAlias"
    else "_GenericAlias"
  | .union .direct _ => "types.UnionType"
  | .union (.typing _) _ => "_UnionGenericAlias"
  | .literal _ => "_LiteralGenericAlias"
  | .text _ => "str"
  | .forward _ => "ForwardRef"
  | .parameters _ => "list"
  | .typeVariable _ _ => "TypeVar"

/-- What owns the features of an annotation in messages: the class behind it, if there is one. A
form without a class names no owner. -/
def owner : Annotation → String
  | .any => "type object 'Any'"
  | .ofClass c => c.owner
  | .bare _ c => c.owner
  | .applied _ c [] => c.owner
  | .applied _ c (a :: _) => if c == annotatedClass then owner a else c.owner
  | .union (.typing _) _ => ""
  | .literal _ => ""
  | a => Value.ownerOf a.typeName

def features : Annotation → List (String × Except Fault Value)
  | .ofClass c =>
    [("__name__", c.name), ("__qualname__", c.name),
      ("__module__", c.moduleName.getD "builtins")].map fun (name, s) => (name, .ok (.text s))
  | _ => []

/-- An annotation under inspection. Nothing and texts are values of their own. -/
def describe : Annotation → Value
  | .none => .none
  | .text s => .text s
  | a => .entity a.typeName a.owner a.features (.ok a.toText) a.toText

end Annotation

end TypeScriptGen
