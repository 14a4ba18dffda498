import TypeScriptGen.Text.Lines
import TypeScriptGen.TypeExpr

/-!
Annotations of Python types, built the way the `typing` rules build them: unions are flat and free
of duplicates, literals are distinct by value and type, and a text inside a `typing` form becomes a
forward reference.
-/

set_option autoImplicit false
set_option relaxedAutoImplicit false

namespace TypeScriptGen

/-- Where a class comes from. Two classes of a program are different even under one name. -/
inductive ClassHome where
  | builtin
  | collections
  | program (serial : Nat)
deriving DecidableEq, Repr

structure ClassRef where
  home : ClassHome
  name : String
deriving DecidableEq, Repr

/-- How an annotation was put together: by the classes themselves, or by a `typing` form. A class
of a program that is generic goes through a form without a name. -/
inductive Spelling where
  | direct
  | typing (form : String)
deriving DecidableEq, Repr

/-- Both annotations were put together by the classes, or both by a form. -/
def Spelling.isLike : Spelling → Spelling → Bool
  | .direct, .direct => true
  | .typing _, .typing _ => true
  | _, _ => false

inductive LiteralValue where
  | text (s : String)
  | int (n : Int)
  | bool (b : Bool)
  | none
deriving DecidableEq, Repr

def LiteralValue.ofValue : Value → LiteralValue
  | .text s => .text s
  | .int n => .int n
  | .bool b => .bool b
  | _ => .none

inductive Annotation where
  | none
  | any
  | ellipsis
  | ofClass (c : ClassRef)
  /-- A `typing` form without arguments; the form of a program's class has no name. -/
  | bare (form : String) (origin : ClassRef)
  | applied (spelling : Spelling) (origin : ClassRef) (arguments : List Annotation)
  | union (spelling : Spelling) (members : List Annotation)
  | literal (values : List LiteralValue)
  | text (s : String)
  | forward (s : String)
  | parameters (types : List Annotation)
  | typeVariable (serial : Nat) (name : String)

namespace Annotation

mutual

/-- Equality of annotations as `typing` sees it: the order of union members and of literal values
does not count. -/
def same : Annotation → Annotation → Bool
  | .none, .none => true
  | .any, .any => true
  | .ellipsis, .ellipsis => true
  | .ofClass a, .ofClass b => a == b
  | .bare _ a, .bare _ b => a == b
  | .applied s a xs, .applied t b ys => s.isLike t && a == b && sameAll xs ys
  | .union _ xs, .union _ ys => xs.length == ys.length && allAmong xs ys
  | .literal xs, .literal ys => xs.all ys.contains && ys.all xs.contains
  | .text s, .text t => s == t
  | .forward s, .forward t => s == t
  | .parameters xs, .parameters ys => sameAll xs ys
  | .typeVariable m s, .typeVariable n t => m == n && s == t
  | _, _ => false

def sameAll : List Annotation → List Annotation → Bool
  | [], [] => true
  | a :: xs, b :: ys => same a b && sameAll xs ys
  | _, _ => false

/-- Every item equals one of the others. -/
def allAmong : List Annotation → List Annotation → Bool
  | [], _ => true
  | a :: xs, ys => ys.any (same a) && allAmong xs ys

end

def builtin (name : String) : ClassRef := ⟨.builtin, name⟩

def noneClass : ClassRef := builtin "NoneType"

def isNoneClass : Annotation → Bool
  | .ofClass c => c == noneClass
  | _ => false

def classOfNone : Annotation → Annotation
  | .none => .ofClass noneClass
  | a => a

def members : Annotation → List Annotation
  | .union _ ms => ms
  | a => [a]

def distinct (as : List Annotation) : List Annotation :=
  as.foldl (fun kept a => if kept.any (same a) then kept else kept ++ [a]) []

/-- The union of annotations, flat and free of duplicates; a single member stands for itself. -/
def unionOf (spelling : Spelling) (as : List Annotation) : Annotation :=
  match distinct (as.flatMap fun a => members (classOfNone a)) with
  | [a] => a
  | ms => .union spelling ms

/-- A text given to a `typing` form is a forward reference, and nothing is its class. -/
def deferredOnce : Annotation → Annotation
  | .text s => .forward s
  | a => classOfNone a

/-- What becomes of an argument of a `typing` form. -/
def deferred : Annotation → Annotation
  | .parameters types => .parameters (types.map deferredOnce)
  | a => deferredOnce a

/-- The union that a `typing` form builds. -/
def typingUnion (as : List Annotation) : Annotation :=
  unionOf (.typing "Union") (as.map deferred)

/-- The annotation is put together by a `typing` form. -/
def isTyping : Annotation → Bool
  | .bare _ _ => true
  | .applied (.typing _) _ _ => true
  | .union (.typing _) _ => true
  | .literal _ => true
  | .forward _ => true
  | .typeVariable _ _ => true
  | _ => false

def optional (a : Annotation) : Annotation := typingUnion [a, .none]

def literalOf (values : List LiteralValue) : Annotation :=
  .literal (values.foldl (fun kept v => if kept.contains v then kept else kept ++ [v]) [])

def annotatedClass : ClassRef := ⟨.builtin, "Annotated"⟩

/-- An annotation with metadata; nested metadata is collected. -/
def annotated (a : Annotation) (data : List Annotation) : Annotation :=
  match a with
  | .applied spelling c arguments =>
    if c == annotatedClass then .applied spelling c (arguments ++ data)
    else .applied (.typing "Annotated") annotatedClass (a :: data)
  | a => .applied (.typing "Annotated") annotatedClass (deferred a :: data)

def callableClass : ClassRef := ⟨.collections, "Callable"⟩

def abstractClass (name : String) : ClassRef := ⟨.collections, name⟩

/-- The class behind a `typing` form, by the name of the form. -/
def typingOrigin (name : String) : ClassRef :=
  match name with
  | "List" => builtin "list"
  | "Set" => builtin "set"
  | "FrozenSet" => builtin "frozenset"
  | "Dict" => builtin "dict"
  | "Tuple" => builtin "tuple"
  | "Type" => builtin "type"
  | "Deque" => builtin "deque"
  | "DefaultDict" => builtin "defaultdict"
  | "OrderedDict" => builtin "OrderedDict"
  | "Counter" => builtin "Counter"
  | "ChainMap" => builtin "ChainMap"
  | "AbstractSet" => abstractClass "Set"
  | "ContextManager" => builtin "AbstractContextManager"
  | "AsyncContextManager" => builtin "AbstractAsyncContextManager"
  | _ => abstractClass name

def ofName (name : String) : Annotation :=
  match name with
  | "None" => .none
  | "Any" => .any
  | "typing.Any" => .any
  | "Ellipsis" => .ellipsis
  | _ =>
    match Text.after? "typing." name with
    | some form => .bare form (typingOrigin form)
    | Option.none =>
      match Text.after? "abc." name with
      | some c => .ofClass (abstractClass c)
      | Option.none => .ofClass (builtin name)

end Annotation

end TypeScriptGen
