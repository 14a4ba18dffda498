import TypeScriptGen.Annotation.Application

/-!
Annotations as data: a name stands for itself, a list for the parameter types of a callable, and a
dictionary with one entry for a form and what it is applied to. Classes and type variables of a
program are numbered while they are read, so that no two are the same.
-/

set_option autoImplicit false
set_option relaxedAutoImplicit false

namespace TypeScriptGen.Annotation

/-- A step of reading, which hands out serial numbers and may fail. -/
abbrev Numbered := StateT Nat (Except Fault)

def nextSerial : Numbered Nat := modifyGet fun n => (n, n + 1)

def ofWord (form word : String) : Numbered Annotation := do
  match form with
  | "class" => return .ofClass ⟨.program (← nextSerial), word⟩
  | "typevar" => return .typeVariable (← nextSerial) word
  | _ => return .text word

/-- The annotation of a form around items, beside the annotations that the items stand for. -/
def ofForm (form : String) (items : List Value) (parts : List Annotation) :
    Numbered Annotation := do
  let first := parts.headD .none
  let rest := parts.drop 1
  match form with
  | "of" => first.subscript rest
  | "union" => if parts.isEmpty then throw (.mistyped .emptyUnion) else return typingUnion parts
  | "optional" => return optional first
  | "or" => rest.foldlM (fun a b => a.either b) first
  | "literal" => return literalOf (items.map LiteralValue.ofValue)
  | "callable" => callable first (rest.headD .none)
  | "generic_class" =>
    applyForm "" ⟨.program (← nextSerial), (items.headD .none).textOf⟩ rest
  | _ => return first.annotated ((items.drop 1).map fun v => .text v.textOf)

mutual

def read : Value → Numbered Annotation
  | .text name => return ofName name
  | .list items => do return .parameters (← readAll items)
  | .dict [(.text form, .text word)] => ofWord form word
  | .dict [(.text form, .list items)] => do ofForm form items (← readAll items)
  | _ => return .none

def readAll : List Value → Numbered (List Annotation)
  | [] => return []
  | v :: rest => do
    let a ← read v
    return a :: (← readAll rest)

end

/-- Read an annotation where serial numbers are handed out and faults can be raised. -/
def readIn {m : Type → Type} [Monad m] [MonadStateOf Nat m] [MonadExceptOf Fault m] (v : Value) :
    m Annotation := do
  let (a, n) ← Fault.lift ((read v).run (← get))
  set n
  return a

end TypeScriptGen.Annotation
