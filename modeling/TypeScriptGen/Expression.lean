import TypeScriptGen.Value

/-!
TypeScript expressions as text, with the operators that combine them. Operands are values, used by
their text; nothing is parsed and no brackets are added.
-/

set_option autoImplicit false
set_option relaxedAutoImplicit false

namespace TypeScriptGen

structure Expression where
  value : String
deriving DecidableEq, Repr

namespace Expression

def ofValue (v : Value) : Except Fault Expression := do
  return ⟨← v.requireText "Expression cannot be empty or whitespace." "expression"⟩

def followedBy (e : Expression) (mark : String) (operand : Value) : Except Fault Expression := do
  return ⟨e.value ++ mark ++ (← operand.toText)⟩

/-- The expression followed by a mark, a method name and arguments in brackets. -/
def calledBy (e : Expression) (mark : String) (method : Value) (arguments : List Value) :
    Except Fault Expression := do
  let name ← method.toText
  let inner ← Value.commaText arguments
  return ⟨e.value ++ mark ++ name ++ "(" ++ inner ++ ")"⟩

def call (e : Expression) (method : Value) (arguments : List Value) : Except Fault Expression :=
  e.calledBy "." method arguments

def optionalCall (e : Expression) (method : Value) (arguments : List Value) :
    Except Fault Expression :=
  e.calledBy "?." method arguments

def invoke (e : Expression) (arguments : List Value) : Except Fault Expression := do
  return ⟨e.value ++ "(" ++ (← Value.commaText arguments) ++ ")"⟩

def property (e : Expression) (name : Value) : Except Fault Expression := e.followedBy "." name

/-- Access to a member of an operand that may be absent. -/
def optionalProperty (e : Expression) (name : Value) : Except Fault Expression :=
  e.followedBy "?." name

def index (e : Expression) (key : Value) : Except Fault Expression := do
  return ⟨e.value ++ "[" ++ (← key.toText) ++ "]"⟩

def optionalIndex (e : Expression) (key : Value) : Except Fault Expression := do
  return ⟨e.value ++ "?.[" ++ (← key.toText) ++ "]"⟩

/-- The binary operators that take another operand on the right. -/
inductive Operator where
  | nullish
  | cast
  | satisfies
  | instanceOf
  | equal
  | notEqual
  | conjunction
  | disjunction
deriving DecidableEq, Repr

def Operator.sign : Operator → String
  | .nullish => "??"
  | .cast => "as"
  | .satisfies => "satisfies"
  | .instanceOf => "instanceof"
  | .equal => "==="
  | .notEqual => "!=="
  | .conjunction => "&&"
  | .disjunction => "||"

def binary (e : Expression) (o : Operator) (other : Value) : Except Fault Expression :=
  e.followedBy (" " ++ o.sign ++ " ") other

inductive Form where
  | nonNull
  | typeOf
  | awaited
  | spread
  | bracketed
  | negated
deriving DecidableEq, Repr

def unary (e : Expression) : Form → Expression
  | .nonNull => ⟨e.value ++ "!"⟩
  | .typeOf => ⟨"typeof " ++ e.value⟩
  | .awaited => ⟨"await " ++ e.value⟩
  | .spread => ⟨"..." ++ e.value⟩
  | .bracketed => ⟨"(" ++ e.value ++ ")"⟩
  | .negated => ⟨"!" ++ e.value⟩

/-- The expression inside a template string, between two pieces of text. -/
def template (e : Expression) (before behind : Value) : Except Fault Expression := do
  let left ← before.toText
  let right ← behind.toText
  return ⟨"`" ++ left ++ "$\x7b" ++ e.value ++ "\x7d" ++ right ++ "`"⟩

def describe (e : Expression) : Value :=
  .record "ExpressionRef" [("value", .text e.value)] [] (some (.ok e.value))

end Expression

end TypeScriptGen
