import TypeScriptGen.Text.Lines
import TypeScriptGen.Value

/-!
Statement bodies: an ordered list of statements that only grows at its end. Control flow takes the
blocks it encloses from callbacks, each of which receives a fresh empty body.
-/

set_option autoImplicit false
set_option relaxedAutoImplicit false

namespace TypeScriptGen

/-- A sequence of statements, each of which may span several lines. -/
structure Body where
  statements : List String := []
deriving DecidableEq, Repr

namespace Body

def empty : Body := {}

def isEmpty (b : Body) : Bool := b.statements.isEmpty

def describe (b : Body) : Value :=
  .record "BodyBuilder" [("statements", .texts b.statements)] [("is_empty", .ok (.bool b.isEmpty))]
    Option.none

def append (b : Body) (statement : String) : Body :=
  { b with statements := b.statements ++ [statement] }

def blockIndent : String := "  "

def emptyBlock : String := "\x7b \x7d"

/-- The lines of a block: each line of each statement one level in, between braces. -/
def blockLines (b : Body) : List String :=
  "\x7b" :: b.statements.flatMap (Text.leadLines blockIndent) ++ ["\x7d"]

def block (b : Body) : String :=
  if b.isEmpty then emptyBlock else "\n".intercalate b.blockLines

def suppliedBlock (b : Supplied Body) : Except Fault String := do
  return (← b.need ["is_empty", "statements"]).block

/-- Add a statement that is not blank; it is closed with a semicolon where it needs one. -/
def addStatement (b : Body) (v : Value) : Except Fault Body := do
  if ← v.isBlank then throw (Fault.refuse "Statement cannot be empty or whitespace." "statement")
  return b.append (Text.closeStatement (← v.toText))

def addStatements (b : Body) : List Value → Except Fault Body
  | [] => .ok b
  | v :: rest => do (← b.addStatement v).addStatements rest

def addReturn (b : Body) (v : Value) : Except Fault Body := do
  match ← v.optionalText with
  | Option.none => return b.append "return;"
  | some e => return b.append ("return " ++ e ++ ";")

def addThrow (b : Body) (v : Value) : Except Fault Body := do
  return b.append ("throw " ++ (← v.toText) ++ ";")

def addComment (b : Body) (v : Value) : Except Fault Body := do
  let s ← v.asText "replace"
  return b.append ("\n".intercalate ((Text.lines s).map fun line => Text.trimEnd ("// " ++ line)))

def addVariable (b : Body) (keyword : String) (name expression type : Value) :
    Except Fault Body := do
  if ← name.isBlank then throw (Fault.refuse "Variable name cannot be empty or whitespace." "name")
  let nameText ← name.toText
  let typeText ← type.optionalText
  let value ← expression.toText
  let annotation := match typeText with
    | Option.none => ""
    | some t => ": " ++ t
  return b.append (keyword ++ " " ++ nameText ++ annotation ++ " = " ++ value ++ ";")

def addConst (b : Body) (name expression type : Value) : Except Fault Body :=
  b.addVariable "const" name expression type

def addLet (b : Body) (name expression type : Value) : Except Fault Body :=
  b.addVariable "let" name expression type

section Blocks

variable {m : Type → Type} [Monad m] [MonadExceptOf Fault m]

/-- The block that a callback fills, starting from an empty body; it has to return a body. -/
def filledBlock (fill : Body → m (Supplied Body)) : m String := do
  match ← fill empty with
  | .good b => return b.block
  | .stray _ => throw (Fault.refuse "Body callback must return a BodyBuilder." "configure")

def addIf (b : Body) (condition : Value) (yes : Body → m (Supplied Body)) : m Body := do
  let block ← filledBlock yes
  let c ← Fault.lift condition.toText
  return b.append ("if (" ++ c ++ ") " ++ block)

def addIfElse (b : Body) (condition : Value) (yes no : Body → m (Supplied Body)) : m Body := do
  let yesBlock ← filledBlock yes
  let noBlock ← filledBlock no
  let c ← Fault.lift condition.toText
  return b.append ("if (" ++ c ++ ") " ++ yesBlock ++ " else " ++ noBlock)

/-- Add a loop over a collection; `word` says whether over its values or its keys. -/
def addForEach (b : Body) (word : String) (name collection : Value)
    (each : Body → m (Supplied Body)) : m Body := do
  let block ← filledBlock each
  let n ← Fault.lift name.toText
  let c ← Fault.lift collection.toText
  return b.append ("for (const " ++ n ++ " " ++ word ++ " " ++ c ++ ") " ++ block)

def addForOf (b : Body) (name collection : Value) (each : Body → m (Supplied Body)) : m Body :=
  b.addForEach "of" name collection each

def addForIn (b : Body) (name collection : Value) (each : Body → m (Supplied Body)) : m Body :=
  b.addForEach "in" name collection each

def addFor (b : Body) (first condition step : Value) (each : Body → m (Supplied Body)) :
    m Body := do
  let block ← filledBlock each
  let f ← Fault.lift first.toText
  let c ← Fault.lift condition.toText
  let s ← Fault.lift step.toText
  return b.append ("for (" ++ f ++ "; " ++ c ++ "; " ++ s ++ ") " ++ block)

def addWhile (b : Body) (condition : Value) (each : Body → m (Supplied Body)) : m Body := do
  let block ← filledBlock each
  let c ← Fault.lift condition.toText
  return b.append ("while (" ++ c ++ ") " ++ block)

def addTryCatch (b : Body) (attempt : Body → m (Supplied Body)) (name : Value)
    (handler : Body → m (Supplied Body)) : m Body := do
  let attemptBlock ← filledBlock attempt
  let handlerBlock ← filledBlock handler
  let n ← Fault.lift name.toText
  return b.append ("try " ++ attemptBlock ++ " catch (" ++ n ++ ") " ++ handlerBlock)

/-- Add a block with a handler of errors and a block that always runs. -/
def addTryCatchFinally (b : Body) (attempt : Body → m (Supplied Body)) (name : Value)
    (handler last : Body → m (Supplied Body)) : m Body := do
  let attemptBlock ← filledBlock attempt
  let handlerBlock ← filledBlock handler
  let lastBlock ← filledBlock last
  let n ← Fault.lift name.toText
  return b.append
    ("try " ++ attemptBlock ++ " catch (" ++ n ++ ") " ++ handlerBlock ++ " finally " ++ lastBlock)

end Blocks

end Body

end TypeScriptGen
