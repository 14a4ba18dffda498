import TypeScriptGen.Diagnostic

/-!
Reports: the failures that the library describes as objects, with the details behind their message.
-/

set_option autoImplicit false
set_option relaxedAutoImplicit false

namespace TypeScriptGen

/-- A failure described as an object. Its parts are kept as they were given. -/
inductive Report where
  | general (message details : Value)
  | builder (message argument : Value)
  | emission (message : Value) (diagnostics : List (Supplied Diagnostic))
  | compilation (message source output : Value)
  | toolMissing (tool reason : Value) (words : String)

namespace Report

def typeName : Report → String
  | .general _ _ => "TsEmitError"
  | .builder _ _ => "BuilderError"
  | .emission _ _ => "EmitValidationError"
  | .compilation _ _ _ => "CompilationError"
  | .toolMissing _ _ _ => "ToolNotFoundError"

/-- A report on a failed emission. What is given as diagnostics has to have a length, unless it does
not hold. -/
def ofEmission (message diagnostics : Value) (items : Except Fault (List (Supplied Diagnostic))) :
    Except Fault Report := do
  if diagnostics.holds then
    let _ ← diagnostics.length
  return .emission message (← items)

/-- A report on a failed compilation. Source and output have to have a length, unless they do not
hold. -/
def ofCompilation (message source output : Value) : Except Fault Report := do
  if source.holds then
    let _ ← source.length
  if output.holds then
    let _ ← output.length
  return .compilation message source output

def ofTool (tool reason : Value) : Except Fault Report := do
  let head := Fault.toolMissingText (← tool.toText) ""
  if reason.holds then return .toolMissing tool reason (head ++ ": " ++ (← reason.toText))
  return .toolMissing tool reason head

def message : Report → Value
  | .general message _ => message
  | .builder message _ => message
  | .emission message _ => message
  | .compilation message _ _ => message
  | .toolMissing _ _ words => .text words

def lengthDetail (name : String) (v : Value) : List (Value × Value) :=
  if v.holds then [(.text name, .int (v.length.toOption.getD 0 : Nat))] else []

def details : Report → Value
  | .general _ details => if details.holds then details else .dict []
  | .builder _ argument => .dict (if argument.isNone then [] else [("argument", argument)])
  | .emission _ diagnostics =>
    .dict (if diagnostics.isEmpty then [] else [("diagnostic_count", .int diagnostics.length)])
  | .compilation _ source output =>
    .dict (lengthDetail "source_length" source ++ lengthDetail "compiler_output_length" output)
  | .toolMissing tool _ _ => .dict [("tool", tool)]

def entries (r : Report) : Except Fault (List (Value × Value)) :=
  match r.details with
  | .dict entries => .ok entries
  | v => .error (v.lack "items")

def detailTexts : List (Value × Value) → Except Fault (List (String × String))
  | [] => .ok []
  | (k, v) :: rest => do
    let name ← k.toText
    let text ← v.toText
    let more ← detailTexts rest
    return (name, text) :: more

/-- The message with its details. Without details the message has to be a text. -/
def text (r : Report) : Except Fault String := do
  let entries ← r.entries
  if entries.isEmpty then r.message.ownText
  else
    let pairs ← detailTexts entries
    return Fault.withDetails (← r.message.toText) pairs

def ownFeatures : Report → List (String × Value)
  | .general _ _ => []
  | .builder _ argument => [("argument", argument)]
  | .emission _ diagnostics =>
    [("diagnostics", .tuple (diagnostics.map fun d => d.toValue Diagnostic.describe))]
  | .compilation _ source output => [("source", source), ("compiler_output", output)]
  | .toolMissing tool reason _ => [("tool", tool), ("reason", reason)]

def describe (r : Report) : Value :=
  .entity r.typeName (Value.ownerOf r.typeName)
    (([("message", r.message), ("details", r.details)] ++ r.ownFeatures ++
      [("args", Value.tuple [r.message])]).map fun (name, v) => (name, .ok v))
    r.text (r.typeName ++ "(" ++ r.message.quoted ++ ")")

def errorsAmong : List (Supplied Diagnostic) → Except Fault (List Diagnostic)
  | [] => .ok []
  | .good d :: rest => do
    let more ← errorsAmong rest
    return if d.isError then d :: more else more
  | .stray v :: _ => .error (v.lack "is_error")

def errors : Report → Except Fault (List Diagnostic)
  | .emission _ diagnostics => errorsAmong diagnostics
  | r => .error (r.describe.lack "get_errors")

def compilerErrors : Report → Except Fault (List String)
  | .compilation _ _ output =>
    if output.holds then do return CompilerOutput.errorLines (← output.asText "split")
    else .ok []
  | r => .error (r.describe.lack "get_compiler_errors")

end Report

end TypeScriptGen
