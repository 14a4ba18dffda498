import TypeScriptGen.Diagnostic

/-!
Results of emissions, and the gate that turns a successful result into confirmed code. Confirmed
code carries the proof that it passed.
-/

set_option autoImplicit false
set_option relaxedAutoImplicit false

namespace TypeScriptGen

/-- The result of an emission: code, unless it is nothing at all, and diagnostics. -/
structure EmitResult where
  code : Value
  diagnostics : List Diagnostic := []

namespace EmitResult

def succeeded (r : EmitResult) : Bool := !r.code.isNone && !r.diagnostics.any Diagnostic.isError

def errors (r : EmitResult) : List Diagnostic := r.diagnostics.filter Diagnostic.isError

def warnings (r : EmitResult) : List Diagnostic := r.diagnostics.filter Diagnostic.isWarning

/-- What was reported as diagnostics; a value that is none is read as its text. -/
def diagnosticsOf : List (Supplied Diagnostic) → Except Fault (List Diagnostic)
  | [] => .ok []
  | .good d :: rest => do return d :: (← diagnosticsOf rest)
  | .stray v :: rest => do
    let d := Diagnostic.ofText (← v.toText)
    return d :: (← diagnosticsOf rest)

def ofFindings (code : Value) (findings : List (Supplied Diagnostic)) :
    Except Fault EmitResult := do
  return { code, diagnostics := ← diagnosticsOf findings }

def describeAll (ds : List Diagnostic) : Value := .tuple (ds.map Diagnostic.describe)

def describe (r : EmitResult) : Value :=
  .record "OptionalEmit" [("code", r.code), ("diagnostics", describeAll r.diagnostics)]
    [("success", .ok (.bool r.succeeded)), ("errors", .ok (describeAll r.errors)),
      ("warnings", .ok (describeAll r.warnings))]
    Option.none

end EmitResult

/-- A result that has passed the gate. -/
structure ConfirmedCode where
  result : EmitResult
  passed : result.succeeded = true

namespace ConfirmedCode

def code (c : ConfirmedCode) : Value := c.result.code

/-- Confirmed code is there. -/
theorem isNone_code (c : ConfirmedCode) : c.code.isNone = false := by
  have passed := c.passed
  simp only [EmitResult.succeeded, Bool.and_eq_true, Bool.not_eq_true'] at passed
  exact passed.1

def describe (c : ConfirmedCode) : Value :=
  .record "ValidEmit" [("code", c.code)] [] (some c.code.ownText)

end ConfirmedCode

namespace EmitResult

def confirm? (r : EmitResult) : Option ConfirmedCode :=
  if passed : r.succeeded = true then some { result := r, passed } else none

/-- The message of a refusal, if none is given: all diagnostics in order. -/
def refusalText (r : EmitResult) : Except Fault String := do
  return "Emit failed: " ++ ", ".intercalate (← Diagnostic.texts r.diagnostics)

def refusal (r : EmitResult) (message : Value) : Except Fault Fault := do
  let words ← if message.isNone then r.refusalText else message.toText
  return .gateRefused words r.diagnostics.length

def confirm (r : EmitResult) (message : Value) : Except Fault ConfirmedCode :=
  match r.confirm? with
  | some c => .ok c
  | none => do throw (← r.refusal message)

end EmitResult

end TypeScriptGen
