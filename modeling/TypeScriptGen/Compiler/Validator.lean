import TypeScriptGen.Compiler.Locator
import TypeScriptGen.Config.Store

/-!
Validation of generated code by the compiler. A validation never fails: whatever goes wrong becomes
an error among its diagnostics.
-/

set_option autoImplicit false
set_option relaxedAutoImplicit false

namespace TypeScriptGen

/-- Whatever checks code. It may report diagnostics, or values that are read as their text. -/
abbrev Checker := Value → Run (List (Supplied Diagnostic))

/-- A validator: the time limit of a run, the locator of the compiler or what stands in its place,
and how that says whether there is a compiler. -/
structure Validator where
  limit : Value
  locator : Supplied LocatorId
  isAvailable : Run Bool

namespace Validator

def loggerName : String := "tsemit.compiler.validator"

def defaultLimit : Value := .float (Binary64.ofDecimal false 30 0)

def sourceName : String := "emit.ts"

def projectName : String := "tsconfig.json"

/-- The project of a validation: one file, under strict rules. -/
def project : Value :=
  .dict [
    ("compilerOptions", .dict [
      ("strict", .bool true), ("target", "ES2022"), ("module", "ES2022"),
      ("moduleResolution", "bundler"), ("noEmit", .bool true), ("skipLibCheck", .bool true),
      ("lib", .list ["ES2022", "DOM"])]),
    ("include", .list [.text sourceName])]

def folder (code : String) : List (String × String) :=
  [(sourceName, code), (projectName, (Json.write project).text)]

def ofPath (path : Value) (limit : Value) : Run Validator := do
  let id ← Locator.shared [path]
  return { limit, locator := .good id, isAvailable := Locator.isAvailable id }

def errorCount (ds : List Diagnostic) : Nat := (ds.filter Diagnostic.isError).length

/-- The diagnostics of a run that was stopped: what it had said, and that it was stopped. -/
def stoppedDiagnostics (limit output : String) : List Diagnostic :=
  (if Text.isBlank output then [] else CompilerOutput.diagnostics output) ++
    [⟨.error, "tsc timed out after " ++ limit ++ " seconds"⟩]

def failureDiagnostics (code output : String) : List Diagnostic :=
  let ds := CompilerOutput.diagnostics output
  if ds.any Diagnostic.isError then ds
  else ds ++ [⟨.error, "tsc exited with code " ++ code ++ "."⟩]

/-- The diagnostics of a run of the compiler; there are none if it accepts the code. -/
def diagnosticsOf (limit : Value) (r : ToolResult) : Run (List Diagnostic) := do
  if r.timedOut then
    let seconds ← Run.lift (limit.format "g")
    return stoppedDiagnostics seconds r.output
  if r.exitCode == some 0 then return []
  let code ← Run.lift r.exitValue.toText
  Run.log .info loggerName ("tsc exited with code " ++ code ++ ": " ++
    toString (errorCount (CompilerOutput.diagnostics r.output)) ++ " compiler errors")
  return failureDiagnostics code r.output

def codeOf : Value → Except Fault String
  | .text s => .ok s
  | .none => .error (.mistyped (.writing "None"))
  | v => .error (.mistyped (.writing v.typeName))

/-- Check code in a directory of the name; a fault is not caught. -/
def checkIn (v : Validator) (folderName : String) (source : Value) : Run (List Diagnostic) := do
  let code ← Run.lift (codeOf source)
  let id ← Run.lift (v.locator.need ["get_check_command"])
  let command ← Locator.checkCommand id (folderName ++ "/" ++ projectName)
  let result ← Tool.run { command, limit := v.limit, folder := some (folder code) }
  let ds ← diagnosticsOf v.limit result
  (EmitLogger.ofName loggerName).validationResult (.int ds.length) (.int (errorCount ds))
    (.float (← get).runTime)
  return ds

/-- Check code in a directory that is made for it and removed after it. -/
def check (v : Validator) (source : Value) : Run (List Diagnostic) := do
  v.checkIn (← Run.makeFolder) source

def complaint (fault : Fault) : Run (List Diagnostic) := do
  match fault with
  | .system e =>
    Run.log .warning loggerName ("Could not run tsc: " ++ e.message)
    return [⟨.error, "Failed to run tsc: " ++ e.message⟩]
  | fault =>
    Run.log .error loggerName ("Unexpected error during validation: " ++ fault.message)
    return [⟨.error, "Validation failed: " ++ fault.message⟩]

def validate (v : Validator) (source : Value) : Run (List Diagnostic) :=
  tryCatch (v.check source) complaint

def checker (v : Validator) : Checker := fun source => do
  return (← v.validate source).map .good

end Validator

namespace Checker

/-- The number of workers has to be greater than zero, unless it is left open. -/
def requireWorkers (v : Value) : Except Fault Unit :=
  match v with
  | .none => .ok ()
  | .float x =>
    if x.isPositive || x == .nan then .ok () else .error (.misvalued .workers)
  | v =>
    match v.toInt? with
    | Option.none => .error (.mistyped (.comparison "<=" v.typeName "int"))
    | some n => if 0 < n then .ok () else .error (.misvalued .workers)

def each (check : Checker) : List Value → Run (List (List (Supplied Diagnostic)))
  | [] => return []
  | source :: rest => do
    let ds ← check source
    let more ← each check rest
    return ds :: more

/-- Check several sources by a checker, or by the compiler if there is none. The results keep the
order of the sources; the number of workers has no influence on them. -/
def checkAll (checker : Option (Supplied Checker)) (sources workers : Value) :
    Run (List (List (Supplied Diagnostic))) := do
  let checker ← match checker with
    | some c => pure c
    | Option.none => do
      pure (.good (← Validator.ofPath .none Validator.defaultLimit).checker)
  let items ← Run.lift sources.iterate
  if items.isEmpty then return []
  let workers ← if workers.isNone then do
      pure (← Config.inForce ["validation"]).validation.maxWorkers
    else pure workers
  Run.lift (requireWorkers workers)
  each (← Run.lift (checker.need ["validate"])) items

end Checker

end TypeScriptGen
