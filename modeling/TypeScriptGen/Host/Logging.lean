import TypeScriptGen.Host.Basic

/-!
Setting up logging, and the messages that loggers of the library write.
-/

set_option autoImplicit false
set_option relaxedAutoImplicit false

namespace TypeScriptGen

def levelVariable : String := "TSEMIT_LOG_LEVEL"

namespace LogSetup

def openFile (file : Value) : Run (List String) := do
  match file with
  | .text path =>
    let h ← get
    let place ← Run.lift (h.files.openForWriting (Path.direct path))
    let files := if (h.files.content? place).isSome then h.files
      else h.files.put place (.text "")
    set { h with files }
    return place
  | v => throw (.mistyped (.path v.typeName))

def change (f : LogSetup → LogSetup) : Run Unit := modify fun h => { h with logging := f h.logging }

/-- Set up logging at a level, with a log file if one is given. Without a level the environment
states it. -/
def apply (level file : Value) : Run Unit := do
  let level ← if level.isNone then
      pure (Value.text ((← Run.fromEnvironment levelVariable).getD "WARNING"))
    else pure level
  let threshold ← Run.lift (do thresholdOf (← level.asText "upper"))
  change fun s => { s with threshold, handlers := [.console threshold] }
  if file.holds then
    let place ← openFile file
    change fun s => { s with handlers := s.handlers ++ [.file threshold place] }
  change fun s => { s with propagates := false }

/-- Set up logging as a configuration asks for; the environment takes precedence over its level. -/
def applyConfig (c : Config) : Run Unit := do
  let level := match ← Run.fromEnvironment levelVariable with
    | some s => if s.isEmpty then c.logging.level else .text s
    | none => c.logging.level
  apply level (if c.logging.enableFile.holds then c.logging.file else .none)

def describeState (s : LogSetup) (name : String) : Value :=
  let isRoot := name == rootName
  .dict [
    ("name", .text name),
    ("level", .int (if isRoot then s.threshold
      else if name == outermostName then defaultThreshold else 0)),
    ("effective", .int (s.effectiveFor name)),
    ("propagate", .bool (if isRoot then s.propagates else true)),
    ("handlers", .list (if isRoot then
        s.handlers.map fun h => .list [.text h.typeName, .int h.threshold]
      else []))]

/-- The name of the logger that a value names; a value that does not hold names the outermost
one. -/
def loggerName (v : Value) : Except Fault String :=
  if !v.holds then .ok outermostName
  else match v with
    | .text s => .ok s
    | _ => .error (.mistyped .loggerName)

def describeLogger (s : LogSetup) (name : String) : Value :=
  let form := "<Logger " ++ name ++ " (" ++ levelName (s.effectiveFor name) ++ ")>"
  .entity "Logger" (Value.ownerOf "Logger") [("name", .ok (.text name))] (.ok form) form

end LogSetup

/-- The messages of emissions, validations and tools, so that they read the same everywhere. -/
structure EmitLogger where
  name : String
deriving DecidableEq, Repr

namespace EmitLogger

def ofName (name : String) : EmitLogger := ⟨LogSetup.fullName name⟩

def emitStart (l : EmitLogger) (typeName kind : Value) : Run Unit := do
  let k ← Run.lift kind.toText
  let n ← Run.lift typeName.toText
  Run.log .debug l.name ("Emitting " ++ k ++ " '" ++ n ++ "'")

def emitFailure (l : EmitLogger) (typeName reason : Value) : Run Unit := do
  let n ← Run.lift typeName.toText
  let r ← Run.lift reason.toText
  Run.log .warning l.name ("Emit failed for '" ++ n ++ "': " ++ r)

def validationResult (l : EmitLogger) (diagnostics errors elapsed : Value) : Run Unit := do
  let t ← Run.lift (elapsed.format ".3f")
  let d ← Run.lift diagnostics.toText
  let e ← Run.lift errors.toText
  Run.log .info l.name
    ("Validation finished in " ++ t ++ "s: " ++ d ++ " diagnostics (" ++ e ++ " errors)")

def toolResolution (l : EmitLogger) (tool command : Value) : Run Unit := do
  let t ← Run.lift tool.toText
  let c ← Run.lift command.toText
  Run.log .debug l.name ("Resolved " ++ t ++ " to '" ++ c ++ "'")

def formatterFallback (l : EmitLogger) (formatter reason : Value) : Run Unit := do
  let f ← Run.lift formatter.toText
  let r ← Run.lift reason.toText
  Run.log .debug l.name ("Formatter '" ++ f ++ "' unavailable: " ++ r)

end EmitLogger

end TypeScriptGen
