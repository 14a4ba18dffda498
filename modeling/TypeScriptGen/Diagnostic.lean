import TypeScriptGen.Text.Lines
import TypeScriptGen.Value

/-!
Diagnostics: a severity and a message, with a tagged text form, and the reading of compiler output.
-/

set_option autoImplicit false
set_option relaxedAutoImplicit false

namespace TypeScriptGen

/-- How serious a diagnostic is; `note` marks what could not be classified. -/
inductive Severity where
  | error
  | warning
  | note
deriving DecidableEq, Repr

/-- A message about generated code. The message is kept as it was given; it shows by its text. -/
structure Diagnostic where
  severity : Severity
  message : Value

namespace Severity

def tag : Severity → String
  | .error => "error: "
  | .warning => "warning: "
  | .note => ""

def describe : Severity → Value
  | .error => .member "Severity" "ERROR" "error"
  | .warning => .member "Severity" "WARNING" "warning"
  | .note => .member "Severity" "NONE" "none"

end Severity

namespace Diagnostic

def isError (d : Diagnostic) : Bool := d.severity == .error

def isWarning (d : Diagnostic) : Bool := d.severity == .warning

def text (d : Diagnostic) : Except Fault String := do
  return d.severity.tag ++ (← d.message.toText)

def texts : List Diagnostic → Except Fault (List String)
  | [] => .ok []
  | d :: rest => do
    let s ← d.text
    let more ← texts rest
    return s :: more

/-- A tagged text read back: the severity that its tag names, or a note if it has none. -/
def ofText (s : String) : Diagnostic :=
  match Text.after? Severity.error.tag s with
  | some message => ⟨.error, .text message⟩
  | none =>
    match Text.after? Severity.warning.tag s with
    | some message => ⟨.warning, .text message⟩
    | none => ⟨.note, .text s⟩

def describe (d : Diagnostic) : Value :=
  .record "Diagnostic" [("severity", d.severity.describe), ("message", d.message)]
    [("is_error", .ok (.bool d.isError)), ("is_warning", .ok (.bool d.isWarning))]
    (some d.text)

end Diagnostic

namespace CompilerOutput

/-- The complaint about a failed run without output. -/
def silentFailure : String := "tsc exited with errors but produced no output."

def classify (line : String) : Severity :=
  if Text.occursIn ": error TS" line || Text.beginsWith "error TS" line then .error
  else if Text.occursIn ": warning TS" line then .warning
  else .note

/-- The diagnostic of a line, which loses the carriage returns at its end; blank lines have none. -/
def lineDiagnostic? (raw : String) : Option Diagnostic :=
  let line := Text.trimEndOf '\r' raw
  if Text.isBlank line then none else some ⟨classify line, .text line⟩

/-- One diagnostic for each line that is not blank; blank output is itself an error. -/
def diagnostics (output : String) : List Diagnostic :=
  if Text.isBlank output then [⟨.error, .text silentFailure⟩]
  else (Text.splitAtChar '\n' output).filterMap lineDiagnostic?

/-- The lines that mention an error of the compiler in any case, trimmed. -/
def errorLines (output : String) : List String :=
  ((Text.splitAtChar '\n' output).filter fun line =>
    Text.occursIn "error ts" (Text.lowerLatin line)).map Text.trim

/-- The output on both channels as one text: the first loses the line feeds at its end. -/
def joinChannels (out err : String) : String :=
  if !out.isEmpty && !err.isEmpty then Text.trimEndOf '\n' out ++ "\n" ++ err
  else if !out.isEmpty then out else err

end CompilerOutput

end TypeScriptGen
