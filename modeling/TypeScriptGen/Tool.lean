import TypeScriptGen.Diagnostic
import TypeScriptGen.Host.Basic

/-!
Runs of external programs: their outcome, and the probe that only asks whether a program runs.
-/

set_option autoImplicit false
set_option relaxedAutoImplicit false

namespace TypeScriptGen

/-- The outcome of a run. A program that was stopped has no exit code. -/
structure ToolResult where
  command : List String
  exitCode : Option Int
  /-- Both channels as one text. -/
  output : String
  /-- The seconds that the run took. -/
  elapsed : Binary64
  timedOut : Bool := false
  /-- The first channel alone. -/
  out : String
deriving DecidableEq, Repr

namespace ToolResult

/-- The program ended by itself, with exit code zero. -/
def succeeded (r : ToolResult) : Bool := !r.timedOut && r.exitCode == some 0

def exitValue (r : ToolResult) : Value :=
  match r.exitCode with
  | Option.none => .none
  | some n => .int n

def describe (r : ToolResult) : Value :=
  .record "ToolResult"
    [("command", .texts r.command), ("returncode", r.exitValue), ("output", .text r.output),
      ("elapsed", .float r.elapsed), ("timed_out", .bool r.timedOut), ("stdout", .text r.out)]
    [("succeeded", .ok (.bool r.succeeded))] Option.none

end ToolResult

/-- Captured output as text, with a replacement for what is malformed. -/
def Captured.shown : Captured → String
  | .nothing => ""
  | .text s => s
  | .octets bytes => Text.Utf8.repair bytes

namespace Tool

def loggerName : String := "tsemit.compiler.tsc_utils"

def commandText (command : List String) : String := " ".intercalate command

def commandOf (v : Value) : Except Fault (List String) := do
  wordsFrom 0 (← v.iterate)
where
  wordsFrom : Nat → List Value → Except Fault (List String)
    | _, [] => .ok []
    | index, .text s :: rest => do return s :: (← wordsFrom (index + 1) rest)
    | index, v :: _ => .error (.mistyped (.lineItem index v.typeName))

/-- The files of the directory that a program is to run in, if one is named. -/
def folderOf (path : Value) : Run (Option (List (String × String))) := do
  match path with
  | .text path =>
    match (← get).files.textsIn path with
    | .ok files => return some files
    | .error e => throw (.system e)
  | _ => return Option.none

/-- Run a program. One that was stopped at its time limit has a result as well: the output up to
then. -/
def run (l : Launch) : Run ToolResult := do
  Run.log .debug loggerName ("Running: " ++ commandText l.command)
  let elapsed := (← get).runTime
  match ← Run.launch l with
  | .refused fault => throw fault
  | .stopped out err =>
    let program ← match l.command with
      | [] => throw (.beyondEnd "tuple")
      | program :: _ => pure program
    let limit ← Run.lift l.limit.toText
    Run.log .warning loggerName (program ++ " timed out after " ++ limit ++ " seconds")
    return {
      command := l.command
      exitCode := Option.none
      output := CompilerOutput.joinChannels out.shown err.shown
      elapsed
      timedOut := true
      out := out.shown }
  | .exited code out err =>
    return {
      command := l.command
      exitCode := some code
      output := CompilerOutput.joinChannels out err
      elapsed
      out }

/-- Does a command run and end with exit code zero? A program that the system cannot start does
not. -/
def probe (command : List String) (limit : Value) : Run Bool :=
  tryCatch (do return (← run { command, limit }).succeeded) fun fault =>
    match fault with
    | .system e => do
      Run.log .debug loggerName ("Probe " ++ commandText command ++ " failed: " ++ e.message)
      return false
    | fault => throw fault

end Tool

end TypeScriptGen
