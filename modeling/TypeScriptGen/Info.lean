import TypeScriptGen.Compiler.Locator
import TypeScriptGen.Config.Store
import TypeScriptGen.Formatter

/-!
The report on the installation: the version, the tools that can be used and the system.
-/

set_option autoImplicit false
set_option relaxedAutoImplicit false

namespace TypeScriptGen.Info

def version : String := "0.1.0"

def author : String := "tsemit Team"

structure Toolchain where
  command : String
  version : Option String
  hasDprint : Bool
  hasPrettier : Bool
  configFile : String
  level : Value

/-- Find out about the tools, under the configuration in force. -/
def toolchain : Run Toolchain := do
  let config ← Config.inForce ["validation"]
  let id ← Locator.shared [config.validation.compilerPath]
  let command ← Locator.resolve id
  let version ← Locator.version id
  let hasDprint ← Formatter.isAvailable ⟨.dprint, Formatter.defaultLimit⟩
  let hasPrettier ← Formatter.isAvailable ⟨.prettier, Formatter.defaultLimit⟩
  return {
    command := Tool.commandText command
    version, hasDprint, hasPrettier
    configFile := config.path
    level := config.validation.level }

def Toolchain.describe (t : Toolchain) : Value :=
  .dict [
    ("tsc_command", .text t.command), ("tsc_version", .ofOption t.version),
    ("dprint_available", .bool t.hasDprint), ("prettier_available", .bool t.hasPrettier),
    ("config_file", .text t.configFile), ("validation_level", t.level)]

def firstWord (v : Value) : Except Fault String := do
  match Text.words (← v.asText "split") with
  | [] => throw (.beyondEnd "list")
  | word :: _ => return word

/-- Print the report, given the facts about the system. -/
def print (facts : Value) : Run Unit := do
  Run.printLine "tsemit TypeScript Emitter"
  Run.printLine ("".pushn '=' 40)
  Run.printLine ("\ntsemit Version: " ++ version)
  Run.printLine ("Author: " ++ author)
  let t ← toolchain
  Run.printLine ("\ntsc Command: " ++ t.command)
  match t.version with
  | some v => Run.printLine ("tsc Version: " ++ v)
  | Option.none => Run.printLine "tsc: Not available"
  Run.printLine ("dprint Available: " ++ Value.boolText t.hasDprint)
  Run.printLine ("prettier Available: " ++ Value.boolText t.hasPrettier)
  Run.printLine ("Config File: " ++ t.configFile)
  Run.printLine ("Validation Level: " ++ (← Run.lift t.level.toText))
  let runtime ← Run.lift (do firstWord (← facts.item "python_version"))
  Run.printLine ("\nPython Version: " ++ runtime)
  let platform ← Run.lift (do (← facts.item "platform").toText)
  Run.printLine ("Platform: " ++ platform)
  let architecture ← Run.lift (do (← (← facts.item "architecture").item (.int 0)).toText)
  Run.printLine ("Architecture: " ++ architecture)

/-- Set up logging and print the report. A fault is printed as well and gives an exit code. -/
def report (facts : Value) : Run (Option Nat) :=
  tryCatch (do
    LogSetup.applyConfig (← Config.inForce ["logging"])
    print facts
    return Option.none) fun fault => do
    Run.printLine ("Error getting system information: " ++ fault.message)
    return some 1

end TypeScriptGen.Info
