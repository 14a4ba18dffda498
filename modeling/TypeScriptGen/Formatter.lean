import TypeScriptGen.Host.Logging
import TypeScriptGen.Settings
import TypeScriptGen.Tool

/-!
Formatting by external programs, which read code and print it formatted. Code that no program can
format stays as it is.
-/

set_option autoImplicit false
set_option relaxedAutoImplicit false

namespace TypeScriptGen

inductive FormatterProgram where
  | dprint
  | prettier
deriving DecidableEq, Repr

/-- A formatter: a program and the time limit of a run. -/
structure Formatter where
  program : FormatterProgram
  limit : Value

abbrev CodeFormatter := String → Supplied Settings → Run String

namespace FormatterProgram

def name : FormatterProgram → String
  | .dprint => "dprint"
  | .prettier => "prettier"

def choose (v : Value) (yes no : String) : String := if v.holds then yes else no

def dprintPlugin : String := "https://plugins.dprint.dev/typescript-0.95.4.wasm"

/-- The settings in the words of `dprint`, given the width of the indentation and whether it uses
tabs. -/
def dprintSettings (s : Settings) (width : Nat) (tabs : Bool) : List String :=
  ["indentWidth=" ++ toString width,
    "useTabs=" ++ choose (.bool tabs) "true" "false",
    "semiColons=" ++ choose s.semicolons "always" "asi",
    "quoteStyle=" ++ choose s.singleQuotes "preferSingle" "preferDouble",
    "trailingCommas=" ++ choose s.trailingCommas "always" "never"]

def wordsFor (s : Settings) (width : Nat) (tabs : Bool) : FormatterProgram → List String
  | .dprint =>
    ["dprint", "fmt", "--stdin", "ts", "--plugins", dprintPlugin] ++
      (dprintSettings s width tabs).flatMap fun setting => ["--config-inline", setting]
  | .prettier =>
    ["npx", "--yes", "prettier", "--parser", "typescript", "--tab-width", toString width,
      choose (.bool tabs) "--use-tabs" "--no-use-tabs",
      choose s.semicolons "--semi" "--no-semi",
      choose s.singleQuotes "--single-quote" "--no-single-quote",
      "--trailing-comma", choose s.trailingCommas "all" "none"]

def command (p : FormatterProgram) (s : Settings) : Except Fault (List String) := do
  let width ← s.indentWidth
  let tabs ← s.usesTabs
  return p.wordsFor s width tabs

def versionCommand : FormatterProgram → List String
  | .dprint => ["dprint", "--version"]
  | .prettier => ["npx", "--yes", "prettier", "--version"]

end FormatterProgram

namespace Formatter

def loggerName : String := "tsemit.compiler.formatter"

def defaultLimit : Value := .float (Binary64.ofDecimal false 30 0)

/-- What is touched of settings when a command is built, in order. -/
def touched : List String :=
  ["indent_width", "uses_tabs", "use_semicolons", "single_quotes", "use_trailing_commas"]

def command (f : Formatter) (s : Supplied Settings) : Except Fault (List String) := do
  f.program.command (← s.need touched)

/-- Log why a formatter cannot be used. -/
def fallBack (f : Formatter) (reason : String) : Run (Option String) := do
  (EmitLogger.ofName loggerName).formatterFallback f.program.name reason
  return Option.none

/-- What to make of a run: the code it printed, if it succeeded and printed any. -/
def judge (f : Formatter) (r : ToolResult) : Run (Option String) := do
  if !r.succeeded then f.fallBack ("exit code " ++ (← Run.lift r.exitValue.toText))
  else if Text.isBlank r.out then f.fallBack "no output"
  else return some r.out

def tryFormat (f : Formatter) (code : Value) (s : Supplied Settings) : Run (Option String) := do
  let command ← Run.lift (f.command s)
  let result ← tryCatch (do return some (← Tool.run { command, input := code, limit := f.limit }))
    fun fault =>
      match fault with
      | .system e => do
        let _ ← f.fallBack e.message
        return Option.none
      | fault => throw fault
  match result with
  | some r => f.judge r
  | Option.none => return Option.none

def format (f : Formatter) : CodeFormatter := fun code s => do
  return (← f.tryFormat (.text code) s).getD code

def isAvailable (f : Formatter) : Run Bool := Tool.probe f.program.versionCommand defaultProbeLimit

def describe (f : Formatter) : Value :=
  let features := [("name", .ok (.text f.program.name)), ("timeout", .ok f.limit)]
  match f.program with
  | .dprint => .object "DprintFormatter" features
  | .prettier => .object "PrettierFormatter" features

end Formatter

/-- A member of a chain of formatters: a formatter, or what stands in its place, and how it says
whether it is there. -/
structure ChainMember where
  formatter : Supplied Formatter
  isAvailable : Run Bool

namespace ChainMember

def ofFormatter (f : Formatter) : ChainMember := ⟨.good f, f.isAvailable⟩

def defaults : List ChainMember :=
  [.ofFormatter ⟨.dprint, Formatter.defaultLimit⟩, .ofFormatter ⟨.prettier, Formatter.defaultLimit⟩]

/-- What the first member of a chain that can format makes of code. -/
def tryFormat : List ChainMember → Value → Supplied Settings → Run (Option String)
  | [], _, _ => do
    Run.log .debug Formatter.loggerName "No formatter available, returning code unchanged"
    return Option.none
  | m :: rest, code, s => do
    let f ← Run.lift (m.formatter.need ["try_format"])
    match ← f.tryFormat code s with
    | some formatted =>
      Run.log .debug Formatter.loggerName ("Formatted output with " ++ f.program.name)
      return some formatted
    | Option.none => tryFormat rest code s

/-- Format code by the first member of a chain that can; it stays as it is where none can. -/
def format (members : List ChainMember) : CodeFormatter := fun code s => do
  return (← tryFormat members (.text code) s).getD code

/-- Is a member of a chain there? The first that is ends the search. -/
def anyAvailable : List ChainMember → Run Bool
  | [] => return false
  | m :: rest => do
    if ← m.isAvailable then return true
    anyAvailable rest

def describe (m : ChainMember) : Value := m.formatter.toValue Formatter.describe

def describeAll (members : List ChainMember) : Value :=
  .object "ChainFormatter" [("formatters", .ok (.list (members.map describe)))]

end ChainMember

end TypeScriptGen
