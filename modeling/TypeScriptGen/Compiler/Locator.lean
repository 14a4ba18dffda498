import TypeScriptGen.Host.Logging
import TypeScriptGen.Text.ShellWords
import TypeScriptGen.Tool

/-!
The search for the compiler. A locator remembers what it has found, and locators for the same path
can be shared, so that a search runs once.
-/

set_option autoImplicit false
set_option relaxedAutoImplicit false

namespace TypeScriptGen

namespace Locator

def compiler : String := "tsc"

def packageRunner : String := "npx"

def versionFlag : String := "--version"

/-- The commands to look for where no path is given, the preferred one first. -/
def candidates : List (List String) := [[compiler], [packageRunner, compiler]]

/-- The first candidate that answers a probe, or the bare compiler if none does, so that a later
failure names it. -/
def firstAnswering (limit : Value) : List (List String) → Run (List String)
  | [] => return [compiler]
  | command :: rest => do
    if ← Tool.probe (command ++ [versionFlag]) limit then return command
    firstAnswering limit rest

def wordsOf (line : String) : Except Fault (List String) :=
  match Text.ShellWords.read line with
  | .ok words => .ok words
  | .error .openQuote => .error (.misvalued .openQuote)
  | .error .openEscape => .error (.misvalued .openEscape)

/-- Why a number in place of a path gives no command. The numbers of the standard channels are those
of open files, which are no words; a number that is none of a file cannot be read from either. -/
def numberFault (v : Value) (n : Int) : Fault :=
  if Nat.pow 2 31 ≤ n then .overflow "fd is greater than maximum"
  else if n < -(Nat.pow 2 31) then .overflow "fd is less than minimum"
  else if n == 0 || n == 1 || n == 2 then .mistyped (.lineItem 0 v.typeName)
  else v.lack "read"

/-- The command that an explicit path stands for: the path itself if there is such a file, else the
words of the command line that it is. -/
def commandOfPath (files : Files) : Value → Except Fault (List String)
  | .text path => if files.exists? path then .ok [path] else wordsOf path
  | v =>
    match v.toInt? with
    | some n => .error (numberFault v n)
    | Option.none => .error (.mistyped (.lookup v.typeName))

def search (l : Locator) : Run (List String) := do
  if l.path.holds then Run.lift (commandOfPath (← get).files l.path)
  else firstAnswering l.probeLimit candidates

/-- The command of the compiler. The search runs once. -/
def resolve (id : LocatorId) : Run (List String) := do
  let l ← Run.locator id
  match l.command with
  | some command => return command
  | Option.none =>
    let command ← search l
    (EmitLogger.ofName Tool.loggerName).toolResolution compiler (Tool.commandText command)
    Run.setLocator id { (← Run.locator id) with command := some command }
    return command

/-- Does the compiler answer? The question is asked once. -/
def isAvailable (id : LocatorId) : Run Bool := do
  let l ← Run.locator id
  match l.available with
  | some answer => return answer
  | Option.none =>
    let command ← resolve id
    let answer ← Tool.probe (command ++ [versionFlag]) l.probeLimit
    Run.setLocator id { (← Run.locator id) with available := some answer }
    if !answer then Run.log .debug Tool.loggerName "tsc is not available"
    return answer

/-- What the compiler says about its version, if it runs and says anything. -/
def version (id : LocatorId) : Run (Option String) :=
  tryCatch (do
    let l ← Run.locator id
    let command ← resolve id
    let result ← Tool.run { command := command ++ [versionFlag], limit := l.probeLimit }
    let text := Text.trim result.output
    return if result.succeeded && !text.isEmpty then some text else Option.none) fun fault =>
    match fault with
    | .system _ => return Option.none
    | fault => throw fault

def require (id : LocatorId) : Run (List String) := do
  if ← isAvailable id then resolve id
  else throw (.toolMissing compiler "install TypeScript or set TSEMIT_TSC_PATH")

/-- The arguments that stand in front of a project which is to be checked without writing
anything. -/
def checkFlags : List String := ["--noEmit", "--pretty", "false", "-p"]

def checkCommand (id : LocatorId) (project : String) : Run (List String) := do
  return (← resolve id) ++ checkFlags ++ [project]

/-- The command that checks whatever stands in the place of a project. -/
def checkCommandFor (id : LocatorId) (project : Value) : Run (List Value) := do
  return ((← resolve id) ++ checkFlags).map .text ++ [project]

def sameRequest (a b : List Value) : Bool :=
  a.length == b.length && (a.zip b).all fun (x, y) => x.sameKey y

/-- The shared locator for a request, which is made for the first of its kind. A request is the path
alone, or behind a word that says what it is; the path may be left out. Requests count as different
even where the path comes to the same. -/
def shared (request : List Value) : Run LocatorId := do
  match Value.itemFault? request with
  | some fault => throw fault
  | Option.none =>
    match (← get).shared.find? fun entry => sameRequest entry.1 request with
    | some entry => return entry.2
    | Option.none =>
      let path := (request.getLast?).getD .none
      let id ← Run.addLocator { path, probeLimit := defaultProbeLimit }
      modify fun h => { h with shared := h.shared ++ [(request, id)] }
      return id

end Locator

end TypeScriptGen
