import TypeScriptGen.Config.Basic
import TypeScriptGen.Host.Files
import TypeScriptGen.Host.Log

/-!
The host: everything outside the library that a run can see or change, as one value. External
programs are a function of everything started before, so a statement about all hosts is one about
all behaviours of the programs.
-/

set_option autoImplicit false
set_option relaxedAutoImplicit false

namespace TypeScriptGen

/-- A start of an external program; `folder` holds the files of its working directory if it has one
of its own. -/
structure Launch where
  command : List String
  input : Value := .none
  limit : Value
  folder : Option (List (String × String)) := Option.none

/-- Output of a program that was stopped. -/
inductive Captured where
  | nothing
  | text (s : String)
  | octets (bytes : List UInt8)
deriving DecidableEq, Repr

inductive Reply where
  | refused (fault : Fault)
  | stopped (out err : Captured)
  | exited (code : Int) (out err : String)
deriving DecidableEq, Repr

/-- What a run does that can be observed from outside. -/
inductive Event where
  | launched (launch : Launch)
  | checked (source : Value)
  | formatted (code : String)
  | logged (severity : LogSeverity) (logger message : String)

/-- The search for the compiler: where to look, and what has been found out so far. -/
structure Locator where
  path : Value := .none
  probeLimit : Value
  command : Option (List String) := Option.none
  available : Option Bool := Option.none

def defaultProbeLimit : Value := .float (Binary64.ofDecimal false 15 0)

instance : Inhabited Locator := ⟨{ probeLimit := defaultProbeLimit }⟩

def Locator.describe (l : Locator) : Value :=
  .object "TscEnvironment" [
    ("tsc_path", .ok l.path), ("probe_timeout", .ok l.probeLimit),
    ("_command", .ok ((l.command.map fun ws => .list (ws.map .text)).getD .none)),
    ("_is_available", .ok ((l.available.map .bool).getD .none))]

structure ConfigId where
  index : Nat
deriving DecidableEq, Repr

structure LocatorId where
  index : Nat
deriving DecidableEq, Repr

/-- Why a reader gives no value: it refuses the content, which whoever loads a file reckons with, or
a fault of another kind stops it. -/
inductive Unreadable where
  | refused (message : String)
  | broken (fault : Fault)

/-- Everything outside the library that a run can see or change. -/
structure Host where
  /-- What a start comes to, given all starts before it, the latest first. -/
  respond : List Launch → Launch → Reply
  readYaml : FileContent → Except Unreadable Value := fun _ => .error (.refused "no reader")
  /-- How many characters of a text get into the file at a place, and why no more, if the system
  does not take all of them. -/
  cutShort : List String → String → Option (Nat × SystemError) := fun _ _ => Option.none
  /-- The names of the directories that are made for validations, one after the other. -/
  folderNames : Nat → String := fun n => "tsemit-" ++ toString n
  foldersMade : Nat := 0
  /-- The time stamp of log lines. -/
  stamp : String := "2000-01-01 00:00:00,000"
  /-- The seconds that the clock shows for a run of an external program. -/
  runTime : Binary64 := Binary64.ofDecimal false 0 0
  environment : List (String × String) := []
  files : Files := {}
  configs : List Config := []
  /-- What was put in force as the configuration, once there is something. -/
  current : Option (Supplied ConfigId) := Option.none
  locators : List Locator := []
  /-- The locators that are shared, by the request they were made for. -/
  shared : List (List Value × LocatorId) := []
  logging : LogSetup := .initial
  launches : List Launch := []
  events : List Event := []
  printed : String := ""

/-- The name of the next directory that is made for a validation. -/
def Host.nextFolder (h : Host) : String := h.folderNames h.foldersMade

/-- A computation on the host that a fault can stop; what it did before stays done. -/
abbrev Run := ExceptT Fault (StateM Host)

namespace Run

/-- Raise the outcome of a pure step. -/
def lift {α : Type} (x : Except Fault α) : Run α := Fault.lift x

def fromEnvironment (name : String) : Run (Option String) := do
  return ((← get).environment.find? (·.1 == name)).map Prod.snd

def setVariable (name : String) (value : Option String) : Run Unit :=
  modify fun h =>
    let others := h.environment.filter (·.1 != name)
    { h with environment := value.toList.map (fun s => (name, s)) ++ others }

def changeFiles (f : Files → Files) : Run Unit := modify fun h => { h with files := f h.files }

/-- Make a directory with a name of its own, which is the result. -/
def makeFolder : Run String := do
  let h ← get
  set { h with foldersMade := h.foldersMade + 1 }
  return h.nextFolder

def fileText? (path : String) : Run (Option String) := do
  return ((← get).files.content? (Path.place path)).map FileContent.shown

def outcome {α : Type} (x : Run α) : Run (Except Fault α) :=
  tryCatch (do return .ok (← x)) fun fault => return .error fault

def unrecorded {α : Type} (x : Run α) : Run α := do
  let before := (← get).events
  let result ← outcome x
  modify fun h => { h with events := before }
  lift result

def printing {α : Type} (x : Run α) : Run (α × String) := do
  let before := (← get).printed
  modify fun h => { h with printed := "" }
  let a ← x
  let text := (← get).printed
  modify fun h => { h with printed := before }
  return (a, text)

def record (e : Event) : Run Unit := modify fun h => { h with events := h.events ++ [e] }

def launch (l : Launch) : Run Reply := do
  let h ← get
  set { h with launches := l :: h.launches, events := h.events ++ [Event.launched l] }
  return h.respond h.launches l

def printLine (s : String) : Run Unit :=
  modify fun h => { h with printed := h.printed ++ s ++ "\n" }

end Run

namespace Host

def logLine (h : Host) (severity : LogSeverity) (logger message : String) : String :=
  h.stamp ++ " - " ++ logger ++ " - " ++ severity.name ++ " - " ++ message ++ "\n"

/-- The shape of a time stamp in front of a log line, with `d` for a digit. -/
def stampShape : String := "dddd-dd-dd dd:dd:dd,ddd - "

def withoutStamp (line : String) : String :=
  let shape := stampShape.toList
  let cs := line.toList
  let fits := fun (m, c) => if m == 'd' then Char.isDigit c else m == c
  if shape.length ≤ cs.length && (shape.zip cs).all fits then String.ofList (cs.drop shape.length)
  else line

/-- Hand a line to a handler. Only files keep it. -/
def handle (severity : LogSeverity) (line : String) (f : Files) : LogHandler → Files
  | .console _ => f
  | .file threshold place =>
    if threshold ≤ severity.number then
      f.put place (((f.content? place).getD (.text "")).append line)
    else f

/-- The host after a log record, which counts only from the effective threshold on. -/
def logged (h : Host) (severity : LogSeverity) (logger message : String) : Host :=
  if h.logging.effective ≤ severity.number then
    { h with
      events := h.events ++ [.logged severity logger message]
      files := h.logging.handlers.foldl
        (handle severity (h.logLine severity logger message)) h.files }
  else h

end Host

namespace Run

def log (severity : LogSeverity) (logger message : String) : Run Unit :=
  modify fun h => h.logged severity logger message

def addConfig (c : Config) : Run ConfigId := do
  let h ← get
  set { h with configs := h.configs ++ [c] }
  return ⟨h.configs.length⟩

def config (id : ConfigId) : Run Config := do
  return (← get).configs.getD id.index default

def setConfig (id : ConfigId) (c : Config) : Run Unit :=
  modify fun h => { h with configs := h.configs.set id.index c }

def addLocator (l : Locator) : Run LocatorId := do
  let h ← get
  set { h with locators := h.locators ++ [l] }
  return ⟨h.locators.length⟩

def locator (id : LocatorId) : Run Locator := do
  return (← get).locators.getD id.index default

def setLocator (id : LocatorId) (l : Locator) : Run Unit :=
  modify fun h => { h with locators := h.locators.set id.index l }

end Run

end TypeScriptGen
