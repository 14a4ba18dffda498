import TypeScriptGen.Host.Basic
import TypeScriptGen.Json.Reader
import TypeScriptGen.Json.Writer

/-!
Loading configurations from files and saving them. A file that is missing, refused by its reader or
no mapping leaves all defaults in place. A fault that stops the reader of YAML stops the loading.
-/

set_option autoImplicit false
set_option relaxedAutoImplicit false

namespace TypeScriptGen

def configLogger : String := "tsemit.utils.config"

def configVariable : String := "TSEMIT_CONFIG"

def compilerVariable : String := "TSEMIT_TSC_PATH"

def validateVariable : String := "TSEMIT_VALIDATE"

namespace Config

def defaultYaml : String := "pkg/tsemit_config.yaml"

def defaultJson : String := "pkg/tsemit_config.json"

/-- The path of the configuration file: the given one, the one that the environment names, or the
default, of which the YAML file comes first. -/
def locate (given : Value) : Run String := do
  if given.holds then
    match given with
    | .text path => return Path.normal path
    | v => throw (.mistyped (.path v.typeName))
  else
    match ← Run.fromEnvironment configVariable with
    | some path => if path.isEmpty then byDefault else return Path.normal path
    | none => byDefault
where
  byDefault : Run String := do
    return if (← get).files.exists? defaultYaml then defaultYaml else defaultJson

def isYaml (path : String) : Bool :=
  [".yaml", ".yml"].contains (Text.lowerLatin (Path.suffix path))

/-- The text of a file, with line ends unified, or why it has none. -/
def decode : FileContent → Except String String
  | .text s => .ok (String.ofList (Text.unifyLineEnds s.toList))
  | .octets bytes =>
    match Text.Utf8.read bytes with
    | .ok s => .ok (String.ofList (Text.unifyLineEnds s.toList))
    | .error e => .error e.message

def readJson (content : FileContent) : Except String Value := do
  let text ← decode content
  match Json.read text with
  | .ok v => return v
  | .error e => throw (e.message text)

def readData (h : Host) (path : String) : Except Unreadable Value := do
  let content ← (h.files.openForReading path).mapError fun e => .refused e.message
  if isYaml path then h.readYaml content else (readJson content).mapError .refused

def loadData (path : String) : Run Value := do
  let h ← get
  if !(← Run.lift ((h.files.lookUp path).mapError .system)) then
    Run.log .debug configLogger
      ("Configuration file " ++ path ++ " not found, using defaults")
    return .dict []
  match readData h path with
  | .error (.refused reason) =>
    Run.log .error configLogger ("Failed to load configuration: " ++ reason)
    return .dict []
  | .error (.broken fault) => throw fault
  | .ok (.dict entries) =>
    Run.log .info configLogger ("Loaded configuration from " ++ path)
    return .dict entries
  | .ok _ =>
    Run.log .warning configLogger
      ("Configuration file " ++ path ++ " is not a mapping, using defaults")
    return .dict []

def load (given : Value) : Run ConfigId := do
  let path ← locate given
  let data ← loadData path
  let switch ← Run.fromEnvironment validateVariable
  let compiler ← Run.fromEnvironment compilerVariable
  Run.addConfig (← Run.lift (ofData path data switch compiler))

/-- What is in force as the configuration; the default one is loaded when there is nothing yet. -/
def current : Run (Supplied ConfigId) := do
  match (← get).current with
  | some c => return c
  | none =>
    let id ← load .none
    modify fun h => { h with current := some (.good id) }
    return .good id

/-- Put something in force as the configuration; nothing at all takes the place of none. -/
def setCurrent (c : Supplied ConfigId) : Run Unit :=
  modify fun h => { h with current := c.present }

/-- The configuration that was supplied, or the one in force if nothing was. What is no
configuration fails at the first feature that is touched and that it lacks. -/
def chosen (given : Supplied ConfigId) (touched : List String) : Run Config := do
  let c ← match given.present with
    | some c => pure c
    | none => current
  Run.config (← Run.lift (c.need touched))

def inForce (touched : List String) : Run Config := chosen (.stray .none) touched

def reportRefusal (e : SystemError) : Run Unit :=
  Run.log .error configLogger ("Failed to save configuration: " ++ e.message)

/-- Fill the file at a place, as far as the writer gets and the system takes it. -/
def fill (c : Config) (place : List String) : Run Unit := do
  let h ← get
  let written := Json.write c.toValue
  match h.cutShort place written.text with
  | some (count, e) =>
    let arrived := String.ofList (written.text.toList.take count)
    set { h with files := h.files.put place (.text arrived) }
    reportRefusal e
  | none =>
    set { h with files := h.files.put place (.text written.text) }
    match written.fault with
    | some fault => throw fault
    | none => Run.log .info configLogger ("Configuration saved to " ++ c.path)

/-- Save a configuration to its file as JSON. The file is emptied before it is filled. -/
def save (id : ConfigId) : Run Unit := do
  let c ← Run.config id
  match (← get).files.openForWriting c.path with
  | .error (.system e) => reportRefusal e
  | .error fault => throw fault
  | .ok place => c.fill place

end Config

end TypeScriptGen
