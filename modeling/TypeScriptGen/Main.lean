import TypeScriptGen.Info
import TypeScriptGen.Yaml.Reader

/-!
The command that prints the report on the installation. It reads the environment and the
configuration file, starts no programs, and writes the log file if one is asked for.
-/

set_option autoImplicit false
set_option relaxedAutoImplicit false

namespace TypeScriptGen.Command

def variableNames : List String :=
  [levelVariable, configVariable, compilerVariable, validateVariable]

def readVariables : List String → IO (List (String × String))
  | [] => return []
  | name :: rest => do
    let more ← readVariables rest
    match ← IO.getEnv name with
    | some value => return (name, value) :: more
    | none => return more

def readFiles : List String → IO Files
  | [] => return {}
  | path :: rest => do
    let files ← readFiles rest
    try
      let bytes ← IO.FS.readBinFile path
      return files.store path (.octets bytes.toList)
    catch _ => return files

def octetsOf : FileContent → List UInt8
  | .text s => FileContent.encode s
  | .octets bytes => bytes

def writeChanges (before : Files) : List (List String × FileContent) → IO Unit
  | [] => return ()
  | (place, content) :: rest => do
    if before.content? place != some content then
      IO.FS.writeBinFile ("/".intercalate place) (ByteArray.mk (octetsOf content).toArray)
    writeChanges before rest

/-- The facts about the system, from the arguments of the command: version, platform and
architecture. A fact that is not given is missing from the report. -/
def factsOf (arguments : List String) : Value :=
  .dict ((["python_version", "platform"].zip arguments).map
      (fun (name, fact) => (Value.text name, Value.text fact)) ++
    (arguments.drop 2).map fun fact => (.text "architecture", .tuple [.text fact]))

/-- The report starts no programs, so none is installed for it. -/
def absent (_ : List Launch) (l : Launch) : Reply :=
  .refused (.system (.noSuchFile (l.command.headD "")))

/-- Run the report on this machine; the result is the exit code. -/
def report (arguments : List String) : IO UInt32 := do
  let environment ← readVariables variableNames
  let named := (environment.filter (·.1 == configVariable)).map Prod.snd
  let files ← readFiles (named ++ [Config.defaultYaml, Config.defaultJson])
  let host : Host := { respond := absent, readYaml := Yaml.readContent, environment, files }
  let (outcome, after) := (ExceptT.run (Info.report (factsOf arguments))).run host
  IO.print after.printed
  writeChanges files after.files.contents
  match outcome with
  | .ok none => return 0
  | .ok (some code) => return UInt32.ofNat code
  | .error _ => return 1

end TypeScriptGen.Command

def main (arguments : List String) : IO UInt32 := TypeScriptGen.Command.report arguments
