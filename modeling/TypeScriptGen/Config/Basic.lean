import TypeScriptGen.Host.Path
import TypeScriptGen.Number.Reading
import TypeScriptGen.Settings

/-!
Configurations: three sections of settings, each slot holding what the file or a caller put there.
-/

set_option autoImplicit false
set_option relaxedAutoImplicit false

namespace TypeScriptGen

/-- How code is rendered. -/
structure EmitSection where
  indentSize : Value := .int 2
  useTabs : Value := .bool false
  endOfLine : Value := "\n"
  headerComment : Value := "// <auto-generated />"
  useSemicolons : Value := .bool true
  useTrailingCommas : Value := .bool false
  singleQuotes : Value := .bool true
  formatOutput : Value := .bool false

structure ValidationSection where
  level : Value := "none"
  compilerPath : Value := .none
  timeoutSeconds : Value := .float (Binary64.ofDecimal false 30 0)
  maxWorkers : Value := .int 4

structure LoggingSection where
  level : Value := "WARNING"
  enableFile : Value := .bool false
  file : Value := "tsemit.log"

structure Config where
  path : String
  emission : EmitSection := {}
  validation : ValidationSection := {}
  logging : LoggingSection := {}

instance : Inhabited Config := ⟨{ path := "" }⟩

namespace EmitSection

def fields (s : EmitSection) : List (String × Value) :=
  [("indent_size", s.indentSize), ("use_tabs", s.useTabs), ("end_of_line", s.endOfLine),
    ("header_comment", s.headerComment), ("use_semicolons", s.useSemicolons),
    ("use_trailing_commas", s.useTrailingCommas), ("single_quotes", s.singleQuotes),
    ("format_output", s.formatOutput)]

/-- The indentation that the section asks for: a tab, or as many spaces as it says. -/
def indentation (s : EmitSection) : Except Fault Value :=
  if s.useTabs.holds then .ok "\t"
  else match s.indentSize.toInt? with
    | some n =>
      if Nat.pow 2 63 ≤ n || n < -(Nat.pow 2 63) then
        .error (.overflow "cannot fit 'int' into an index-sized integer")
      else if Layout.unreachable ≤ n then .error .exhausted
      else .ok (.text ("".pushn ' ' n.toNat))
    | none => .error (.mistyped (.repetition s.indentSize.typeName))

end EmitSection

def ValidationSection.fields (s : ValidationSection) : List (String × Value) :=
  [("level", s.level), ("tsc_path", s.compilerPath), ("timeout_seconds", s.timeoutSeconds),
    ("max_workers", s.maxWorkers)]

def LoggingSection.fields (s : LoggingSection) : List (String × Value) :=
  [("level", s.level), ("enable_file_logging", s.enableFile), ("log_file", s.file)]

/-- Assign a slot of the section on emission; any other name is kept nowhere. -/
def EmitSection.assign (s : EmitSection) (slot : String) (v : Value) : EmitSection :=
  match slot with
  | "indent_size" => { s with indentSize := v }
  | "use_tabs" => { s with useTabs := v }
  | "end_of_line" => { s with endOfLine := v }
  | "header_comment" => { s with headerComment := v }
  | "use_semicolons" => { s with useSemicolons := v }
  | "use_trailing_commas" => { s with useTrailingCommas := v }
  | "single_quotes" => { s with singleQuotes := v }
  | "format_output" => { s with formatOutput := v }
  | _ => s

/-- Assign a slot of the section on validation; any other name is kept nowhere. -/
def ValidationSection.assign (s : ValidationSection) (slot : String) (v : Value) :
    ValidationSection :=
  match slot with
  | "level" => { s with level := v }
  | "tsc_path" => { s with compilerPath := v }
  | "timeout_seconds" => { s with timeoutSeconds := v }
  | "max_workers" => { s with maxWorkers := v }
  | _ => s

/-- Assign a slot of the section on logging; any other name is kept nowhere. -/
def LoggingSection.assign (s : LoggingSection) (slot : String) (v : Value) : LoggingSection :=
  match slot with
  | "level" => { s with level := v }
  | "enable_file_logging" => { s with enableFile := v }
  | "log_file" => { s with file := v }
  | _ => s

namespace Config

def toValue (c : Config) : Value :=
  .dict [
    ("version", "1.0"),
    ("description", "tsemit configuration"),
    ("emit", .dictOf c.emission.fields),
    ("validation", .dictOf c.validation.fields),
    ("logging", .dictOf c.logging.fields)]

/-- Is validation asked for? Every level but the one that names none asks for it. -/
def validates (c : Config) : Except Fault Bool := do
  return Text.lowerLatin (← c.validation.level.asText "lower") != Level.unchecked.word

def describePath (path : String) : Value :=
  let stem := String.ofList
    ((Path.name path).toList.take ((Path.name path).length - (Path.suffix path).length))
  .entity "PosixPath" (Value.ownerOf "PosixPath")
    [("name", .ok (.text (Path.name path))), ("stem", .ok (.text stem)),
      ("suffix", .ok (.text (Path.suffix path)))]
    (.ok path) ("PosixPath(" ++ Text.quoted path ++ ")")

def describe (c : Config) : Value :=
  .object "TsEmitConfig" [
    ("config_file", .ok (describePath c.path)),
    ("emit", .ok (.record "EmitConfig" c.emission.fields
      [("indentation", c.emission.indentation)] none)),
    ("validation", .ok (.record "ValidationConfig" c.validation.fields [] none)),
    ("logging", .ok (.record "LoggingConfig" c.logging.fields [] none))]

/-- Assign a slot of a section, which has to be one of the three; all else that a configuration has
is without slots. The indentation is derived from other slots. -/
def assign (c : Config) (sectionName slot : String) (v : Value) : Except Fault Config :=
  match sectionName with
  | "emit" =>
    if slot == "indentation" then .error (.derived "EmitConfig" slot)
    else .ok { c with emission := c.emission.assign slot v }
  | "validation" => .ok { c with validation := c.validation.assign slot v }
  | "logging" => .ok { c with logging := c.logging.assign slot v }
  | name => do throw ((← c.describe.demand name).lack slot)

def settings (c : Config) : Except Fault Settings := do
  let indentation ← c.emission.indentation
  let level ← Level.ofValue c.validation.level
  return {
    indentation, level
    endOfLine := c.emission.endOfLine
    header := c.emission.headerComment
    semicolons := c.emission.useSemicolons
    trailingCommas := c.emission.useTrailingCommas
    singleQuotes := c.emission.singleQuotes
    formatOutput := c.emission.formatOutput
    compilerPath := c.validation.compilerPath
    timeLimit := c.validation.timeoutSeconds }

def slot (data : Value) (name : String) (absent : Value) : Value :=
  (data.lookup? name).getD absent

/-- A section of loaded data. One that is missing or does not hold is empty; any other has to be a
mapping. -/
def sectionData (data : Value) (name : String) : Except Fault Value :=
  match data.lookup? name with
  | none => .ok (.dict [])
  | some v =>
    if !v.holds then .ok (.dict [])
    else match v with
      | .dict _ => .ok v
      | v => .error (v.lack "get")

/-- A value as a number: a text is read, whole numbers and truth values are converted. -/
def toDouble (v : Value) : Except Fault Value :=
  match v with
  | .float x => .ok (.float x)
  | .text s =>
    match Binary64.read? s with
    | some x => .ok (.float x)
    | none => .error (.misvalued (.number (Text.quoted s)))
  | v =>
    match v.toInt? with
    | none => .error (.mistyped (.number v.typeName))
    | some n =>
      match Binary64.ofInt? n with
      | some x => .ok (.float x)
      | none => .error (.overflow "int too large to convert to float")

def trueWords : List String := ["1", "true", "yes", "on"]

def emissionOf (data : Value) : Except Fault EmitSection := do
  let d ← sectionData data "emit"
  let absent : EmitSection := {}
  return {
    indentSize := slot d "indent_size" absent.indentSize
    useTabs := slot d "use_tabs" absent.useTabs
    endOfLine := slot d "end_of_line" absent.endOfLine
    headerComment := slot d "header_comment" absent.headerComment
    useSemicolons := slot d "use_semicolons" absent.useSemicolons
    useTrailingCommas := slot d "use_trailing_commas" absent.useTrailingCommas
    singleQuotes := slot d "single_quotes" absent.singleQuotes
    formatOutput := slot d "format_output" absent.formatOutput }

/-- The validation section of loaded data, under two variables of the environment: one switches
validation on, the other names the compiler. -/
def validationOf (data : Value) (switch compiler : Option String) :
    Except Fault ValidationSection := do
  let d ← sectionData data "validation"
  let absent : ValidationSection := {}
  let on := trueWords.contains (Text.lowerLatin (switch.getD ""))
  let path := match compiler with
    | some p => if p.isEmpty then slot d "tsc_path" .none else .text p
    | none => slot d "tsc_path" .none
  return {
    level := if on then "syntax" else slot d "level" absent.level
    compilerPath := path
    timeoutSeconds := ← toDouble (slot d "timeout_seconds" absent.timeoutSeconds)
    maxWorkers := slot d "max_workers" absent.maxWorkers }

def loggingOf (data : Value) : Except Fault LoggingSection := do
  let d ← sectionData data "logging"
  let absent : LoggingSection := {}
  return {
    level := slot d "level" absent.level
    enableFile := slot d "enable_file_logging" absent.enableFile
    file := slot d "log_file" absent.file }

def ofData (path : String) (data : Value) (switch compiler : Option String) :
    Except Fault Config := do
  let emission ← emissionOf data
  let validation ← validationOf data switch compiler
  let logging ← loggingOf data
  return { path, emission, validation, logging }

end Config

end TypeScriptGen
