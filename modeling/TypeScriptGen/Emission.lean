import TypeScriptGen.Compiler.Validator
import TypeScriptGen.Declaration.Rendering
import TypeScriptGen.EmitResult
import TypeScriptGen.Formatter
import TypeScriptGen.Template

/-!
Emission: a declaration becomes the text of a file, which is then formatted and validated if the
settings ask for it. What goes wrong on the way becomes an error among the diagnostics.
-/

set_option autoImplicit false
set_option relaxedAutoImplicit false

namespace TypeScriptGen

/-- The options of an emission: settings, and collaborators that take the place of the usual
ones. -/
structure EmitOptions where
  settings : Settings := {}
  checker : Option (Supplied Checker) := Option.none
  formatter : Option (Supplied CodeFormatter) := Option.none

namespace EmitOptions

/-- Options under inspection. Of a collaborator only its type is known. -/
def describe (o : EmitOptions) : Value :=
  .record "EmitOptions"
    (o.settings.fields ++
      [("checker", Supplied.optionValue (fun _ => .object "Checker" []) o.checker),
        ("formatter", Supplied.optionValue (fun _ => .object "SourceFormatter" []) o.formatter)])
    o.settings.derived Option.none

end EmitOptions

namespace Emission

def logger : EmitLogger := .ofName "tsemit.emit.emitter"

def nameRequired : String := "Type name is required."

/-- The formatter of an emission. A text in its place is a template for the code and the options. -/
def formatterOf (o : EmitOptions) : Except Fault CodeFormatter :=
  match o.formatter with
  | some (.stray (.text template)) =>
    .ok fun code _ => Run.lift (Template.fill template [.text code, o.describe])
  | some f => f.need ["format"]
  | Option.none => .ok (ChainMember.format ChainMember.defaults)

def checkerOf (o : EmitOptions) : Run Checker := do
  match o.checker with
  | some c => Run.lift (c.need ["validate"])
  | Option.none => return (← Validator.ofPath o.settings.compilerPath o.settings.timeLimit).checker

/-- The text of the file, formatted if the settings ask for it. -/
def produce (d : Declaration) (o : EmitOptions) : Run String := do
  let code ← Run.lift (d.file o.settings)
  if o.settings.formatOutput.holds then
    (← Run.lift (formatterOf o)) code (.good o.settings)
  else return code

/-- What the checker reports about code, if the settings ask for it. -/
def review (o : EmitOptions) (code : String) : Run (List (Supplied Diagnostic)) := do
  match o.settings.level with
  | .unchecked => return []
  | .compiled => (← checkerOf o) (.text code)

def attempt (d : Declaration) (options : Supplied EmitOptions) :
    Run (String × List (Supplied Diagnostic)) := do
  let o ← Run.lift (options.need ["semicolon"])
  let code ← produce d o
  return (code, ← review o code)

def emitNamed (d : Declaration) (options : Supplied EmitOptions) : Run EmitResult := do
  logger.emitStart d.name (.text d.kind.keyword)
  match ← Run.outcome (attempt d options) with
  | .error fault =>
    logger.emitFailure d.name fault.message
    return { code := .none, diagnostics := [⟨.error, fault.message⟩] }
  | .ok (code, findings) =>
    match EmitResult.ofFindings (.text code) findings with
    | .ok r => return r
    | .error fault =>
      logger.emitFailure d.name fault.message
      throw fault

def nameOf : Supplied Declaration → Except Fault Value
  | .good d => .ok d.name
  | .stray v => v.demand "name"

/-- Emit a declaration. What is none may still be found to have a blank name, or none at all. -/
def emit (builder : Supplied Declaration) (options : Supplied EmitOptions) : Run EmitResult := do
  let name ← Run.lift (nameOf builder)
  if ← Run.lift name.isBlank then
    logger.emitFailure (.text (← Run.lift name.toText)) nameRequired
    return { code := .none, diagnostics := [⟨.error, nameRequired⟩] }
  else emitNamed (← Run.lift (builder.need ["kind"])) options

end Emission

end TypeScriptGen
