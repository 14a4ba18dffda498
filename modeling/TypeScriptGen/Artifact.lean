import TypeScriptGen.Annotation.Mapping
import TypeScriptGen.Annotation.Printer
import TypeScriptGen.Emission
import TypeScriptGen.Expression.ObjectLiteral
import TypeScriptGen.Report

/-!
Artifacts: everything that the library makes or takes, as one type, so that a program can keep
artifacts side by side, hand them back to the library and inspect them.
-/

set_option autoImplicit false
set_option relaxedAutoImplicit false

namespace TypeScriptGen

/-- An artifact. What a program adds of its own is of type `σ`. -/
inductive Artifact (σ : Type) where
  | value (v : Value)
  | tuple (items : List (Artifact σ))
  | list (items : List (Artifact σ))
  | expression (e : Expression)
  | typeExpr (t : TypeExpr)
  /-- A type made of something that is no text. -/
  | template (v : Value)
  | access (a : Access)
  | body (b : Body)
  | parameter (p : Parameter)
  | field (f : Field)
  | property (p : Property)
  | method (d : Method)
  | ctor (c : Constructor)
  | declaration (d : Declaration)
  | arrow (f : Arrow)
  | literal (o : ObjectLiteral)
  | diagnostic (d : Diagnostic)
  | options (o : EmitOptions)
  | checker (c : Checker)
  | codeFormatter (f : CodeFormatter)
  | hint (a : Annotation)
  | config (id : ConfigId) (seen : Config)
  /-- A locator, with what it was last seen to know. -/
  | locator (id : LocatorId) (seen : Locator)
  | validator (v : Validator)
  | formatter (f : Formatter)
  | formatters (members : List ChainMember)
  /-- A logger, with the set-up that it was last seen under. -/
  | logger (name : String) (setup : LogSetup)
  | emitLogger (l : EmitLogger)
  | report (r : Report)
  | result (r : EmitResult)
  | foreign (own : σ)

namespace Artifact

instance {σ : Type} : Inhabited (Artifact σ) := ⟨.value .none⟩

mutual

def describe {σ : Type} : Artifact σ → Value
  | .value v => v
  | .tuple items => .tuple (describeAll items)
  | .list items => .list (describeAll items)
  | .expression e => e.describe
  | .typeExpr t => t.describe
  | .template v => .record "TypeRef" [("value", v)] [] (some v.ownText)
  | .access a => a.describe
  | .body b => b.describe
  | .parameter p => p.describe
  | .field f => f.describe
  | .property p => p.describe
  | .method d => d.describe
  | .ctor c => c.describe
  | .declaration d => d.describe
  | .arrow f => f.describe
  | .literal o => o.describe
  | .diagnostic d => d.describe
  | .options o => o.describe
  | .checker _ => .object "Checker" []
  | .codeFormatter _ => .object "SourceFormatter" []
  | .hint a => a.describe
  | .config _ seen => seen.describe
  | .locator _ seen => seen.describe
  | .validator v => .object "TscValidator" [("timeout", .ok v.limit)]
  | .formatter f => f.describe
  | .formatters members => ChainMember.describeAll members
  | .logger name setup => setup.describeLogger name
  | .emitLogger l =>
    .object "EmitLogger" [("logger", .ok (LogSetup.initial.describeLogger l.name))]
  | .report r => r.describe
  | .result r => r.describe
  | .foreign _ => .object "function" []

def describeAll {σ : Type} : List (Artifact σ) → List Value
  | [] => []
  | a :: rest => a.describe :: describeAll rest

end

/-- Absent, false, zero and empty values do not hold; all other artifacts do. -/
def holds {σ : Type} : Artifact σ → Bool
  | .value v => v.holds
  | .tuple items => !items.isEmpty
  | .list items => !items.isEmpty
  | _ => true

def iterate {σ : Type} : Artifact σ → Except Fault (List (Artifact σ))
  | .tuple items => .ok items
  | .list items => .ok items
  | a => a.describe.iterate.map fun vs => vs.map .value

end Artifact

/-- The types whose members are artifacts. -/
class Kept (α : Type) where
  keep {σ : Type} : α → Artifact σ
  find? {σ : Type} : Artifact σ → Option α := fun _ => Option.none

namespace Artifact

/-- What an artifact is where an `α` is expected. -/
def supplied {σ α : Type} [Kept α] (a : Artifact σ) : Supplied α :=
  match Kept.find? a with
  | some x => .good x
  | Option.none => .stray a.describe

end Artifact

instance : Kept Value where
  keep := .value

instance : Kept Unit where
  keep _ := .value .none

instance : Kept Bool where
  keep b := .value (.bool b)

instance : Kept String where
  keep s := .value (.text s)

instance : Kept (Option String) where
  keep s := .value (.ofOption s)

instance : Kept Expression where
  keep := .expression

instance : Kept TypeExpr where
  keep := .typeExpr

instance : Kept Access where
  keep := .access
  find?
    | .access a => some a
    | _ => Option.none

instance : Kept Body where
  keep := .body
  find?
    | .body b => some b
    | _ => Option.none

instance : Kept Parameter where
  keep := .parameter
  find?
    | .parameter p => some p
    | _ => Option.none

instance : Kept Field where
  keep := .field
  find?
    | .field f => some f
    | _ => Option.none

instance : Kept Property where
  keep := .property
  find?
    | .property p => some p
    | _ => Option.none

instance : Kept Method where
  keep := .method
  find?
    | .method d => some d
    | _ => Option.none

instance : Kept Constructor where
  keep := .ctor
  find?
    | .ctor c => some c
    | _ => Option.none

instance : Kept Declaration where
  keep := .declaration
  find?
    | .declaration d => some d
    | _ => Option.none

instance : Kept Arrow where
  keep := .arrow

instance : Kept ObjectLiteral where
  keep := .literal

instance : Kept Diagnostic where
  keep := .diagnostic
  find?
    | .diagnostic d => some d
    | _ => Option.none

instance : Kept EmitOptions where
  keep := .options
  find?
    | .options o => some o
    | _ => Option.none

instance : Kept Settings where
  keep s := .options { settings := s }
  find?
    | .options o => some o.settings
    | _ => Option.none

instance : Kept Checker where
  keep := .checker
  find?
    | .checker c => some c
    | .validator v => some v.checker
    | _ => Option.none

instance : Kept CodeFormatter where
  keep := .codeFormatter
  find?
    | .codeFormatter f => some f
    | .formatter f => some f.format
    | .formatters members => some (ChainMember.format members)
    | _ => Option.none

instance : Kept ConfigId where
  keep id := .config id default
  find?
    | .config id _ => some id
    | _ => Option.none

instance : Kept LocatorId where
  keep id := .locator id default
  find?
    | .locator id _ => some id
    | _ => Option.none

instance : Kept Validator where
  keep := .validator

instance : Kept Formatter where
  keep := .formatter
  find?
    | .formatter f => some f
    | _ => Option.none

instance : Kept EmitLogger where
  keep := .emitLogger

instance : Kept Report where
  keep := .report

instance : Kept EmitResult where
  keep := .result

instance : Kept ConfirmedCode where
  keep c := .value c.describe

instance : Kept ToolResult where
  keep r := .value r.describe

instance {α : Type} [Kept α] : Kept (List α) where
  keep as := .list (as.map Kept.keep)

instance {α : Type} [Kept α] : Kept (Supplied α) where
  keep
    | .good a => Kept.keep a
    | .stray v => .value v

namespace EmitOptions

def names : List String := (describe {}).fieldNames

/-- Set options by name, all of which are known. Collaborators that are nothing leave the usual ones
in place. -/
def setAll {σ : Type} (o : EmitOptions) : List (String × Artifact σ) → Except Fault EmitOptions
  | [] => .ok o
  | ("checker", a) :: rest => setAll { o with checker := a.supplied.present } rest
  | ("formatter", a) :: rest => setAll { o with formatter := a.supplied.present } rest
  | (name, a) :: rest => do
    match ← o.settings.set? name a.describe with
    | some settings => setAll { o with settings } rest
    | Option.none => setAll o rest

/-- Replace options by name. A name that is not known is refused before any value is looked at. -/
def replace {σ : Type} (o : EmitOptions) (changes : List (String × Artifact σ)) :
    Except Fault EmitOptions :=
  match changes.find? fun change => !names.contains change.1 with
  | some change => .error (.mistyped (.unexpected "EmitOptions.__init__" change.1))
  | Option.none => o.setAll changes

end EmitOptions

namespace Artifact

def isAvailable {σ : Type} : Artifact σ → Run Bool
  | .locator id _ => Locator.isAvailable id
  | .validator v => v.isAvailable
  | .formatter f => f.isAvailable
  | .formatters members => ChainMember.anyAvailable members
  | a => throw (a.describe.lack "is_available")

def chainMember {σ : Type} (a : Artifact σ) : ChainMember := ⟨a.supplied, a.isAvailable⟩

def validatorOn {σ : Type} (a : Artifact σ) (limit : Value) : Validator :=
  { limit, locator := a.supplied, isAvailable := a.isAvailable }

def annotatedType {σ : Type} : Artifact σ → Except Fault TypeExpr
  | .hint a => a.toType
  | a => Annotation.typeOfValue a.describe

/-- An artifact as it is seen now: a logger under the present set-up, a configuration or a locator
in its present state. -/
def seenNow {σ : Type} : Artifact σ → Run (Artifact σ)
  | .config id _ => do return .config id (← Run.config id)
  | .locator id _ => do return .locator id (← Run.locator id)
  | .logger name _ => do return .logger name (← get).logging
  | a => return a

end Artifact

end TypeScriptGen
