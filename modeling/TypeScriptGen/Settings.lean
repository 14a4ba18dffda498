import TypeScriptGen.Text.Lines
import TypeScriptGen.Value

/-!
Settings of one emission: how text is laid out and which passes follow. Most slots hold whatever the
caller put there; a value of the wrong type shows only where it is used.
-/

set_option autoImplicit false
set_option relaxedAutoImplicit false

namespace TypeScriptGen

/-- How far generated code is validated. -/
inductive Level where
  | unchecked
  | compiled
deriving DecidableEq, Repr

namespace Level

def word : Level → String
  | .unchecked => "none"
  | .compiled => "syntax"

def name : Level → String
  | .unchecked => "NONE"
  | .compiled => "SYNTAX"

def describe (l : Level) : Value := .member "ValidationLevel" l.name l.word

def rank : Level → Nat
  | .unchecked => 0
  | .compiled => 1

def ofMember? : Value → Option Level
  | .member type name _ =>
    if type == "ValidationLevel" then
      if name == Level.compiled.name then some .compiled else some .unchecked
    else none
  | _ => none

/-- The level that a value names, in any case and with blanks around it. -/
def ofValue (v : Value) : Except Fault Level :=
  match ofMember? v with
  | some level => .ok level
  | none => do
    let word := Text.lowerLatin (Text.trim (← v.toText))
    if word == Level.unchecked.word then return .unchecked
    if word == Level.compiled.word then return .compiled
    throw (.misvalued (.validationLevel v.quoted))

/-- The order of two values, where they have one: levels by rank, numbers by size, texts by their
characters. Not-a-number is comparable, and neither below nor above nor equal. -/
def order? (a b : Value) : Option (Option Ordering) :=
  match ofMember? a, ofMember? b, a, b with
  | some x, some y, _, _ => some (some (Ord.compare x.rank y.rank))
  | _, _, .text s, .text t => some (some (if s < t then .lt else if s == t then .eq else .gt))
  | _, _, a, b =>
    match a.toExact?, b.toExact? with
    | some x, some y => some (x.compare y)
    | _, _ => Option.none

def compare (sign : String) (test : Ordering → Bool) (a b : Value) : Except Fault Bool :=
  match order? a b with
  | some order => .ok (order.elim false test)
  | Option.none => .error (.mistyped (.comparison sign a.typeName b.typeName))

def below (a b : Value) : Except Fault Bool := compare "<" Ordering.isLT a b

/-- Two values compared in all four ways: at least, below, above, at most. The first comparison that
fails decides the fault. -/
def comparisons (a b : Value) : Except Fault (List Bool) := do
  let atLeast ← compare ">=" Ordering.isGE a b
  let below ← below a b
  let above ← compare ">" Ordering.isGT a b
  let atMost ← compare "<=" Ordering.isLE a b
  return [atLeast, below, above, atMost]

end Level

structure Settings where
  indentation : Value := "  "
  endOfLine : Value := "\n"
  header : Value := "// <auto-generated />"
  semicolons : Value := .bool true
  trailingCommas : Value := .bool false
  singleQuotes : Value := .bool true
  formatOutput : Value := .bool false
  level : Level := .unchecked
  compilerPath : Value := .none
  timeLimit : Value := .float (Binary64.ofDecimal false 30 0)

namespace Settings

def semicolon (s : Settings) : String := if s.semicolons.holds then ";" else ""

def usesTabs (s : Settings) : Except Fault Bool := s.indentation.hasChar '\t'

/-- The number of columns of one level of indentation; a tab counts as one. -/
def indentWidth (s : Settings) : Except Fault Nat := do
  if ← s.usesTabs then return 1
  s.indentation.length

def deeper (s : Settings) (indent : String) : Except Fault String :=
  match s.indentation with
  | .text unit => .ok (indent ++ unit)
  | v => .error (.mistyped (.extension "str" v.typeName))

def fields (s : Settings) : List (String × Value) :=
  [("indentation", s.indentation), ("end_of_line", s.endOfLine), ("header_comment", s.header),
    ("use_semicolons", s.semicolons), ("use_trailing_commas", s.trailingCommas),
    ("single_quotes", s.singleQuotes), ("format_output", s.formatOutput),
    ("validation_level", s.level.describe), ("tsc_path", s.compilerPath),
    ("validation_timeout", s.timeLimit)]

def derived (s : Settings) : List (String × Except Fault Value) :=
  [("semicolon", .ok (.text s.semicolon)), ("uses_tabs", s.usesTabs.map .bool),
    ("indent_width", s.indentWidth.map fun n => .int n)]

/-- Replace one setting by name; there may be no such setting. A level is read from its value. -/
def set? (s : Settings) (name : String) (v : Value) : Except Fault (Option Settings) :=
  match name with
  | "indentation" => .ok (some { s with indentation := v })
  | "end_of_line" => .ok (some { s with endOfLine := v })
  | "header_comment" => .ok (some { s with header := v })
  | "use_semicolons" => .ok (some { s with semicolons := v })
  | "use_trailing_commas" => .ok (some { s with trailingCommas := v })
  | "single_quotes" => .ok (some { s with singleQuotes := v })
  | "format_output" => .ok (some { s with formatOutput := v })
  | "validation_level" => do return some { s with level := ← Level.ofValue v }
  | "tsc_path" => .ok (some { s with compilerPath := v })
  | "validation_timeout" => .ok (some { s with timeLimit := v })
  | _ => .ok none

end Settings

end TypeScriptGen
