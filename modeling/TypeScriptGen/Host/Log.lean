import TypeScriptGen.Text.Lines
import TypeScriptGen.Value

/-!
Set-up of logging: a threshold and the handlers that records go to.
-/

set_option autoImplicit false
set_option relaxedAutoImplicit false

namespace TypeScriptGen

/-- How serious a log record is. -/
inductive LogSeverity where
  | debug
  | info
  | warning
  | error
deriving DecidableEq, Repr

namespace LogSeverity

def number : LogSeverity → Nat
  | .debug => 10
  | .info => 20
  | .warning => 30
  | .error => 40

def name : LogSeverity → String
  | .debug => "DEBUG"
  | .info => "INFO"
  | .warning => "WARNING"
  | .error => "ERROR"

end LogSeverity

inductive LogHandler where
  | console (threshold : Nat)
  | file (threshold : Nat) (place : List String)
deriving DecidableEq, Repr

namespace LogHandler

def threshold : LogHandler → Nat
  | .console n => n
  | .file n _ => n

def typeName : LogHandler → String
  | .console _ => "StreamHandler"
  | .file _ _ => "FileHandler"

end LogHandler

/-- The set-up of the library's root logger. All other loggers are below it and inherit from it. -/
structure LogSetup where
  threshold : Nat
  handlers : List LogHandler
  propagates : Bool
deriving DecidableEq, Repr

namespace LogSetup

def defaultThreshold : Nat := 30

def initial : LogSetup := ⟨defaultThreshold, [.console defaultThreshold], false⟩

/-- The threshold that counts: zero hands the decision to the outermost logger. -/
def effective (s : LogSetup) : Nat := if s.threshold == 0 then defaultThreshold else s.threshold

def rootName : String := "tsemit"

/-- The name of the logger above all others, to which the library's root does not belong. -/
def outermostName : String := "root"

def effectiveFor (s : LogSetup) (name : String) : Nat :=
  if name == rootName || Text.beginsWith (rootName ++ ".") name then s.effective
  else defaultThreshold

def levelName : Nat → String
  | 10 => "DEBUG"
  | 20 => "INFO"
  | 40 => "ERROR"
  | 50 => "CRITICAL"
  | _ => "WARNING"

/-- The full name of a logger, which is always below the root. -/
def fullName (name : String) : String :=
  if name == rootName || Text.beginsWith (rootName ++ ".") name then name
  else rootName ++ "." ++ name

/-- The layouts of records, quoted, which go by a name as thresholds do. -/
def layoutsText : String :=
  "\x7b'%': (<class 'logging.PercentStyle'>, '%(levelname)s:%(name)s:%(message)s'), " ++
    "'\x7b': (<class 'logging.StrFormatStyle'>, " ++
    "'\x7blevelname\x7d:\x7bname\x7d:\x7bmessage\x7d'), " ++
    "'$': (<class 'logging.StringTemplateStyle'>, " ++
    "'$\x7blevelname\x7d:$\x7bname\x7d:$\x7bmessage\x7d')\x7d"

/-- The threshold that a name stands for, in any case. One name stands for a text and one for the
layouts, which are no thresholds; a name that is not known stands for the default. -/
def thresholdOf (name : String) : Except Fault Nat :=
  match Text.upperLatin name with
  | "DEBUG" => .ok 10
  | "INFO" => .ok 20
  | "WARNING" => .ok 30
  | "WARN" => .ok 30
  | "ERROR" => .ok 40
  | "CRITICAL" => .ok 50
  | "FATAL" => .ok 50
  | "NOTSET" => .ok 0
  | "BASIC_FORMAT" =>
    .error (.misvalued (.logLevel (Text.quoted "%(levelname)s:%(name)s:%(message)s")))
  | "_STYLES" => .error (.mistyped (.logLevel layoutsText))
  | _ => .ok defaultThreshold

end LogSetup

end TypeScriptGen
