import TypeScriptGen.Layout.Flaw
import TypeScriptGen.Text.Quoted

/-!
Faults: everything that can stop an operation, by cause, with the one function that words them.
-/

set_option autoImplicit false
set_option relaxedAutoImplicit false

namespace TypeScriptGen

/-- A value of the wrong type was used; the texts are names of types. -/
inductive TypeClash where
  /-- The item at an index of a list of lines is no text. -/
  | lineItem (index : Nat) (type : String)
  /-- The two sides cannot be added. -/
  | sum (left right : String)
  | extension (whole part : String)
  /-- A text cannot be repeated that many times. -/
  | repetition (type : String)
  | unpacking (type : String)
  | iteration (type : String)
  | membership (type : String)
  | length (type : String)
  | subscript (type : String)
  | classSubscript (type : String)
  | notGeneric (shown : String)
  | typeArguments (shown : String) (given expected : Nat)
  | callableForm
  | parameterTypes (shown : String)
  | emptyUnion
  | alternative (left right : String)
  | itemKey (sequence key : String)
  | calling (type : String)
  | comparison (operator left right : String)
  | number (type : String)
  | hash (type : String)
  | writing (type : String)
  | encoding (type : String)
  | entryKey (type : String)
  | formatting (type : String)
  | path (type : String)
  /-- No path whose existence can be looked up. -/
  | lookup (type : String)
  | ownText (type : String)
  | loggerName
  /-- No log level; the text is the quoted value. -/
  | logLevel (shown : String)
  | unexpected (operation argument : String)
  | repeated (operation argument : String)
  /-- More arguments are given by position than the operation takes. -/
  | surplus (operation : String) (least most given : Nat)
  | missing (operation : String) (arguments : List String)
  /-- A confirmed result was asked for without passing the gate. -/
  | unconfirmed
deriving DecidableEq, Repr

/-- A value of the right type that is out of place. -/
inductive ValueClash where
  | tooFew (got : Nat)
  | tooMany
  | number (shown : String)
  | validationLevel (shown : String)
  /-- No log level; the text is the quoted value. -/
  | logLevel (shown : String)
  | openQuote
  | openEscape
  | workers
  /-- A path with a character that no file name has. -/
  | nullInPath
  /-- A collection inside itself. -/
  | circular
  | layout (flaw : LayoutFlaw)
deriving DecidableEq, Repr

/-- A refusal by the system: its number, its words and the file concerned. -/
structure SystemError where
  number : Option Int
  words : String
  file : Option String
deriving DecidableEq, Repr

/-- Everything that can stop an operation. -/
inductive Fault where
  /-- A builder was given what it cannot take. -/
  | precondition (message : String) (argument : Option String)
  /-- A result that is not successful was to be confirmed. -/
  | gateRefused (message : String) (diagnostics : Nat)
  | toolMissing (tool reason : String)
  /-- The owner has no such feature; an owner that is not named is the empty text. -/
  | lacks (owner feature : String)
  | derived (type feature : String)
  | beyondEnd (sequence : String)
  | beyondArguments (index : Nat)
  | keyMissing (shown : String)
  | mistyped (clash : TypeClash)
  | misvalued (clash : ValueClash)
  | system (error : SystemError)
  | overflow (message : String)
  | exhausted
  /-- Raised by a collaborator, with its own words. -/
  | raised (message : String)
deriving DecidableEq, Repr

namespace TypeClash

/-- The number of arguments that an operation takes. -/
def countText (least most : Nat) : String :=
  if least < most then
    "from " ++ toString least ++ " to " ++ toString most ++ " positional arguments"
  else toString most ++ " positional argument" ++ (if most == 1 then "" else "s")

/-- Quoted names, the last of them behind the word `and`. -/
def namesText : List String → String
  | [] => ""
  | [name] => Text.quoted name
  | [first, last] => Text.quoted first ++ " and " ++ Text.quoted last
  | [first, second, last] =>
    Text.quoted first ++ ", " ++ Text.quoted second ++ ", and " ++ Text.quoted last
  | name :: rest => Text.quoted name ++ ", " ++ namesText rest

def message : TypeClash → String
  | .lineItem index type =>
    "sequence item " ++ toString index ++ ": expected str instance, " ++ type ++ " found"
  | .sum left right =>
    "unsupported operand type(s) for +: '" ++ left ++ "' and '" ++ right ++ "'"
  | .extension whole part =>
    "can only concatenate " ++ whole ++ " (not \"" ++ part ++ "\") to " ++ whole
  | .repetition type => "can't multiply sequence by non-int of type '" ++ type ++ "'"
  | .unpacking type => "cannot unpack non-iterable " ++ type ++ " object"
  | .iteration type => "'" ++ type ++ "' object is not iterable"
  | .membership type => "argument of type '" ++ type ++ "' is not iterable"
  | .length type => "object of type '" ++ type ++ "' has no len()"
  | .itemKey "str" key => "string indices must be integers, not '" ++ key ++ "'"
  | .itemKey sequence key => sequence ++ " indices must be integers or slices, not " ++ key
  | .subscript type => "'" ++ type ++ "' object is not subscriptable"
  | .classSubscript type => "type '" ++ type ++ "' is not subscriptable"
  | .notGeneric shown => shown ++ " is not a generic class"
  | .typeArguments shown given expected =>
    "Too " ++ (if expected < given then "many" else "few") ++ " arguments for " ++ shown ++
      "; actual " ++ toString given ++ ", expected " ++ toString expected
  | .callableForm => "Callable must be used as Callable[[arg, ...], result]."
  | .parameterTypes shown =>
    "Expected a list of types, an ellipsis, ParamSpec, or Concatenate. Got " ++ shown
  | .emptyUnion => "Cannot take a Union of no types."
  | .alternative left right =>
    "unsupported operand type(s) for |: '" ++ left ++ "' and '" ++ right ++ "'"
  | .calling type => "'" ++ type ++ "' object is not callable"
  | .comparison operator left right =>
    "'" ++ operator ++ "' not supported between instances of '" ++ left ++ "' and '" ++ right ++ "'"
  | .number type => "float() argument must be a string or a real number, not '" ++ type ++ "'"
  | .hash type => "unhashable type: '" ++ type ++ "'"
  | .writing type => "write() argument must be str, not " ++ type
  | .encoding type => "Object of type " ++ type ++ " is not JSON serializable"
  | .entryKey type => "keys must be str, int, float, bool or None, not " ++ type
  | .formatting type => "unsupported format string passed to " ++ type ++ ".__format__"
  | .path type => "expected str, bytes or os.PathLike object, not " ++ type
  | .lookup type => "stat: path should be string, bytes, os.PathLike or integer, not " ++ type
  | .ownText type => "__str__ returned non-string (type " ++ type ++ ")"
  | .loggerName => "A logger name must be a string"
  | .logLevel shown => "Level not an integer or a valid string: " ++ shown
  | .unexpected operation argument =>
    operation ++ "() got an unexpected keyword argument '" ++ argument ++ "'"
  | .repeated operation argument =>
    operation ++ "() got multiple values for argument '" ++ argument ++ "'"
  | .surplus operation least most given =>
    operation ++ "() takes " ++ countText least most ++ " but " ++ toString given ++
      (if given == 1 then " was given" else " were given")
  | .missing operation arguments =>
    operation ++ "() missing " ++ toString arguments.length ++ " required positional argument" ++
      (if arguments.length == 1 then "" else "s") ++ ": " ++ namesText arguments
  | .unconfirmed =>
    "ValidEmit can only be created through OptionalEmit.validate_or_throw or try_validate"

end TypeClash

namespace ValueClash

def message : ValueClash → String
  | .tooFew got => "not enough values to unpack (expected 2, got " ++ toString got ++ ")"
  | .tooMany => "too many values to unpack (expected 2)"
  | .number shown => "could not convert string to float: " ++ shown
  | .validationLevel shown => "Unknown validation level: " ++ shown
  | .logLevel shown => "Unknown level: " ++ shown
  | .openQuote => "No closing quotation"
  | .openEscape => "No escaped character"
  | .workers => "max_workers must be greater than 0"
  | .nullInPath => "embedded null byte"
  | .circular => "Circular reference detected"
  | .layout flaw => flaw.message

end ValueClash

namespace SystemError

/-- The number in brackets, the words, and the quoted file name, as far as they are known. -/
def message (e : SystemError) : String :=
  let head := match e.number with
    | some n => "[Errno " ++ toString n ++ "] " ++ e.words
    | none => e.words
  match e.file with
  | some file => head ++ ": " ++ Text.quoted file
  | none => head

/-- The kinds of refusals that have a name of their own, by number. -/
def kinds : List (Int × String) := [(1, "Permission"), (2, "FileNotFound"), (3, "ProcessLookup"),
  (4, "Interrupted"), (10, "ChildProcess"), (11, "BlockingIO"), (13, "Permission"),
  (17, "FileExists"), (20, "NotADirectory"), (21, "IsADirectory"), (32, "BrokenPipe"),
  (103, "ConnectionAborted"), (104, "ConnectionReset"), (108, "BrokenPipe"), (110, "Timeout"),
  (111, "ConnectionRefused"), (114, "BlockingIO"), (115, "BlockingIO")]

def kind (e : SystemError) : String :=
  ((kinds.find? fun (n, _) => some n == e.number).map Prod.snd).getD "OS"

def noSuchFile (file : String) : SystemError := ⟨some 2, "No such file or directory", some file⟩

def notDirectory (file : String) : SystemError := ⟨some 20, "Not a directory", some file⟩

def longName (file : String) : SystemError := ⟨some 36, "File name too long", some file⟩

def isDirectory (file : String) : SystemError := ⟨some 21, "Is a directory", some file⟩

end SystemError

namespace Fault

def withDetails (message : String) (details : List (String × String)) : String :=
  if details.isEmpty then message
  else message ++ " (" ++ ", ".intercalate (details.map fun (k, v) => k ++ "=" ++ v) ++ ")"

def toolMissingText (tool reason : String) : String :=
  let head := "External tool '" ++ tool ++ "' is not available"
  if reason.isEmpty then head else head ++ ": " ++ reason

def message : Fault → String
  | .precondition message argument =>
    withDetails message (argument.toList.map fun a => ("argument", a))
  | .gateRefused message diagnostics =>
    withDetails message
      (if diagnostics == 0 then [] else [("diagnostic_count", toString diagnostics)])
  | .toolMissing tool reason => withDetails (toolMissingText tool reason) [("tool", tool)]
  | .lacks "" feature => feature
  | .lacks owner feature => owner ++ " has no attribute '" ++ feature ++ "'"
  | .derived type feature =>
    "property '" ++ feature ++ "' of '" ++ type ++ "' object has no setter"
  | .beyondEnd sequence => sequence ++ " index out of range"
  | .beyondArguments index =>
    "Replacement index " ++ toString index ++ " out of range for positional args tuple"
  | .keyMissing shown => shown
  | .mistyped clash => clash.message
  | .misvalued clash => clash.message
  | .system error => error.message
  | .overflow message => message
  | .exhausted => ""
  | .raised message => message

def refuse (message argument : String) : Fault := .precondition message (some argument)

/-- Carry the outcome of a pure step into any setting where faults can be raised. -/
def lift {m : Type → Type} {α : Type} [Monad m] [MonadExceptOf Fault m] : Except Fault α → m α
  | .ok a => pure a
  | .error e => throw e

end Fault

end TypeScriptGen
