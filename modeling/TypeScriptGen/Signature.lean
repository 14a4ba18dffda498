import TypeScriptGen.Fault
import TypeScriptGen.Text.Lines

/-!
Signatures of operations that are called by name, and the rule that puts the arguments of a call
into their places: those by position first, then those by name. A name that does not fit is refused
before a wrong number of arguments is.
-/

set_option autoImplicit false
set_option relaxedAutoImplicit false

namespace TypeScriptGen

structure Signature where
  operation : String
  /-- The name of the argument that stands for the owner of the operation, if it has one. It is
  never given and counts all the same. -/
  owner : Option String := none
  required : List String := []
  optional : List String := []
  /-- Any number of arguments may follow those that have a name. -/
  isOpen : Bool := false
  takesAnyName : Bool := false
deriving DecidableEq, Repr

namespace Signature

/-- One more word: the name of an argument, which ends in `=` if it may be left out, a star for any
number of arguments, or two stars for arguments under any name. -/
def addWord (s : Signature) (word : String) : Signature :=
  if word == "*" then { s with isOpen := true }
  else if word == "**" then { s with takesAnyName := true }
  else if word.toList.getLast? == some '=' then
    { s with optional := s.optional ++ [String.ofList word.toList.dropLast] }
  else { s with required := s.required ++ [word] }

def ofWords (operation : String) (owner : Option String) (words : List String) : Signature :=
  words.foldl addWord { operation, owner }

def wordsOf (s : String) : List String :=
  ((s.toList.splitOnP Text.isBlankChar).filter (!·.isEmpty)).map String.ofList

/-- A table of parameters: entries end in semicolons, and in each the names of operations stand in
front of a colon and the words of the parameters that they share behind it. -/
def readTable (s : String) : List (List String × List String) :=
  (Text.splitAtChar ';' s).filterMap fun entry =>
    match Text.splitAtChar ':' entry with
    | [names, parameters] => some (wordsOf names, wordsOf parameters)
    | _ => none

/-- The words for an operation, which is listed under its full name or else under the last part of
it. -/
def wordsFor (table : List (List String × List String)) (name : String) : Option (List String) :=
  [name, (Text.splitAtChar '.' name).getLastD name].findSome? fun n =>
    (table.find? (·.1.contains n)).map Prod.snd

def places (s : Signature) : List String := s.required ++ s.optional

/-- What is wrong with an argument under a name, after some arguments by position. -/
def nameClash? (s : Signature) (given : Nat) (name : String) : Option TypeClash :=
  if (s.owner.toList ++ s.places.take given).contains name then some (.repeated s.operation name)
  else if s.takesAnyName || s.places.contains name then none
  else some (.unexpected s.operation name)

/-- What is wrong with a number of arguments by position. -/
def countClash? (s : Signature) (given : Nat) : Option TypeClash :=
  if s.isOpen || given ≤ s.places.length then none
  else
    let own := s.owner.toList.length
    some (.surplus s.operation (own + s.required.length) (own + s.places.length) (own + given))

def missingClash? (s : Signature) (given : Nat) (names : List String) : Option TypeClash :=
  match (s.required.drop given).filter (!names.contains ·) with
  | [] => none
  | absent => some (.missing s.operation absent)

def clash? (s : Signature) (given : Nat) (names : List String) : Option TypeClash :=
  (names.findSome? (s.nameClash? given)).orElse fun _ =>
    (s.countClash? given).orElse fun _ => s.missingClash? given names

/-- The arguments of a call in their places; a place may be left empty. -/
def arrange {α : Type} (s : Signature) (given : List α) (named : List (String × α)) :
    Except Fault (List (Option α)) :=
  match s.clash? given.length (named.map Prod.fst) with
  | some clash => .error (.mistyped clash)
  | none => .ok (given.map some ++
      (s.places.drop given.length).map fun name => (named.find? (·.1 == name)).map Prod.snd)

end Signature

end TypeScriptGen
