import TypeScriptGen.Text.Quoted

/-!
Words of a command line, by the quoting rules of the POSIX shell.
-/

set_option autoImplicit false
set_option relaxedAutoImplicit false

namespace TypeScriptGen.Text.ShellWords

/-- Why a command line has no words. -/
inductive Flaw where
  | openQuote
  | openEscape
deriving DecidableEq, Repr

def isGap (c : Char) : Bool :=
  c == ' ' || c == '\t' || c == '\r' || c == '\n'

inductive Mode where
  | bare
  | single
  | double
deriving DecidableEq, Repr

/-- Read on with the word so far (`none` between words, characters in reverse), the words before it
in reverse, and the mode. In double quotes a backslash only quotes the double quote and itself. -/
def readFrom (mode : Mode) (word : Option (List Char)) (done : List (List Char)) :
    List Char → Except Flaw (List (List Char))
  | [] =>
    match mode with
    | .bare => .ok ((word.toList ++ done).reverse.map List.reverse)
    | _ => .error .openQuote
  | c :: rest =>
    let sofar := word.getD []
    match mode with
    | .bare =>
      if isGap c then readFrom .bare none (word.toList ++ done) rest
      else if c == singleQuote then readFrom .single (some sofar) done rest
      else if c == doubleQuote then readFrom .double (some sofar) done rest
      else if c == backslash then
        match rest with
        | [] => .error .openEscape
        | e :: more => readFrom .bare (some (e :: sofar)) done more
      else readFrom .bare (some (c :: sofar)) done rest
    | .single =>
      if c == singleQuote then readFrom .bare (some sofar) done rest
      else readFrom .single (some (c :: sofar)) done rest
    | .double =>
      if c == doubleQuote then readFrom .bare (some sofar) done rest
      else if c == backslash then
        match rest with
        | [] => .error .openEscape
        | e :: more =>
          if e == doubleQuote || e == backslash then
            readFrom .double (some (e :: sofar)) done more
          else readFrom .double (some (e :: c :: sofar)) done more
      else readFrom .double (some (c :: sofar)) done rest

def read (s : String) : Except Flaw (List String) :=
  (readFrom .bare none [] s.toList).map (·.map String.ofList)

end TypeScriptGen.Text.ShellWords
