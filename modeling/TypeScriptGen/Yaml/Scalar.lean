import TypeScriptGen.Value
import TypeScriptGen.Yaml.Timestamp

/-!
What a scalar stands for. A plain scalar has the kind that its spelling shows, and every kind has a
reading of its own; a spelling may show a kind and still have no reading.
-/

set_option autoImplicit false
set_option relaxedAutoImplicit false

namespace TypeScriptGen.Yaml

inductive Kind where
  | null
  | bool
  | int
  | float
  | text
  | timestamp
  | mergeMark
  | defaultMark
deriving DecidableEq, Repr

def truthWords : List (String × Bool) :=
  [("yes", true), ("no", false), ("true", true), ("false", false), ("on", true), ("off", false)]

/-- The word is written in small letters, in capitals, or with one capital. -/
def isSpelling (word s : String) : Bool :=
  s == word || s == word.capitalize || s == word.toUpper

def nullWords : List String := ["", "~", "null", "Null", "NULL"]

def isDigitOf (base : Nat) (c : Char) : Bool := c == '_' || (Text.hexValue? c).any (· < base)

def isSixtieth : List Char → Bool
  | [c] => c.isDigit
  | [c, d] => isDigitOf 6 c && c != '_' && d.isDigit
  | _ => false

/-- An unsigned integer: binary, hexadecimal, octal, decimal or in sixtieths. -/
def isNatural : List Char → Bool
  | [] => false
  | ['0'] => true
  | '0' :: 'b' :: digits => !digits.isEmpty && digits.all (isDigitOf 2)
  | '0' :: 'x' :: digits => !digits.isEmpty && digits.all (isDigitOf 16)
  | '0' :: digits => digits.all (isDigitOf 8)
  | c :: rest =>
    c.isDigit &&
      match (c :: rest).splitOn ':' with
      | [] => false
      | whole :: parts => whole.all (isDigitOf 10) && parts.all isSixtieth

def isInteger (cs : List Char) : Bool := isNatural (Binary64.takeSign cs).2

/-- The exponent of a number: nothing, or a letter, a sign and digits. -/
def isExponent : List Char → Bool
  | [] => true
  | e :: sign :: digits =>
    (e == 'e' || e == 'E') && (sign == '+' || sign == '-') && !digits.isEmpty &&
      digits.all Char.isDigit
  | _ => false

/-- A number in sixtieths behind its first colon: the last part has a point. -/
def isSixtiethsReal (cs : List Char) : Bool :=
  let parts := cs.splitOn ':'
  parts.dropLast.all isSixtieth &&
    parts.getLast?.any fun last =>
      isSixtieth (last.takeWhile (· != '.')) &&
        match last.dropWhile (· != '.') with
        | [] => false
        | _ :: fraction => fraction.all (isDigitOf 10)

/-- A number with a point; without digits before the point there is no sign, and a digit has to
follow. -/
def isDecimal (cs : List Char) : Bool :=
  let body := (Binary64.takeSign cs).2
  let startsWell := body.head?.any Char.isDigit
  match body.dropWhile (isDigitOf 10) with
  | '.' :: rest =>
    (startsWell || (cs.head? == some '.' && rest.head?.any Char.isDigit)) &&
      isExponent (rest.dropWhile (isDigitOf 10))
  | ':' :: rest => startsWell && isSixtiethsReal rest
  | _ => false

def isSpecial (cs : List Char) : Bool :=
  [".inf", ".Inf", ".INF"].contains (String.ofList (Binary64.takeSign cs).2) ||
    [".nan", ".NaN", ".NAN"].contains (String.ofList cs)

def Kind.ofPlain (s : String) : Kind :=
  let cs := s.toList
  if truthWords.any fun entry => isSpelling entry.1 s then .bool
  else if isDecimal cs || isSpecial cs then .float
  else if isInteger cs then .int
  else if s == "<<" then .mergeMark
  else if nullWords.contains s then .null
  else if (Timestamp.read? cs).isSome then .timestamp
  else if s == "=" then .defaultMark
  else .text

def baseDigits? (base : Nat) (cs : List Char) : Option Nat :=
  if cs.isEmpty then none
  else cs.foldlM (fun n c => do
    let d ← Text.hexValue? c
    if d < base then return n * base + d else none) 0

/-- The value of an unsigned integer without underscores. -/
def natural? : List Char → Option Nat
  | [] => none
  | ['0'] => some 0
  | '0' :: 'b' :: digits => baseDigits? 2 digits
  | '0' :: 'x' :: digits => baseDigits? 16 digits
  | '0' :: digits => baseDigits? 8 digits
  | cs => (cs.splitOn ':').foldlM (fun n part => do return 60 * n + (← baseDigits? 10 part)) 0

def integer? (cs : List Char) : Option Int :=
  match Binary64.takeSign (cs.filter (· != '_')) with
  | (negative, body) => (natural? body).map fun n => if negative then -(n : Int) else n

/-- The sum of a number and a multiple of another, rounded after each step; neither number is
negative. -/
def addMultiple (sum : Binary64) (factor : Nat) (x : Binary64) : Binary64 :=
  match x with
  | .finite _ m e =>
    match Binary64.quotient m e with
    | (n, d) =>
      match Binary64.ofQuotient false (n * factor) d, sum with
      | .finite _ m e, .finite _ m' e' =>
        let (n, d) := Binary64.quotient m e
        let (n', d') := Binary64.quotient m' e'
        Binary64.ofQuotient false (n * d' + n' * d) (d * d')
      | .finite .., other => other
      | other, _ => other
  | other => other

def sixtieths? (parts : List (List Char)) : Option Binary64 := do
  let values ← parts.reverse.mapM fun part => Binary64.read? (String.ofList part)
  return (values.foldl (fun (sum, factor) x => (addMultiple sum factor x, 60 * factor))
    (Binary64.zero false, 1)).1

def real? (cs : List Char) : Option Binary64 :=
  let (negative, body) := Binary64.takeSign (cs.filter (· != '_'))
  let word := Text.lowerLatin (String.ofList body)
  let magnitude :=
    if word == ".inf" then some (.infinite false)
    else if word == ".nan" then some .nan
    else if body.contains ':' then sixtieths? (body.splitOn ':')
    else Binary64.read? word
  magnitude.map fun x => if negative then negate x else x
where
  negate : Binary64 → Binary64
    | .nan => .nan
    | .infinite negative => .infinite !negative
    | .finite negative m e => .finite (!negative) m e

/-- The value of a date: an object of which only the type is known. -/
def Timestamp.toValue (t : Timestamp) : Value :=
  .object (if t.time.isSome then "datetime.datetime" else "datetime.date") []

def Kind.read? (kind : Kind) (s : String) : Option Value :=
  match kind with
  | .null => some .none
  | .bool => (truthWords.find? (·.1 == Text.lowerLatin s)).map fun entry => .bool entry.2
  | .int => (integer? s.toList).map .int
  | .float => (real? s.toList).map .float
  | .text => some (.text s)
  | .timestamp => (Timestamp.read? s.toList).bind fun t => if t.isDay then some t.toValue else none
  | .mergeMark => none
  | .defaultMark => none

end TypeScriptGen.Yaml
