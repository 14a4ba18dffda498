import TypeScriptGen.Number.Binary64
import TypeScriptGen.Text.Blank
import TypeScriptGen.Text.Digits
import TypeScriptGen.Text.Lines

/-!
Reading a number from text: a decimal with digits of any script and single underscores between
digits, an infinity or not-a-number, all with blanks around them.
-/

set_option autoImplicit false
set_option relaxedAutoImplicit false

namespace TypeScriptGen.Binary64

/-- Blanks that may surround a number; the separators 1C to 1F may not. -/
def isMargin (c : Char) : Bool :=
  Text.isBlankChar c && !(0x1C ≤ c.toNat && c.toNat ≤ 0x1F)

def asciiDigit (c : Char) : Char :=
  match Text.digitValue? c with
  | some n => Char.ofNat (0x30 + n)
  | none => c

/-- Remove underscores that stand between two digits; any other underscore is refused. -/
def dropUnderscores : (previous : Char) → List Char → Option (List Char)
  | previous, [] => if previous == '_' then none else some []
  | previous, c :: rest =>
    if c == '_' then
      if previous.isDigit then dropUnderscores c rest else none
    else if previous == '_' && !c.isDigit then none
    else (dropUnderscores c rest).map (c :: ·)

def digitsValue (cs : List Char) : Nat :=
  cs.foldl (fun n c => 10 * n + (c.toNat - 0x30)) 0

/-- A sign in front of a text: whether it is a minus, and the rest. -/
def takeSign : List Char → Bool × List Char
  | '-' :: rest => (true, rest)
  | '+' :: rest => (false, rest)
  | cs => (false, cs)

/-- The exponent part: nothing, or `e` with a sign and digits. -/
def readExponent : List Char → Option Int
  | [] => some 0
  | e :: rest =>
    if e == 'e' || e == 'E' then
      let (negative, digits) := takeSign rest
      if digits.isEmpty || !digits.all Char.isDigit then none
      else
        let n : Int := digitsValue digits
        some (if negative then -n else n)
    else none

/-- An unsigned decimal: digits with a point anywhere among them, and an exponent. -/
def readMagnitude (negative : Bool) (cs : List Char) : Option Binary64 :=
  let whole := cs.takeWhile Char.isDigit
  let rest := cs.dropWhile Char.isDigit
  let (fraction, rest) := match rest with
    | '.' :: more => (more.takeWhile Char.isDigit, more.dropWhile Char.isDigit)
    | _ => ([], rest)
  if whole.isEmpty && fraction.isEmpty then none
  else (readExponent rest).map fun e =>
    ofDecimal negative (digitsValue (whole ++ fraction)) (e - fraction.length)

def readSigned (cs : List Char) : Option Binary64 :=
  let (negative, rest) := takeSign cs
  let word := Text.lowerLatin (String.ofList rest)
  if word == "inf" || word == "infinity" then some (.infinite negative)
  else if word == "nan" then some .nan
  else readMagnitude negative rest

def read? (s : String) : Option Binary64 :=
  let inner := Text.dropEndWhile isMargin (s.toList.dropWhile isMargin)
  (dropUnderscores ' ' (inner.map asciiDigit)).bind readSigned

end TypeScriptGen.Binary64
