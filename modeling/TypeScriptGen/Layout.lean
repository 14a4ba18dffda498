import TypeScriptGen.Layout.Flaw
import TypeScriptGen.Number.Written
import TypeScriptGen.Text.Blank
import TypeScriptGen.Text.Digits

/-!
Layouts: how a text or a number is fitted into a column. A layout is written as fill and alignment,
sign, width, separator, precision and code, each of them optional and in this order.
-/

set_option autoImplicit false
set_option relaxedAutoImplicit false

namespace TypeScriptGen

structure Layout where
  fill : Char := ' '
  align : Char
  sign : Option Char := none
  plainZero : Bool := false
  alternate : Bool := false
  width : Nat := 0
  separator : Option Char := none
  precision : Option Nat := none
  code : Option Char := none
deriving DecidableEq, Repr

namespace Layout

/-- The marks of alignment: left, right, centred, and behind the sign. -/
def isAlignment (c : Char) : Bool := c == '<' || c == '>' || c == '^' || c == '='

def greatest : Nat := Nat.pow 2 63 - 1

def takeNumber (cs : List Char) : Except LayoutFlaw (Option Nat × List Char) :=
  let digits := (cs.takeWhile fun c => (Text.digitValue? c).isSome).filterMap Text.digitValue?
  let value := digits.foldl (fun n d => n * 10 + d) 0
  if digits.isEmpty then .ok (none, cs)
  else if greatest < value then .error .manyDigits
  else .ok (some value, cs.drop digits.length)

def takeMark (c : Char) (cs : List Char) : Bool × List Char :=
  match cs with
  | d :: rest => if d == c then (true, rest) else (false, cs)
  | [] => (false, [])

def takeAlignment : List Char → Option Char × Option Char × List Char
  | f :: a :: rest =>
    if isAlignment a then (some f, some a, rest)
    else if isAlignment f then (none, some f, a :: rest)
    else (none, none, f :: a :: rest)
  | [a] => if isAlignment a then (none, some a, []) else (none, none, [a])
  | [] => (none, none, [])

/-- The separator of groups of digits in front of the rest. -/
def takeSeparator (cs : List Char) : Except LayoutFlaw (Option Char × List Char) :=
  match cs with
  | ',' :: '_' :: _ => .error .twoSeparators
  | '_' :: ',' :: _ => .error .twoSeparators
  | ',' :: rest => .ok (some ',', rest)
  | '_' :: rest => .ok (some '_', rest)
  | rest => .ok (none, rest)

def takePrecision (cs : List Char) : Except LayoutFlaw (Option Nat × List Char) :=
  match cs with
  | '.' :: rest => do
    match ← takeNumber rest with
    | (none, _) => throw .precisionMissing
    | found => return found
  | rest => .ok (none, rest)

def groupedCodes : List Char := ['d', 'e', 'f', 'g', 'E', 'G', '%', 'F']

def baseCodes : List Char := ['b', 'o', 'x', 'X']

def checkSeparator (separator code : Option Char) : Except LayoutFlaw Unit :=
  match separator, code with
  | some mark, some c =>
    if groupedCodes.contains c || (mark == '_' && baseCodes.contains c) then .ok ()
    else .error (.separator mark c)
  | _, _ => .ok ()

/-- The layout that a text states for values of a type, given the code and the alignment of the type
where none is stated. -/
def read (type : String) (usualCode : Option Char) (usualAlign : Char) (s : String) :
    Except LayoutFlaw Layout := do
  let (fill, align, cs) := takeAlignment s.toList
  let (sign, cs) := match cs with
    | c :: rest => if c == '+' || c == '-' || c == ' ' then (some c, rest) else (none, cs)
    | [] => (none, [])
  let (plainZero, cs) := takeMark 'z' cs
  let (alternate, cs) := takeMark '#' cs
  let (zeros, cs) := if fill.isSome then (false, cs) else takeMark '0' cs
  let (width, cs) ← takeNumber cs
  let (separator, cs) ← takeSeparator cs
  let (precision, cs) ← takePrecision cs
  let code ← match cs with
    | [] => pure usualCode
    | [c] => pure (some c)
    | _ => throw (.malformed s type)
  checkSeparator separator code
  return {
    fill := if zeros then '0' else fill.getD ' '
    align := align.getD (if zeros && usualAlign == '>' then '=' else usualAlign)
    sign, plainZero, alternate, separator, precision, code
    width := width.getD 0 }

def unreachable : Nat := Nat.pow 2 32

def checkRoom (l : Layout) : Except LayoutFlaw Unit :=
  if unreachable ≤ l.width then .error .room else .ok ()

def checkPlaces (l : Layout) : Except LayoutFlaw Unit :=
  if Nat.pow 2 31 ≤ l.precision.getD 0 then .error .manyPlaces else .ok ()

/-- Fill up to the width; all that is missing from `length` goes where the alignment says. -/
def surround (l : Layout) (length : Nat) (lead body : List Char) : String :=
  let missing := l.width - length
  let pad (n : Nat) := List.replicate n l.fill
  String.ofList (match l.align with
    | '>' => pad missing ++ lead ++ body
    | '^' => pad (missing / 2) ++ lead ++ body ++ pad (missing - missing / 2)
    | '=' => lead ++ pad missing ++ body
    | _ => lead ++ body ++ pad missing)

def text (l : Layout) (s : String) : Except LayoutFlaw String := do
  match l.code with
  | some 's' => pure ()
  | some c => throw (.unknownCode c "str")
  | none => pure ()
  match l.sign with
  | some c => throw (.sign (c == ' '))
  | none => pure ()
  if l.plainZero then throw (.plainZero "string format")
  if l.alternate then throw .alternate
  if l.align == '=' then throw .alignment
  l.checkRoom
  let cs := match l.precision with
    | some n => s.toList.take n
    | none => s.toList
  return l.surround cs.length [] cs

/-- Digits in groups from the right, with a separator between the groups. The digits come last
first. -/
def groupReversed (size : Nat) (separator : Char) : (index : Nat) → List Char → List Char
  | _, [] => []
  | index, c :: rest =>
    (if index != 0 && index % size == 0 then [separator, c] else [c]) ++
      groupReversed size separator (index + 1) rest

/-- Digits in groups, after zeros have been put in front until the result has at least the given
length. -/
def group (size : Nat) (separator : Option Char) (least : Nat) (digits : List Char) : List Char :=
  match separator with
  | none => List.replicate (least - digits.length) '0' ++ digits
  | some mark =>
    let count := max digits.length (least - (least - 1) / (size + 1))
    (groupReversed size mark 0
      (digits.reverse ++ List.replicate (count - digits.length) '0')).reverse

def signText (l : Layout) (negative : Bool) : List Char :=
  if negative then ['-']
  else match l.sign with
    | some '+' => ['+']
    | some ' ' => [' ']
    | _ => []

/-- A number from its sign, a lead such as `0x`, its leading digits and the rest. -/
def number (l : Layout) (negative : Bool) (lead digits rest : List Char) (size : Nat) : String :=
  let front := l.signText negative ++ lead
  let least := if l.fill == '0' && l.align == '=' then l.width - (front.length + rest.length) else 0
  let grouped := if digits.isEmpty then [] else group size l.separator least digits
  l.surround (front.length + grouped.length + rest.length) front (grouped ++ rest)

def upper (cs : List Char) : List Char := cs.map Char.toUpper

def wholeToBase (l : Layout) (n : Int) (base size : Nat) (lead : List Char) (large : Bool) :
    String :=
  let digits := Nat.toDigits base n.natAbs
  let lead := if l.alternate then lead else []
  if large then l.number (n < 0) (upper lead) (upper digits) [] size
  else l.number (n < 0) lead digits [] size

def checkWhole (l : Layout) : Except LayoutFlaw Unit := do
  if l.precision.isSome then throw .precision
  if l.plainZero then throw (.plainZero "integer format")
  l.checkRoom

/-- The number with exactly `count` significant digits, of which the last is rounded to even. -/
def exactDigits (count : Nat) (m : Nat) (e : Int) : List Char × Int :=
  if m == 0 then (List.replicate count '0', 1)
  else
    let (num, den) := Binary64.quotient m e
    let d := Decimal.roundTo num den (Decimal.magnitude num den - count)
    (d.text.take count, d.point)

/-- Digits with a point behind the first of them, which a lone digit has only if `pointed` says
so. -/
def scientific (digits : List Char) (point : Int) (pointed : Bool) : List Char :=
  let fraction := match digits with
    | [] => []
    | [c] => if pointed then [c, '.'] else [c]
    | c :: rest => c :: '.' :: rest
  fraction ++ 'e' :: Decimal.exponentText (point - 1)

def withoutZeros (digits : List Char) : List Char :=
  match Text.dropEndZeros digits with
  | [] => digits.take 1
  | cs => cs

/-- The general form: `count` significant digits, in positional notation if the point is at most
`bound` digits behind the first and not too far in front of it. -/
def general (l : Layout) (count : Nat) (bound : Int) (pointZero : Bool) (m : Nat) (e : Int) :
    List Char :=
  let (exact, point) := exactDigits count m e
  let digits := if l.alternate then exact else withoutZeros exact
  if point ≤ -4 || bound < point then scientific digits point l.alternate
  else if point ≤ 0 then '0' :: '.' :: List.replicate (-point).toNat '0' ++ digits
  else if point < digits.length then digits.take point.toNat ++ '.' :: digits.drop point.toNat
  else
    digits ++ List.replicate (point.toNat - digits.length) '0' ++
      (if pointZero then ['.', '0'] else if l.alternate then ['.'] else [])

def fixed (l : Layout) (places : Nat) (m : Nat) (e : Int) : List Char :=
  (Binary64.fixedText places (.finite false m e)).toList ++
    if l.alternate && places == 0 then ['.'] else []

/-- The shortest form of a magnitude, which in the alternate layout has a point in any case. -/
def plain (l : Layout) (cs : List Char) : List Char :=
  if l.alternate && !cs.contains '.' then
    cs.takeWhile (· != 'e') ++ '.' :: cs.dropWhile (· != 'e')
  else cs

/-- The magnitude of a finite number by a code; there is none for a code that is not known. -/
def magnitude (l : Layout) (m : Nat) (e : Int) : Option (List Char) :=
  let places := l.precision.getD 6
  let count := max places 1
  match l.code with
  | none =>
    match l.precision with
    | none => some (l.plain (Binary64.text (.finite false m e)).toList)
    | some n => some (l.general (max n 1) ((max n 1 : Nat) - 1 : Int) true m e)
  | some 'e' => some ((fun (d, p) => scientific d p l.alternate) (exactDigits (places + 1) m e))
  | some 'E' =>
    some (upper ((fun (d, p) => scientific d p l.alternate) (exactDigits (places + 1) m e)))
  | some 'f' => some (l.fixed places m e)
  | some 'F' => some (l.fixed places m e)
  | some 'g' => some (l.general count count false m e)
  | some 'n' => some (l.general count count false m e)
  | some 'G' => some (upper (l.general count count false m e))
  | some '%' => some (l.fixed places m e)
  | some _ => none

def hundredfold : Binary64 → Binary64
  | .finite negative m e =>
    let (num, den) := Binary64.quotient m e
    Binary64.ofQuotient negative (num * 100) den
  | x => x

/-- A number in its layout. Only digits that lead are grouped. -/
def real (l : Layout) (type : String) (x : Binary64) : Except LayoutFlaw String := do
  match { l with precision := none }.magnitude 0 0, l.code with
  | none, some c => throw (.unknownCode c type)
  | _, _ => l.checkPlaces
  l.checkRoom
  let percent := l.code == some '%'
  let tail := if percent then ['%'] else []
  let large := l.code == some 'E' || l.code == some 'F' || l.code == some 'G'
  let plain (s : String) (negative : Bool) : String :=
    let cs := s.toList
    l.number negative [] [] ((if large then upper cs else cs) ++ tail) 3
  match if percent then hundredfold x else x with
  | .nan => return plain "nan" false
  | .infinite negative => return plain "inf" negative
  | .finite negative m e =>
    let cs := (l.magnitude m e).getD []
    let isZero := cs.all fun c => !('1' ≤ c && c ≤ '9')
    let negative := negative && !(l.plainZero && isZero)
    return l.number negative [] (cs.takeWhile Char.isDigit) (cs.dropWhile Char.isDigit ++ tail) 3

end Layout

end TypeScriptGen
