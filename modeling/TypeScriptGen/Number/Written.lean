import TypeScriptGen.Number.Decimal

/-!
Written forms of a double: the plain form used everywhere, and the fixed form with a number of
places behind the point.
-/

set_option autoImplicit false
set_option relaxedAutoImplicit false

namespace TypeScriptGen

/-- How a decimal is laid out: the greatest number of digits before the point in positional
notation, and whether a whole number keeps a zero after the point. -/
structure NumberStyle where
  maxPoint : Int
  keepZero : Bool
deriving DecidableEq, Repr

/-- Plain numbers are positional below 10^16 and keep a zero after the point. -/
def NumberStyle.plain : NumberStyle := ⟨16, true⟩

namespace Decimal

/-- An exponent with its sign and at least two digits. -/
def exponentText (e : Int) : List Char :=
  let digits := Nat.toDigits 10 e.natAbs
  (if e < 0 then '-' else '+') :: (if digits.length < 2 then '0' :: digits else digits)

def positional (style : NumberStyle) (d : Decimal) : List Char :=
  let digits := d.text
  let point := d.point
  if point ≤ 0 then
    '0' :: '.' :: List.replicate (-point).toNat '0' ++ digits
  else if point < digits.length then
    digits.take point.toNat ++ '.' :: digits.drop point.toNat
  else
    digits ++ List.replicate (point.toNat - digits.length) '0' ++
      if style.keepZero then ['.', '0'] else []

def exponential (d : Decimal) : List Char :=
  let fraction := match d.text with
    | [] => []
    | [c] => [c]
    | c :: rest => c :: '.' :: rest
  fraction ++ 'e' :: exponentText (d.point - 1)

/-- A positive decimal in a style: positional from 10^-4 up to the style's bound. -/
def write (style : NumberStyle) (d : Decimal) : List Char :=
  if -4 < d.point && d.point ≤ style.maxPoint then positional style d else exponential d

end Decimal

namespace Binary64

def signed (negative : Bool) (magnitude : List Char) : String :=
  String.ofList (if negative then '-' :: magnitude else magnitude)

def infiniteText (negative : Bool) : String := if negative then "-inf" else "inf"

/-- A double in a style, with the fewest digits that read back. -/
def writeIn (style : NumberStyle) : Binary64 → String
  | .nan => "nan"
  | .infinite negative => infiniteText negative
  | .finite negative 0 _ => signed negative ('0' :: if style.keepZero then ['.', '0'] else [])
  | .finite negative m e => signed negative ((Decimal.shortest m e).write style)

def text (x : Binary64) : String := x.writeIn .plain

/-- The fixed form: `places` digits after the point. -/
def fixedText (places : Nat) : Binary64 → String
  | .nan => "nan"
  | .infinite negative => infiniteText negative
  | .finite negative m e =>
    let (num, den) := quotient m e
    let digits := (Decimal.roundTo num den (-(places : Int))).text
    let padded := List.replicate (places + 1 - digits.length) '0' ++ digits
    let whole := padded.length - places
    signed negative
      (padded.take whole ++ if places == 0 then [] else '.' :: padded.drop whole)

end Binary64

end TypeScriptGen
