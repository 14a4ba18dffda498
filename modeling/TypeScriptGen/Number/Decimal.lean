import TypeScriptGen.Number.Binary64

/-!
Decimal digits of a double: the fewest that read back, and a fixed number of places.
-/

set_option autoImplicit false
set_option relaxedAutoImplicit false

namespace TypeScriptGen

/-- A decimal `digits * 10 ^ exponent`. -/
structure Decimal where
  digits : Nat
  exponent : Int
deriving DecidableEq, Repr

namespace Decimal

/-- The same number without trailing zeros among its digits. -/
def strip : (fuel : Nat) → Decimal → Decimal
  | 0, d => d
  | fuel + 1, d =>
    if d.digits != 0 && d.digits % 10 == 0 then strip fuel ⟨d.digits / 10, d.exponent + 1⟩ else d

def text (d : Decimal) : List Char := Nat.toDigits 10 d.digits

/-- The number of digits before the decimal point; negative for leading zeros after it. -/
def point (d : Decimal) : Int := (d.text.length : Int) + d.exponent

/-- `num / den / 10 ^ e` as a quotient of natural numbers. -/
def shifted (num den : Nat) (e : Int) : Nat × Nat :=
  if 0 ≤ e then (num, den * Nat.pow 10 e.toNat) else (num * Nat.pow 10 (-e).toNat, den)

/-- The number `k` with `10 ^ (k - 1) ≤ num / den < 10 ^ k`. -/
def magnitude (num den : Nat) : Int :=
  let low : Int := (Binary64.digitCount num : Int) - (Binary64.digitCount den : Int)
  let (n, d) := shifted num den low
  if d ≤ n then low + 1 else low

/-- Of the two neighbours of `num / den` on the grid of multiples of `10 ^ e`, the nearer among
those that round to `x`; of two equally near ones the even one. -/
def gridPoint? (x : Binary64) (num den : Nat) (e : Int) : Option Decimal :=
  let (n, d) := shifted num den e
  let below := n / d
  let r := n % d
  let low := Binary64.ofDecimal false below e == x
  let high := Binary64.ofDecimal false (below + 1) e == x
  if r == 0 && low then some ⟨below, e⟩
  else if low && high then
    if 2 * r < d || (2 * r == d && below % 2 == 0) then some ⟨below, e⟩ else some ⟨below + 1, e⟩
  else if low then some ⟨below, e⟩
  else if high then some ⟨below + 1, e⟩
  else none

/-- Try grids from coarse to fine, at most `fuel` of them. -/
def searchGrids (x : Binary64) (num den : Nat) : (fuel : Nat) → (e : Int) → Decimal
  | 0, e => ⟨num * Nat.pow 10 (-e).toNat / den, e⟩
  | fuel + 1, e =>
    match gridPoint? x num den e with
    | some d => d
    | none => searchGrids x num den fuel (e - 1)

/-- The decimal of fewest digits that reads back as the double `m * 2 ^ e`, where `0 < m`; seventeen
digits always suffice. -/
def shortest (m : Nat) (e : Int) : Decimal :=
  let (num, den) := Binary64.quotient m e
  strip 20 (searchGrids (.finite false m e) num den 17 (magnitude num den - 1))

/-- `num / den` rounded to a multiple of `10 ^ e`, a half to the even one. -/
def roundTo (num den : Nat) (e : Int) : Decimal :=
  let (n, d) := shifted num den e
  ⟨Binary64.roundQuotient n d, e⟩

end Decimal

end TypeScriptGen
