import TypeScriptGen.Number.Binary64

/-!
Exact numbers: quotients of integers with both infinities and not-a-number, in which whole numbers
of any size and doubles can be compared.
-/

set_option autoImplicit false
set_option relaxedAutoImplicit false

namespace TypeScriptGen

/-- An exact number; `finite num den` is `num / den`, where `0 < den`. -/
inductive Exact where
  | nan
  | infinite (negative : Bool)
  | finite (num : Int) (den : Nat)
deriving DecidableEq, Repr

namespace Exact

def ofBinary64 : Binary64 → Exact
  | .nan => .nan
  | .infinite negative => .infinite negative
  | .finite negative m e =>
    let (num, den) := Binary64.quotient m e
    .finite (if negative then -(num : Int) else num) den

/-- The order of two numbers; not-a-number has none. -/
def compare : Exact → Exact → Option Ordering
  | .nan, _ => none
  | _, .nan => none
  | .infinite a, .infinite b => some (if a == b then .eq else if a then .lt else .gt)
  | .infinite a, .finite _ _ => some (if a then .lt else .gt)
  | .finite _ _, .infinite b => some (if b then .gt else .lt)
  | .finite m c, .finite n d => some (Ord.compare (m * d) (n * c))

end Exact

end TypeScriptGen
