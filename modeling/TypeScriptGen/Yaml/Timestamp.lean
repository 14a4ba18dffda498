import TypeScriptGen.Number.Reading

/-!
Dates, and dates with a time of day, as plain scalars spell them.
-/

set_option autoImplicit false
set_option relaxedAutoImplicit false

namespace TypeScriptGen.Yaml

structure TimeOfDay where
  hour : Nat
  minute : Nat
  second : Nat
  offsetHours : Nat
  offsetMinutes : Nat

structure Timestamp where
  year : Nat
  month : Nat
  day : Nat
  time : Option TimeOfDay

namespace Timestamp

/-- A number of at least and at most so many digits, and what follows it. -/
def takeNumber (least most : Nat) (cs : List Char) : Option (Nat × List Char) :=
  let digits := (cs.take most).takeWhile Char.isDigit
  if digits.length < least then none
  else some (Binary64.digitsValue digits, cs.drop digits.length)

def behind? (sign : Char) : List Char → Option (List Char)
  | [] => none
  | c :: rest => if c == sign then some rest else none

/-- A space or a tab, as it may stand between the parts. -/
def isSeparator (c : Char) : Bool := c == ' ' || c == '\t'

/-- What follows the separation of day and time: a letter, or blanks. -/
def behindDay? : List Char → Option (List Char)
  | [] => none
  | c :: rest =>
    if c == 'T' || c == 't' then some rest
    else if isSeparator c then some (rest.dropWhile isSeparator)
    else none

/-- The distance from universal time that ends a text. -/
def offset? (cs : List Char) : Option (Nat × Nat) :=
  match cs.dropWhile isSeparator with
  | [] => if cs.isEmpty then some (0, 0) else none
  | ['Z'] => some (0, 0)
  | sign :: rest => do
    if sign != '+' && sign != '-' then none
    else
      let (hours, tail) ← takeNumber 1 2 rest
      if tail.isEmpty then return (hours, 0)
      let (minutes, final) ← takeNumber 2 2 (← behind? ':' tail)
      if final.isEmpty then return (hours, minutes) else none

/-- The time of day that ends a text. A fraction of a second is passed over. -/
def timeOfDay? (cs : List Char) : Option TimeOfDay := do
  let (hour, rest) ← takeNumber 1 2 cs
  let (minute, rest) ← takeNumber 2 2 (← behind? ':' rest)
  let (second, rest) ← takeNumber 2 2 (← behind? ':' rest)
  let tail := match rest with
    | '.' :: fraction => fraction.dropWhile Char.isDigit
    | _ => rest
  let (hours, minutes) ← offset? tail
  return ⟨hour, minute, second, hours, minutes⟩

/-- A day, or a day and a time. A day alone has two digits for its month and two for its day. -/
def read? (cs : List Char) : Option Timestamp := do
  let (year, rest) ← takeNumber 4 4 cs
  let (month, rest) ← takeNumber 1 2 (← behind? '-' rest)
  let (day, rest) ← takeNumber 1 2 (← behind? '-' rest)
  if rest.isEmpty then
    if cs.length == 10 then return ⟨year, month, day, none⟩ else none
  else return ⟨year, month, day, ← timeOfDay? (← behindDay? rest)⟩

def daysOf (year month : Nat) : Nat :=
  if month == 2 then
    if year % 4 == 0 && (year % 100 != 0 || year % 400 == 0) then 29 else 28
  else if [4, 6, 9, 11].contains month then 30
  else 31

/-- There is such a time, less than a day away from universal time. -/
def isTime (t : TimeOfDay) : Bool :=
  t.hour < 24 && t.minute < 60 && t.second < 60 &&
    60 * t.offsetHours + t.offsetMinutes < 1440

def isDay (t : Timestamp) : Bool :=
  1 ≤ t.year && 1 ≤ t.month && t.month ≤ 12 && 1 ≤ t.day && t.day ≤ daysOf t.year t.month &&
    t.time.all isTime

end Timestamp

end TypeScriptGen.Yaml
