import TypeScriptGen.Number.Reading
import TypeScriptGen.Value

/-!
Reading JSON text, with the position of the first flaw. Besides standard JSON the words `NaN`,
`Infinity` and `-Infinity` are numbers; integers and decimals are told apart; of equal keys in an
object the last one counts.
-/

set_option autoImplicit false
set_option relaxedAutoImplicit false

namespace TypeScriptGen.Json

structure Flaw where
  words : String
  position : Nat
deriving DecidableEq, Repr

/-- What has been read, the position behind it, and the characters from there on. -/
abbrev Found (α : Type) := α × Nat × List Char

def isSpace (c : Char) : Bool := c == ' ' || c == '\t' || c == '\n' || c == '\r'

def skipSpace : (position : Nat) → List Char → Nat × List Char
  | position, [] => (position, [])
  | position, c :: rest =>
    if isSpace c then skipSpace (position + 1) rest else (position, c :: rest)

def noValue (position : Nat) : Flaw := ⟨"Expecting value", position⟩

def hexFour? (a b c d : Char) : Option Nat := do
  let high := (← Text.hexValue? a) * 16 + (← Text.hexValue? b)
  let low := (← Text.hexValue? c) * 16 + (← Text.hexValue? d)
  return high * 256 + low

def plainEscape? (c : Char) : Option Char :=
  if c == Text.doubleQuote || c == Text.backslash || c == '/' then some c
  else if c == 'b' then some '\x08'
  else if c == 'f' then some '\x0c'
  else if c == 'n' then some '\n'
  else if c == 'r' then some '\r'
  else if c == 't' then some '\t'
  else none

/-- The first half of a character beyond the basic plane. -/
def isHighHalf (n : Nat) : Bool := 0xD800 ≤ n && n ≤ 0xDBFF

/-- The second half of a character beyond the basic plane. -/
def isLowHalf (n : Nat) : Bool := 0xDC00 ≤ n && n ≤ 0xDFFF

/-- The character of a code unit; a lone half is replaced. -/
def unitChar (n : Nat) : Char :=
  if isHighHalf n || isLowHalf n then '\uFFFD' else Char.ofNat n

def pairChar (high low : Nat) : Char :=
  Char.ofNat (0x10000 + (high - 0xD800) * 0x400 + (low - 0xDC00))

/-- The flaw of a code point escape whose `u` is at a position. -/
def badCodePoint (position : Nat) : Flaw := ⟨"Invalid \\uXXXX escape", position⟩

/-- Put a character in front of what was read. -/
def consChar (c : Char) : Found (List Char) → Found (List Char)
  | (cs, position, rest) => (c :: cs, position, rest)

/-- The rest of a string whose opening quote is at `start`. An escape of a code point must not be
the last thing of the text, and two halves form one character. -/
def stringFrom (start : Nat) : (position : Nat) → List Char → Except Flaw (Found (List Char))
  | _, [] => .error ⟨"Unterminated string starting at", start⟩
  | position, c :: rest =>
    if c == Text.doubleQuote then .ok ([], position + 1, rest)
    else if c == Text.backslash then
      match rest with
      | [] => .error ⟨"Unterminated string starting at", start⟩
      | 'u' :: h1 :: h2 :: h3 :: h4 :: more =>
        match more, hexFour? h1 h2 h3 h4 with
        | [], _ => .error (badCodePoint (position + 1))
        | _, none => .error (badCodePoint (position + 1))
        | b :: v :: l1 :: l2 :: l3 :: l4 :: x :: further, some n =>
          if isHighHalf n && b == Text.backslash && v == 'u' then
            match hexFour? l1 l2 l3 l4 with
            | none => .error (badCodePoint (position + 7))
            | some k =>
              if isLowHalf k then
                (stringFrom start (position + 12) (x :: further)).map (consChar (pairChar n k))
              else
                (stringFrom start (position + 6)
                  (b :: v :: l1 :: l2 :: l3 :: l4 :: x :: further)).map (consChar (unitChar n))
          else
            (stringFrom start (position + 6)
              (b :: v :: l1 :: l2 :: l3 :: l4 :: x :: further)).map (consChar (unitChar n))
        | more, some n => (stringFrom start (position + 6) more).map (consChar (unitChar n))
      | 'u' :: _ => .error (badCodePoint (position + 1))
      | e :: more =>
        match plainEscape? e with
        | some d => (stringFrom start (position + 2) more).map (consChar d)
        | none => .error ⟨"Invalid \\escape", position⟩
    else if c.toNat < 0x20 then .error ⟨"Invalid control character at", position⟩
    else (stringFrom start (position + 1) rest).map (consChar c)

def takeDigits (cs : List Char) : List Char × List Char :=
  (cs.takeWhile Char.isDigit, cs.dropWhile Char.isDigit)

/-- The digits before the point: a zero alone, or digits that do not start with zero. -/
def takeWhole : List Char → Option (List Char × List Char)
  | '0' :: rest => some (['0'], rest)
  | cs => match takeDigits cs with
    | ([], _) => none
    | found => some found

def takeFraction : List Char → List Char × List Char
  | '.' :: rest => match takeDigits rest with
    | ([], _) => ([], '.' :: rest)
    | found => found
  | cs => ([], cs)

def takeExponent (cs : List Char) : Option (Nat × Int × List Char) :=
  match cs with
  | [] => none
  | e :: rest =>
    if e == 'e' || e == 'E' then
      let (negative, tail) := Binary64.takeSign rest
      match takeDigits tail with
      | ([], _) => none
      | (digits, more) =>
        let n : Int := Binary64.digitsValue digits
        some (cs.length - more.length, if negative then -n else n, more)
    else none

def numberFrom (position : Nat) (cs : List Char) : Except Flaw (Found Value) :=
  let (negative, body) := match cs with
    | '-' :: rest => (true, rest)
    | _ => (false, cs)
  match takeWhole body with
  | none => .error (noValue position)
  | some (whole, rest) =>
    let (fraction, rest) := takeFraction rest
    let (exponent, rest) := match takeExponent rest with
      | some (_, e, more) => (some e, more)
      | none => (none, rest)
    let behind := position + (cs.length - rest.length)
    if fraction.isEmpty && exponent.isNone then
      let n : Int := Binary64.digitsValue whole
      .ok (.int (if negative then -n else n), behind, rest)
    else
      let x := Binary64.ofDecimal negative (Binary64.digitsValue (whole ++ fraction))
        (exponent.getD 0 - fraction.length)
      .ok (.float x, behind, rest)

def words : List (String × Value) :=
  [("null", .none), ("true", .bool true), ("false", .bool false), ("NaN", .float .nan),
    ("Infinity", .float (.infinite false)), ("-Infinity", .float (.infinite true))]

def atomFrom (position : Nat) (cs : List Char) : Except Flaw (Found Value) :=
  match words.find? fun entry => entry.1.toList.isPrefixOf cs with
  | some (word, v) => .ok (v, position + word.length, cs.drop word.length)
  | none => numberFrom position cs

/-- Enter a key: an equal key keeps its place and takes the new value. -/
def put (entries : List (Value × Value)) (key : String) (v : Value) : List (Value × Value) :=
  if entries.any fun entry => Value.sameKey (.text key) entry.1 then
    entries.map fun entry => if Value.sameKey (.text key) entry.1 then (entry.1, v) else entry
  else entries ++ [(.text key, v)]

mutual

/-- A value at the front. The fuel bounds the number of values, items and entries. -/
def valueFrom : (fuel position : Nat) → List Char → Except Flaw (Found Value)
  | 0, position, _ => .error (noValue position)
  | _, position, [] => .error (noValue position)
  | fuel + 1, position, c :: rest =>
    if c == Text.doubleQuote then
      (stringFrom position (position + 1) rest).map fun (cs, behind, more) =>
        (.text (String.ofList cs), behind, more)
    else if c == '\x7b' then
      match skipSpace (position + 1) rest with
      | (at', '\x7d' :: more) => .ok (.dict [], at' + 1, more)
      | (at', more) => entriesFrom fuel [] at' more
    else if c == '[' then
      match skipSpace (position + 1) rest with
      | (at', ']' :: more) => .ok (.list [], at' + 1, more)
      | (at', more) => itemsFrom fuel [] at' more
    else atomFrom position (c :: rest)

/-- The items of an array from where one is due, after those already read in reverse. -/
def itemsFrom : (fuel : Nat) → (done : List Value) → (position : Nat) → List Char →
    Except Flaw (Found Value)
  | 0, _, position, _ => .error (noValue position)
  | fuel + 1, done, position, cs => do
    let (v, behind, rest) ← valueFrom fuel position cs
    match skipSpace behind rest with
    | (at', ']' :: more) => return (.list (v :: done).reverse, at' + 1, more)
    | (at', ',' :: more) =>
      let (next, further) := skipSpace (at' + 1) more
      itemsFrom fuel (v :: done) next further
    | (at', _) => throw ⟨"Expecting ',' delimiter", at'⟩

/-- The entries of an object from where a key is due, after those already read. -/
def entriesFrom : (fuel : Nat) → (done : List (Value × Value)) → (position : Nat) → List Char →
    Except Flaw (Found Value)
  | 0, _, position, _ => .error (noValue position)
  | fuel + 1, done, position, cs => do
    match cs with
    | [] => throw ⟨"Expecting property name enclosed in double quotes", position⟩
    | c :: rest =>
      if c != Text.doubleQuote then
        throw ⟨"Expecting property name enclosed in double quotes", position⟩
      let (key, behindKey, afterKey) ← stringFrom position (position + 1) rest
      match skipSpace behindKey afterKey with
      | (at', ':' :: more) =>
        let (start, further) := skipSpace (at' + 1) more
        let (v, behind, remaining) ← valueFrom fuel start further
        let entries := put done (String.ofList key) v
        match skipSpace behind remaining with
        | (close, '\x7d' :: tail) => return (.dict entries, close + 1, tail)
        | (comma, ',' :: tail) =>
          let (next, tail') := skipSpace (comma + 1) tail
          entriesFrom fuel entries next tail'
        | (other, _) => throw ⟨"Expecting ',' delimiter", other⟩
      | (at', _) => throw ⟨"Expecting ':' delimiter", at'⟩

end

def read (s : String) : Except Flaw Value :=
  let cs := s.toList
  if cs.head? == some '\uFEFF' then
    .error ⟨"Unexpected UTF-8 BOM (decode using utf-8-sig)", 0⟩
  else do
    let (start, rest) := skipSpace 0 cs
    let (v, behind, more) ← valueFrom (2 * cs.length + 2) start rest
    match skipSpace behind more with
    | (_, []) => return v
    | (extra, _ :: _) => throw ⟨"Extra data", extra⟩

/-- The report on a flaw: line and column count from one, the position from zero. -/
def Flaw.message (e : Flaw) (s : String) : String :=
  let before := s.toList.take e.position
  let line := before.count '\n' + 1
  let column := (before.reverse.takeWhile (· != '\n')).length + 1
  e.words ++ ": line " ++ toString line ++ " column " ++ toString column ++ " (char " ++
    toString e.position ++ ")"

end TypeScriptGen.Json
