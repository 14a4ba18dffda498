import TypeScriptGen.Text.Quoted

/-!
Reading octets as UTF-8, strictly or with a replacement character for what is malformed.
-/

set_option autoImplicit false
set_option relaxedAutoImplicit false

namespace TypeScriptGen.Text.Utf8

/-- Why octets are not UTF-8. -/
inductive Flaw where
  | startOctet
  | tailOctet
  | endOfData
deriving DecidableEq, Repr

/-- What the next piece of an octet list is: a character with the number of octets it takes, or
a malformed piece of the given length. -/
inductive Piece where
  | char (c : Char) (size : Nat)
  | bad (flaw : Flaw) (size : Nat)
deriving DecidableEq, Repr

/-- For a first octet above 7F: the tail octets it calls for, the bounds of the first of them, and
the bits it brings itself. -/
def leader? (b : Nat) : Option (Nat × Nat × Nat × Nat) :=
  if 0xC2 ≤ b && b ≤ 0xDF then some (1, 0x80, 0xBF, b - 0xC0)
  else if b == 0xE0 then some (2, 0xA0, 0xBF, 0)
  else if b == 0xED then some (2, 0x80, 0x9F, 0xD)
  else if 0xE1 ≤ b && b ≤ 0xEF then some (2, 0x80, 0xBF, b - 0xE0)
  else if b == 0xF0 then some (3, 0x90, 0xBF, 0)
  else if 0xF1 ≤ b && b ≤ 0xF3 then some (3, 0x80, 0xBF, b - 0xF0)
  else if b == 0xF4 then some (3, 0x80, 0x8F, 4)
  else none

/-- Read `owed` tail octets, the first within the bounds `low` and `high`, after `taken` octets
whose bits are `bits`. -/
def tails : (owed low high taken bits : Nat) → List UInt8 → Piece
  | 0, _, _, taken, bits, _ => .char (Char.ofNat bits) taken
  | _ + 1, _, _, taken, _, [] => .bad .endOfData taken
  | owed + 1, low, high, taken, bits, b :: rest =>
    if low ≤ b.toNat && b.toNat ≤ high then
      tails owed 0x80 0xBF (taken + 1) (bits * 64 + (b.toNat - 0x80)) rest
    else .bad .tailOctet taken

/-- The piece that starts with octet `b`. A malformed piece is as long as the part that could still
have become a character. -/
def piece (b : UInt8) (rest : List UInt8) : Piece :=
  if b.toNat < 0x80 then .char (Char.ofNat b.toNat) 1
  else match leader? b.toNat with
    | none => .bad .startOctet 1
    | some (owed, low, high, bits) => tails owed low high 1 bits rest

/-- A malformed piece: the reason, where it starts, its length and its first octet. -/
structure Malformed where
  flaw : Flaw
  position : Nat
  size : Nat
  octet : UInt8
deriving DecidableEq, Repr

/-- The text of the octets, or the first malformed piece. The first argument bounds the number of
pieces and the second is the position of the first octet. -/
def readFrom : (fuel position : Nat) → List UInt8 → Except Malformed (List Char)
  | 0, _, _ => .ok []
  | _, _, [] => .ok []
  | fuel + 1, position, b :: rest =>
    match piece b rest with
    | .char c size => (readFrom fuel (position + size) (rest.drop (size - 1))).map (c :: ·)
    | .bad flaw size => .error ⟨flaw, position, size, b⟩

def read (octets : List UInt8) : Except Malformed String :=
  (readFrom octets.length 0 octets).map String.ofList

/-- The characters of the octets, with U+FFFD for every malformed piece. -/
def repairFrom : (fuel : Nat) → List UInt8 → List Char
  | 0, _ => []
  | _, [] => []
  | fuel + 1, b :: rest =>
    match piece b rest with
    | .char c size => c :: repairFrom fuel (rest.drop (size - 1))
    | .bad _ size => '\uFFFD' :: repairFrom fuel (rest.drop (size - 1))

/-- The text of the octets, with U+FFFD for every malformed piece. -/
def repair (octets : List UInt8) : String :=
  String.ofList (repairFrom octets.length octets)

def Flaw.message : Flaw → String
  | .startOctet => "invalid start byte"
  | .tailOctet => "invalid continuation byte"
  | .endOfData => "unexpected end of data"

def Malformed.message (e : Malformed) : String :=
  let place :=
    if e.size == 1 then
      "byte 0x" ++ String.ofList (hexPadded 2 e.octet.toNat) ++ " in position " ++
        toString e.position
    else "bytes in position " ++ toString e.position ++ "-" ++ toString (e.position + e.size - 1)
  "'utf-8' codec can't decode " ++ place ++ ": " ++ e.flaw.message

end TypeScriptGen.Text.Utf8
