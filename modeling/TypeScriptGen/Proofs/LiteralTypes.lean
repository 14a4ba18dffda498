import TypeScriptGen.Proofs.Json.Tokens
import TypeScriptGen.Proofs.Number.WholeNumbers
import TypeScriptGen.Proofs.TypeStructure

/-!
Literal types, read by the rules of the language. A text in double quotes is the sequence of its
UTF-16 code units, where a backslash starts an escape sequence and a line end is no part of it.
Digits are the nearest double.
Main statement: the type of a literal is read as its value, and nothing is left over, exactly if the
value is a number that a double holds, a truth value or a text without quotes, backslashes and line
ends.
-/

set_option autoImplicit false
set_option relaxedAutoImplicit false

namespace TypeScriptGen

namespace StringLiteral

open TypeText (isPlain)

def unitsOf (n : Nat) : List Nat :=
  if n < 0x10000 then [n] else [0xD800 + (n - 0x10000) / 0x400, 0xDC00 + (n - 0x10000) % 0x400]

def units (cs : List Char) : List Nat := cs.flatMap fun c => unitsOf c.toNat

/-- The characters that end a line. Behind a backslash they continue the text on the next one. -/
def lineEnds : List Char := ['\n', '\r', '\u2028', '\u2029']

def letters : List (Char × Nat) :=
  [('b', 8), ('t', 9), ('n', 10), ('v', 11), ('f', 12), ('r', 13)]

def hexNumber? (digits : List Char) : Option Nat :=
  digits.foldlM (fun n d => (Text.hexValue? d).map (16 * n + ·)) 0

/-- The number that as many hexadecimal digits as given write. -/
def hexAhead? (count : Nat) (cs : List Char) : Option Nat :=
  if cs.length < count then none else hexNumber? (cs.take count)

/-- The code units of a code point in braces, and the number of characters with the `u`. -/
def bracedPoint? (cs : List Char) : Option (List Nat × Nat) :=
  let digits := (cs.drop 1).takeWhile (· != '}')
  if digits.isEmpty || cs.length < digits.length + 2 then none
  else do
    let n ← hexNumber? digits
    if n ≤ 0x10FFFF then some (unitsOf n, digits.length + 3) else none

/-- The code units that an escape sequence stands for, by the characters behind its backslash, and
how many of them belong to it. -/
def escape? : List Char → Option (List Nat × Nat)
  | [] => none
  | c :: rest =>
    if c == 'x' then (hexAhead? 2 rest).map fun n => ([n], 3)
    else if c == 'u' then
      if rest.head? == some '{' then bracedPoint? rest
      else (hexAhead? 4 rest).map fun n => ([n], 5)
    else if c == '\r' && rest.head? == some '\n' then some ([], 2)
    else if lineEnds.contains c then some ([], 1)
    else if c == '0' && !(rest.headD ' ').isDigit then some ([0], 1)
    else if c.isDigit then none
    else some (unitsOf ((letters.lookup c).getD c.toNat), 1)

/-- The code units of a text in double quotes, from behind the first quote, and what stands behind
the last one. As many characters as given belong to an escape sequence that has been read. -/
def body : Nat → List Char → Option (List Nat × List Char)
  | _, [] => none
  | taken + 1, _ :: rest => body taken rest
  | 0, c :: rest =>
    if c == '"' then some ([], rest)
    else if c == '\\' then do
      let (own, taken) ← escape? rest
      let (more, behind) ← body taken rest
      return (own ++ more, behind)
    else if c == '\n' || c == '\r' then none
    else do
      let (more, behind) ← body 0 rest
      return (unitsOf c.toNat ++ more, behind)

example : body 0 "a\\x62\\u\x7b1F600\x7d\\\n\\0\" | c".toList =
    some ([0x61, 0x62, 0xD83D, 0xDE00, 0], " | c".toList) := by decide

theorem mem_of_lookup {α β : Type} [BEq α] [LawfulBEq α] {entries : List (α × β)} {a : α} {b : β}
    (known : entries.lookup a = some b) : (a, b) ∈ entries := by
  obtain ⟨before, after, parted, _⟩ := List.lookup_eq_some_iff.mp known
  exact parted ▸ List.mem_append_right before List.mem_cons_self

/-! Code units. -/

variable {cs : List Char}

private theorem units_cons (c : Char) (rest : List Char) :
    units (c :: rest) = unitsOf c.toNat ++ units rest := List.flatMap_cons

private theorem units_append (first second : List Char) :
    units (first ++ second) = units first ++ units second := List.flatMap_append

private theorem one_le_unitsOf (n : Nat) : 1 ≤ (unitsOf n).length := by
  unfold unitsOf
  split
  · exact Nat.le_refl 1
  · exact Nat.one_lt_two.le

private theorem unitsOf_le_two (n : Nat) : (unitsOf n).length ≤ 2 := by
  unfold unitsOf
  split
  · exact Nat.one_lt_two.le
  · exact Nat.le_refl 2

private theorem length_le_units (cs : List Char) : cs.length ≤ (units cs).length := by
  induction cs with
  | nil => exact Nat.zero_le _
  | cons c rest ih =>
    have one := one_le_unitsOf c.toNat
    rw [units_cons, List.length_cons, List.length_append]
    omega

private theorem unitsOf_prefix {c d : Char} {us vs : List Nat}
    (same : unitsOf c.toNat ++ us = unitsOf d.toNat ++ vs) : c = d ∧ us = vs := by
  have valid : c.toNat < 0xD800 ∨ 0xDFFF < c.toNat ∧ c.toNat < 0x110000 := c.valid
  have valid' : d.toNat < 0xD800 ∨ 0xDFFF < d.toNat ∧ d.toNat < 0x110000 := d.valid
  unfold unitsOf at same
  have points : c.toNat = d.toNat ∧ us = vs := by
    split at same <;> split at same <;> simp only [List.cons_append, List.nil_append,
      List.cons.injEq] at same
    · exact same
    · omega
    · omega
    · exact ⟨by omega, same.2.2⟩
  exact ⟨Char.toNat_inj.mp points.1, points.2⟩

theorem units_injective : Function.Injective units := by
  intro cs ds same
  induction cs generalizing ds with
  | nil =>
    have short := length_le_units ds
    rw [← same] at short
    exact (List.eq_nil_of_length_eq_zero (Nat.le_zero.mp short)).symm
  | cons c rest ih =>
    cases ds with
    | nil =>
      have short := length_le_units (c :: rest)
      rw [same] at short
      exact absurd short (Nat.not_succ_le_zero _)
    | cons d more =>
      rw [units_cons, units_cons] at same
      obtain ⟨rfl, others⟩ := unitsOf_prefix same
      rw [ih others]

/-! Escape sequences. -/

private theorem one_le_taken (c : Char) (rest : List Char) (taken : Nat) :
    1 ≤ (units ((c :: rest).take (taken + 1))).length := by
  rw [List.take_succ_cons, units_cons, List.length_append]
  exact Nat.le_add_right_of_le (one_le_unitsOf c.toNat)

private theorem bracedPoint?_le {own : List Nat} {taken : Nat} {d : Char} {rest : List Char}
    (c : Char) (point : bracedPoint? (d :: rest) = some (own, taken)) :
    own.length ≤ (units ((c :: d :: rest).take taken)).length := by
  unfold bracedPoint? at point
  dsimp only at point
  split at point
  case isTrue => cases point
  obtain ⟨n, _, point⟩ := Option.bind_eq_some_iff.mp point
  split at point
  case isFalse => cases point
  cases point
  have first := one_le_unitsOf c.toNat
  have second := one_le_taken d rest
  rw [List.take_succ_cons, units_cons, List.length_append]
  exact (unitsOf_le_two n).trans (Nat.add_le_add first (second _))

private theorem escape?_le {own : List Nat} {taken : Nat}
    (escape : escape? cs = some (own, taken)) : own.length ≤ (units (cs.take taken)).length := by
  cases cs with
  | nil => cases escape
  | cons c rest =>
    have one : ∀ taken, 1 ≤ (units ((c :: rest).take (taken + 1))).length := one_le_taken c rest
    have letter : ∀ p ∈ letters, p.2 < 0x10000 := by decide
    rw [escape?] at escape
    split at escape
    case isTrue =>
      obtain ⟨n, _, same⟩ := Option.map_eq_some_iff.mp escape
      cases same
      exact one 2
    split at escape
    case isTrue =>
      split at escape
      case isTrue braced =>
        -- A code point beyond the first plane is two units, and has a brace besides the `u`.
        obtain ⟨more, rfl⟩ := List.head?_eq_some_iff.mp (eq_of_beq braced)
        exact bracedPoint?_le c escape
      case isFalse =>
        obtain ⟨n, _, same⟩ := Option.map_eq_some_iff.mp escape
        cases same
        exact one 4
    split at escape
    case isTrue =>
      cases escape
      exact Nat.zero_le _
    split at escape
    case isTrue =>
      cases escape
      exact Nat.zero_le _
    split at escape
    case isTrue =>
      cases escape
      exact one 0
    split at escape
    case isTrue => cases escape
    cases escape
    cases known : letters.lookup c with
    | none =>
      rw [Option.getD_none, List.take_succ_cons, units_cons, List.length_append]
      exact Nat.le_add_right _ _
    | some n =>
      rw [Option.getD_some, unitsOf, if_pos (letter (c, n) (mem_of_lookup known))]
      exact one 0

private theorem escaped_le {own more : List Nat} {behind : List Char} {taken : Nat}
    (escape : escape? cs = some (own, taken))
    (shorter : more.length + (units behind).length + 1 ≤ (units (cs.drop taken)).length) :
    (own ++ more).length + (units behind).length + 1 ≤ (units cs).length := by
  have short := escape?_le escape
  have parts := congrArg List.length (units_append (cs.take taken) (cs.drop taken))
  rw [List.take_append_drop, List.length_append] at parts
  rw [List.length_append]
  omega

private theorem body_le {us : List Nat} {behind : List Char} {taken : Nat}
    (reading : body taken cs = some (us, behind)) :
    us.length + (units behind).length + 1 ≤ (units (cs.drop taken)).length := by
  induction cs generalizing us taken with
  | nil => cases reading
  | cons c rest ih =>
    cases taken with
    | succ taken => exact ih reading
    | zero =>
      rw [body] at reading
      rw [List.drop_zero, units_cons, List.length_append]
      split at reading
      case isTrue =>
        cases reading
        have one := one_le_unitsOf c.toNat
        rw [List.length_nil]
        omega
      split at reading
      case isTrue =>
        obtain ⟨⟨own, taken⟩, escape, reading⟩ := Option.bind_eq_some_iff.mp reading
        obtain ⟨⟨more, left⟩, further, reading⟩ := Option.bind_eq_some_iff.mp reading
        cases reading
        exact (escaped_le escape (ih further)).trans (Nat.le_add_left _ _)
      split at reading
      case isTrue => cases reading
      obtain ⟨⟨more, left⟩, further, reading⟩ := Option.bind_eq_some_iff.mp reading
      cases reading
      have shorter := ih further
      rw [List.drop_zero] at shorter
      rw [List.length_append]
      omega

/-- A text is read as what it is, up to the end, if all of its characters stand for themselves. An
escape sequence would leave too few code units, and a quote would leave something over. -/
theorem body_eq_units {s : List Char} :
    body 0 (s ++ ['"']) = some (units s, []) ↔ ∀ c ∈ s, isPlain c = true := by
  induction s with
  | nil => exact ⟨fun _ => nofun, fun _ => rfl⟩
  | cons c rest ih =>
    rw [List.forall_mem_cons, ← ih, List.cons_append, units_cons, body]
    split
    case isTrue quote =>
      cases eq_of_beq quote
      constructor
      · intro reading
        have left := congrArg Prod.snd (Option.some.inj reading)
        exact absurd left (List.append_ne_nil_of_right_ne_nil rest (List.cons_ne_nil _ _))
      · rintro ⟨plain, _⟩
        cases plain
    split
    case isTrue backslash =>
      cases eq_of_beq backslash
      constructor
      · intro reading
        obtain ⟨⟨own, taken⟩, escape, reading⟩ := Option.bind_eq_some_iff.mp reading
        obtain ⟨⟨more, left⟩, further, reading⟩ := Option.bind_eq_some_iff.mp reading
        obtain ⟨same, rfl⟩ := Prod.mk.inj (Option.some.inj reading)
        have short := escaped_le escape (body_le further)
        rw [same, units_append, List.length_append, List.length_append] at short
        have quote : units ['"'] = [0x22] := rfl
        have own : unitsOf '\\'.toNat = [0x5C] := rfl
        rw [quote, own] at short
        simp only [List.length_cons, List.length_nil] at short
        omega
      · rintro ⟨plain, _⟩
        cases plain
    split
    case isTrue lineEnd =>
      constructor
      · intro reading
        cases reading
      · rintro ⟨plain, _⟩
        simp_all [isPlain]
    case isFalse noQuote noBackslash noLineEnd =>
      have plain : isPlain c = true := by simp_all [isPlain]
      rw [and_iff_right plain]
      constructor
      · intro reading
        obtain ⟨⟨more, left⟩, further, reading⟩ := Option.bind_eq_some_iff.mp reading
        obtain ⟨same, rfl⟩ := Prod.mk.inj (Option.some.inj reading)
        rw [further, List.append_cancel_left same]
      · intro reading
        rw [reading]
        rfl

end StringLiteral

/-- What a literal type stands for: the code units of a text, a double or a word of its own. -/
inductive LiteralMeaning where
  | text (units : List Nat)
  | number (x : Binary64)
  | bool (b : Bool)
  | null
deriving DecidableEq, Repr

namespace LiteralMeaning

/-- The number that decimal digits write, without zeros in front. -/
def whole? (digits : List Char) : Option Nat :=
  if digits.isEmpty || !digits.all Char.isDigit then none
  else if digits.head? == some '0' && digits.length != 1 then none
  else some (Nat.ofDigitChars 10 digits 0)

/-- The number that digits write, with or without a sign. -/
def numeral? (cs : List Char) : Option Int :=
  if cs.head? == some '-' then (whole? cs.tail).map fun n => -Int.ofNat n
  else (whole? cs).map Int.ofNat

/-- What a text in double quotes means, from behind the first one, if it ends with the last one. -/
def quoted? (cs : List Char) : Option LiteralMeaning :=
  match StringLiteral.body 0 cs with
  | some (units, []) => some (.text units)
  | _ => none

def words : List (String × LiteralMeaning) :=
  [("true", .bool true), ("false", .bool false), ("null", .null)]

/-- What a text says as a single literal type, with nothing left over. -/
def read (t : String) : Option LiteralMeaning :=
  match t.toList with
  | '"' :: rest => quoted? rest
  | cs => (words.lookup t).or ((numeral? cs).map fun n => .number (Binary64.nearest n))

inductive Means : LiteralMeaning → LiteralValue → Prop
  | text (s : String) : Means (.text (StringLiteral.units s.toList)) (.text s)
  | number {x : Binary64} {n : Int} (whole : x.IsWhole n) : Means (.number x) (.int n)
  | bool (b : Bool) : Means (.bool b) (.bool b)
  | null : Means .null .none

private theorem whole?_toDigits (n : Nat) : whole? (Nat.toDigits 10 n) = some n := by
  obtain ⟨all, leading⟩ := Json.isWhole_toDigits n
  have digits : ((Nat.toDigits 10 n).isEmpty || !(Nat.toDigits 10 n).all Char.isDigit) = false := by
    rw [List.isEmpty_eq_false_iff.mpr Nat.toDigits_ne_nil, List.all_eq_true.mpr all]
    rfl
  have noZeros : ((Nat.toDigits 10 n).head? == some '0' && (Nat.toDigits 10 n).length != 1) =
      false := by
    rcases leading with zero | ⟨c, rest, same, other⟩
    · rw [zero]
      rfl
    · rw [same]
      simp [other]
  rw [whole?, digits, noZeros, Nat.ofDigitChars_ten_toDigits]
  rfl

private theorem read_of_number {t : String} {c : Char} {cs : List Char}
    (listed : t.toList = c :: cs) (start : c = '-' ∨ c.isDigit = true) :
    read t = (numeral? (c :: cs)).map fun n => .number (Binary64.nearest n) := by
  have noQuote : c ≠ '"' := by
    rintro rfl
    exact absurd start (by decide)
  have noWord : words.lookup t = none := by
    have starts : ∀ p ∈ words, (p.1.toList.head?.all fun c => !(c == '-' || c.isDigit)) = true := by
      decide
    cases known : words.lookup t with
    | none => rfl
    | some m =>
      have begins := starts (t, m) (StringLiteral.mem_of_lookup known)
      rw [listed, List.head?_cons, Option.all_some] at begins
      rcases start with rfl | digit
      · cases begins
      · rw [digit, Bool.or_true] at begins
        cases begins
  unfold read
  rw [listed]
  split
  case h_1 same => exact absurd (List.cons.inj same).1 noQuote
  case h_2 => rw [noWord, Option.none_or]

theorem numeral?_toString (n : Int) : ∃ c cs, (toString n).toList = c :: cs ∧
    (c = '-' ∨ c.isDigit = true) ∧ numeral? (c :: cs) = some n := by
  rw [Int.toString_eq_repr, Int.repr_eq_if]
  by_cases negative : n < 0
  case pos =>
    have listed : ("-" ++ (-n).toNat.repr).toList = '-' :: Nat.toDigits 10 (-n).toNat := by
      rw [String.toList_append, Nat.toList_repr]
      rfl
    have back : -Int.ofNat (-n).toNat = n := by
      rw [Int.ofNat_eq_natCast]
      omega
    rw [if_neg (by omega)]
    refine ⟨_, _, listed, .inl rfl, ?_⟩
    rw [numeral?, if_pos (by rfl), List.tail_cons, whole?_toDigits, Option.map_some, back]
  case neg =>
    have listed := Nat.toList_repr (n := n.toNat)
    have filled : Nat.toDigits 10 n.toNat ≠ [] := Nat.toDigits_ne_nil
    obtain ⟨c, rest, same⟩ := List.exists_cons_of_ne_nil filled
    have digit : c.isDigit = true :=
      Json.allDigits_toDigits n.toNat c (same ▸ List.mem_cons_self)
    have unsigned : ¬ ((c :: rest).head? == some '-') = true := by
      intro signed
      cases Option.some.inj (eq_of_beq signed)
      cases digit
    have back : Int.ofNat n.toNat = n := Int.toNat_of_nonneg (by omega)
    rw [if_pos (by omega)]
    refine ⟨c, rest, listed.trans same, .inr digit, ?_⟩
    rw [numeral?, if_neg unsigned, ← same, whole?_toDigits, Option.map_some, back]

theorem read_int (n : Int) : read (toString n) = some (.number (Binary64.nearest n)) := by
  obtain ⟨c, cs, listed, start, written⟩ := numeral?_toString n
  rw [read_of_number listed start, written, Option.map_some]

theorem toString_injective : Function.Injective (toString : Int → String) := by
  intro n k same
  obtain ⟨c, cs, listed, _, written⟩ := numeral?_toString n
  obtain ⟨d, ds, listed', _, written'⟩ := numeral?_toString k
  rw [← listed, same, listed', written'] at written
  exact (Option.some.inj written).symm

private theorem quoted?_eq_some {cs : List Char} {us : List Nat} :
    quoted? cs = some (.text us) ↔ StringLiteral.body 0 cs = some (us, []) := by
  unfold quoted?
  split
  case h_1 units reading => simp [reading]
  case h_2 other => exact iff_of_false nofun (other us)

private theorem read_eq_quoted? (s : String) :
    read ("\"" ++ s ++ "\"") = quoted? (s.toList ++ ['"']) := by
  have listed : ("\"" ++ s ++ "\"").toList = '"' :: (s.toList ++ ['"']) := by
    rw [String.toList_append, String.toList_append]
    rfl
  unfold read
  rw [listed]
  rfl

theorem read_quoted (s : String) : read ("\"" ++ s ++ "\"") =
    some (.text (StringLiteral.units s.toList)) ↔ s.toList.all TypeText.isPlain = true := by
  rw [List.all_eq_true, ← StringLiteral.body_eq_units, ← quoted?_eq_some, read_eq_quoted?]

theorem text_of_read_quoted (s : String) (m : LiteralMeaning)
    (reading : read ("\"" ++ s ++ "\"") = some m) : ∃ us, m = .text us := by
  rw [read_eq_quoted?, quoted?] at reading
  split at reading
  case h_1 units _ =>
    cases reading
    exact ⟨units, rfl⟩
  case h_2 => cases reading

theorem Means.unique {m : LiteralMeaning} {v w : LiteralValue} (first : m.Means v)
    (second : m.Means w) : v = w := by
  cases first with
  | text s =>
    generalize same : StringLiteral.units s.toList = units at second
    cases second with
    | text t => rw [String.toList_inj.mp (StringLiteral.units_injective same)]
  | number whole =>
    cases second with
    | number whole' => rw [whole.unique whole']
  | bool b =>
    cases second
    rfl
  | null =>
    cases second
    rfl

end LiteralMeaning

namespace Annotation

def written : LiteralValue → String
  | .text s => "\"" ++ s ++ "\""
  | .int n => toString n
  | .bool b => if b then "true" else "false"
  | .none => "None"

theorem toType_literal (v : LiteralValue) : toType (.literal [v]) = .ok ⟨written v⟩ := by
  cases v with
  | bool b => cases b <;> rfl
  | _ => rfl

/-- A literal value that is meant by its own spelling: a text that stands for itself between quotes,
a number that a double holds, or a truth value. -/
def IsSpelled : LiteralValue → Prop
  | .text s => s.toList.all TypeText.isPlain = true
  | .int n => Binary64.Holds n.natAbs
  | .bool _ => True
  | .none => False

theorem read_bool (b : Bool) : LiteralMeaning.read (written (.bool b)) = some (.bool b) := by
  cases b <;> decide +kernel

theorem read_none : LiteralMeaning.read (written .none) = Option.none := by
  decide +kernel

theorem read_written_iff (v : LiteralValue) :
    (∃ m, LiteralMeaning.read (written v) = some m ∧ m.Means v) ↔ IsSpelled v := by
  cases v with
  | text s =>
    rw [IsSpelled, ← LiteralMeaning.read_quoted]
    constructor
    · rintro ⟨m, reading, ⟨⟩⟩
      exact reading
    · exact fun reading => ⟨_, reading, .text s⟩
  | int n =>
    rw [IsSpelled, ← Binary64.isWhole_nearest_iff, written, LiteralMeaning.read_int]
    exact ⟨fun ⟨_, rfl, .number whole⟩ => whole, fun whole => ⟨_, rfl, .number whole⟩⟩
  | bool b => exact iff_of_true ⟨_, read_bool b, .bool b⟩ trivial
  | none =>
    refine iff_of_false ?_ not_false
    rintro ⟨m, reading, _⟩
    rw [read_none] at reading
    cases reading

private theorem quoted_ne_written (s : String) {v : LiteralValue} (other : ∀ t, v ≠ .text t) :
    "\"" ++ s ++ "\"" ≠ written v := by
  intro same
  have meant : ∀ m, LiteralMeaning.read (written v) = some m → ∃ us, m = .text us := by
    rw [← same]
    exact LiteralMeaning.text_of_read_quoted s
  cases v with
  | text t => exact other t rfl
  | int n => nomatch meant _ (LiteralMeaning.read_int n)
  | bool b => nomatch meant _ (read_bool b)
  | none =>
    have quote : ("\"" ++ s ++ "\"").toList.head? = some '"' := by
      rw [String.append_assoc, String.toList_append]
      rfl
    rw [same] at quote
    exact absurd quote (by decide)

private theorem read_written_inj {v w : LiteralValue} (first : IsSpelled v) (second : IsSpelled w) :
    LiteralMeaning.read (written v) = LiteralMeaning.read (written w) ↔ v = w := by
  obtain ⟨m, reading, means⟩ := (read_written_iff v).mpr first
  obtain ⟨k, reading', means'⟩ := (read_written_iff w).mpr second
  constructor
  · intro same
    rw [reading, reading', Option.some_inj] at same
    exact means.unique (same ▸ means')
  · rintro rfl
    rfl

theorem written_injective : Function.Injective written := by
  intro v w same
  have reads := congrArg LiteralMeaning.read same
  cases v with
  | text s =>
    cases w with
    | text t => rw [(String.append_right_inj _).mp ((String.append_left_inj _).mp same)]
    | _ => exact absurd same (quoted_ne_written s nofun)
  | int n =>
    cases w with
    | text t => exact absurd same.symm (quoted_ne_written t nofun)
    | int k => rw [LiteralMeaning.toString_injective same]
    | bool c => cases (LiteralMeaning.read_int n).symm.trans (reads.trans (read_bool c))
    | none => cases (LiteralMeaning.read_int n).symm.trans (reads.trans read_none)
  | bool b =>
    cases w with
    | text t => exact absurd same.symm (quoted_ne_written t nofun)
    | int k => cases (read_bool b).symm.trans (reads.trans (LiteralMeaning.read_int k))
    | bool c =>
      cases (read_bool b).symm.trans (reads.trans (read_bool c))
      rfl
    | none => cases (read_bool b).symm.trans (reads.trans read_none)
  | none =>
    cases w with
    | text t => exact absurd same.symm (quoted_ne_written t nofun)
    | int k => cases read_none.symm.trans (reads.trans (LiteralMeaning.read_int k))
    | bool c => cases read_none.symm.trans (reads.trans (read_bool c))
    | none => rfl

/-- Main theorem. The type of a single literal is read as its value, with nothing left over, exactly
if the value is a number that a double holds, a truth value or a text without quotes, backslashes
and line ends; a number is always read as the nearest double, and a text stands between the quotes
as it is. The types of different values have different texts, and as long as they are read as their
values, different meanings. -/
theorem literal_type_reads (v w : LiteralValue) :
    ∃ t u, toType (.literal [v]) = .ok t ∧ toType (.literal [w]) = .ok u ∧
      ((∃ m, LiteralMeaning.read t.value = some m ∧ m.Means v) ↔ IsSpelled v) ∧
      (∀ n, v = .int n → LiteralMeaning.read t.value = some (.number (Binary64.nearest n))) ∧
      (∀ s, v = .text s → TypeExpr.literal (.text s) = .ok t) ∧
      (t = u ↔ v = w) ∧
      (IsSpelled v → IsSpelled w →
        (LiteralMeaning.read t.value = LiteralMeaning.read u.value ↔ v = w)) := by
  refine ⟨⟨written v⟩, ⟨written w⟩, toType_literal v, toType_literal w, read_written_iff v,
    ?_, ?_, ?_, ?_⟩
  · rintro n rfl
    exact LiteralMeaning.read_int n
  · rintro s rfl
    rfl
  · rw [TypeExpr.mk.injEq]
    exact written_injective.eq_iff
  · exact read_written_inj

/-- A quote in a text ends it too early, an escape sequence makes it another text, a number between
two doubles is one of them, and nothing goes by a name that means nothing. -/
theorem literal_type_misreads :
    toType (.literal [.text "a\"b"]) = .ok ⟨"\"a\"b\""⟩ ∧
    LiteralMeaning.read "\"a\"b\"" = Option.none ∧
    toType (.literal [.text "\\x61"]) = .ok ⟨"\"\\x61\""⟩ ∧
    LiteralMeaning.read "\"\\x61\"" = LiteralMeaning.read "\"a\"" ∧
    toType (.literal [.int 9007199254740993]) = .ok ⟨"9007199254740993"⟩ ∧
    LiteralMeaning.read "9007199254740993" = LiteralMeaning.read "9007199254740992" ∧
    toType (.literal [.none]) = .ok ⟨"None"⟩ ∧ LiteralMeaning.read "None" = Option.none ∧
    LiteralMeaning.read "null" = some .null := by
  decide +kernel

end Annotation

end TypeScriptGen
