import TypeScriptGen.Json.Reader
import TypeScriptGen.Json.Writer
import TypeScriptGen.Proofs.Number.ReadBack

/-!
Tokens of JSON text that were written are read back: strings character by character, whole numbers
digit by digit, and doubles in both of their notations. What follows a token is left alone, as long
as it cannot be taken for a part of it.
-/

set_option autoImplicit false
set_option relaxedAutoImplicit false

namespace TypeScriptGen.Json

/-- The reader gives `a` and goes on with `rest`, wherever that is. -/
def Finds {α : Type} (x : Except Flaw (Found α)) (a : α) (rest : List Char) : Prop :=
  ∃ behind, x = .ok (a, behind, rest)

/-! Strings. -/

private theorem hexValue?_hexDigit {n : Nat} (small : n < 16) :
    Text.hexValue? (Text.hexDigit n) = some n := by
  have all : ∀ k : Fin 16, Text.hexValue? (Text.hexDigit k) = some k.val := by decide
  exact all ⟨n, small⟩

private theorem hexFour?_hexPadded {n : Nat} (small : n < 0x10000) :
    ∃ a b c d, Text.hexPadded 4 n = [a, b, c, d] ∧ hexFour? a b c d = some n := by
  refine ⟨_, _, _, _, rfl, ?_⟩
  unfold hexFour?
  rw [hexValue?_hexDigit (by omega), hexValue?_hexDigit (by omega), hexValue?_hexDigit (by omega),
    hexValue?_hexDigit (by omega)]
  change some _ = some n
  congr 1
  omega

private theorem stringFrom_unitEscape {n : Nat} (small : n < 0x10000) (whole : isHighHalf n = false)
    {more : List Char} (followed : more ≠ []) (start position : Nat) :
    stringFrom start position (unitEscape n ++ more) =
      (stringFrom start (position + 6) more).map (consChar (unitChar n)) := by
  obtain ⟨a, b, c, d, digits, value⟩ := hexFour?_hexPadded small
  unfold unitEscape
  rw [digits]
  change stringFrom start position (Text.backslash :: 'u' :: a :: b :: c :: d :: more) = _
  conv => lhs; unfold stringFrom
  rw [if_neg (by decide), if_pos (by decide)]
  simp only [value]
  split
  · exact absurd rfl followed
  · simp_all
  · simp_all
  · simp_all

private theorem stringFrom_pair {n k : Nat} (high : isHighHalf n = true) (low : isLowHalf k = true)
    {more : List Char} (followed : more ≠ []) (start position : Nat) :
    stringFrom start position (unitEscape n ++ unitEscape k ++ more) =
      (stringFrom start (position + 12) more).map (consChar (pairChar n k)) := by
  have smallHigh : n < 0x10000 := by
    simp [isHighHalf] at high
    omega
  have smallLow : k < 0x10000 := by
    simp [isLowHalf] at low
    omega
  obtain ⟨a, b, c, d, digits, value⟩ := hexFour?_hexPadded smallHigh
  obtain ⟨a', b', c', d', digits', value'⟩ := hexFour?_hexPadded smallLow
  obtain ⟨x, further, rfl⟩ := List.exists_cons_of_ne_nil followed
  unfold unitEscape
  rw [digits, digits']
  change stringFrom start position (Text.backslash :: 'u' :: a :: b :: c :: d ::
    Text.backslash :: 'u' :: a' :: b' :: c' :: d' :: x :: further) = _
  conv => lhs; unfold stringFrom
  rw [if_neg (by decide), if_pos (by decide)]
  simp only [value, high, value', low]
  rfl

private theorem toNat_cases (c : Char) : c.toNat < 0xD800 ∨ 0xDFFF < c.toNat ∧ c.toNat < 0x110000 :=
  c.valid

private theorem stringFrom_plain {c : Char} (noQuote : (c == Text.doubleQuote) = false)
    (noEscape : (c == Text.backslash) = false) (large : 0x20 ≤ c.toNat) (more : List Char)
    (start position : Nat) : stringFrom start position (c :: more) =
      (stringFrom start (position + 1) more).map (consChar c) := by
  conv => lhs; unfold stringFrom
  rw [noQuote, noEscape, if_neg (by decide), if_neg (by decide), if_neg (by omega)]

private theorem stringFrom_escape {e d : Char} (given : plainEscape? e = some d) (other : e ≠ 'u')
    (more : List Char) (start position : Nat) :
    stringFrom start position ([Text.backslash, e] ++ more) =
      (stringFrom start (position + 2) more).map (consChar d) := by
  change stringFrom start position (Text.backslash :: e :: more) = _
  conv => lhs; unfold stringFrom
  rw [if_neg (by decide), if_pos (by decide)]
  simp [given, other]

private theorem stringFrom_stringChar (c : Char) {more : List Char} (followed : more ≠ [])
    (start position : Nat) : ∃ next, stringFrom start position (stringChar c ++ more) =
      (stringFrom start next more).map (consChar c) := by
  unfold stringChar
  split
  case isTrue mark =>
    refine ⟨_, stringFrom_escape ?_ ?_ more start position⟩
    · rcases Bool.or_eq_true_iff.mp mark with same | same
      · rw [beq_iff_eq.mp same]
        rfl
      · rw [beq_iff_eq.mp same]
        rfl
    · rintro rfl
      revert mark
      decide
  case isFalse unmarked =>
    rw [Bool.not_eq_true, Bool.or_eq_false_iff] at unmarked
    have escaped : ∀ {d e : Char}, (c == d) = true → plainEscape? e = some d → e ≠ 'u' →
        ∃ next, stringFrom start position ([Text.backslash, e] ++ more) =
          (stringFrom start next more).map (consChar c) := by
      intro d e same given other
      rw [beq_iff_eq.mp same]
      exact ⟨_, stringFrom_escape given other more start position⟩
    split
    case isTrue same => exact escaped same rfl (by decide)
    split
    case isTrue same => exact escaped same rfl (by decide)
    split
    case isTrue same => exact escaped same rfl (by decide)
    split
    case isTrue same => exact escaped same rfl (by decide)
    split
    case isTrue same => exact escaped same rfl (by decide)
    split
    case isTrue printable =>
      rw [Bool.and_eq_true, decide_eq_true_eq, decide_eq_true_eq] at printable
      exact ⟨_, stringFrom_plain unmarked.1 unmarked.2 printable.1 more start position⟩
    split
    case isTrue small =>
      have valid := toNat_cases c
      have noHigh : isHighHalf c.toNat = false := by
        simp [isHighHalf]
        omega
      have noLow : isLowHalf c.toNat = false := by
        simp [isLowHalf]
        omega
      have same : unitChar c.toNat = c := by
        unfold unitChar
        rw [noHigh, noLow, if_neg (by decide), Char.ofNat_toNat]
      have read := stringFrom_unitEscape small noHigh followed start position
      rw [same] at read
      exact ⟨_, read⟩
    case isFalse large =>
      have valid := toNat_cases c
      have high : isHighHalf (0xD800 + (c.toNat - 0x10000) / 0x400) = true := by
        simp [isHighHalf]
        omega
      have low : isLowHalf (0xDC00 + (c.toNat - 0x10000) % 0x400) = true := by
        simp [isLowHalf]
        omega
      have same : pairChar (0xD800 + (c.toNat - 0x10000) / 0x400)
          (0xDC00 + (c.toNat - 0x10000) % 0x400) = c := by
        unfold pairChar
        rw [show 0x10000 + (0xD800 + (c.toNat - 0x10000) / 0x400 - 0xD800) * 0x400 +
          (0xDC00 + (c.toNat - 0x10000) % 0x400 - 0xDC00) = c.toNat by omega, Char.ofNat_toNat]
      have read := stringFrom_pair high low followed start position
      rw [same] at read
      exact ⟨_, read⟩

theorem finds_stringFrom (cs rest : List Char) (start position : Nat) :
    Finds (stringFrom start position (cs.flatMap stringChar ++ Text.doubleQuote :: rest)) cs
      rest := by
  induction cs generalizing position with
  | nil =>
    refine ⟨position + 1, ?_⟩
    change stringFrom start position (Text.doubleQuote :: rest) = _
    unfold stringFrom
    rfl
  | cons c cs ih =>
    have followed : cs.flatMap stringChar ++ Text.doubleQuote :: rest ≠ [] := by simp
    obtain ⟨next, step⟩ := stringFrom_stringChar c followed start position
    obtain ⟨behind, found⟩ := ih next
    refine ⟨behind, ?_⟩
    rw [List.flatMap_cons, List.append_assoc, step, found]
    rfl

/-! Numbers. -/

/-- What follows cannot be taken for a part of a number. -/
def Stops (rest : List Char) : Prop :=
  ∀ c ∈ rest.head?, c.isDigit = false ∧ c ≠ '.' ∧ c ≠ 'e' ∧ c ≠ 'E'

def NoDigit (rest : List Char) : Prop := ∀ c ∈ rest.head?, c.isDigit = false

def AllDigits (cs : List Char) : Prop := ∀ c ∈ cs, c.isDigit = true

theorem takeDigits_append {digits rest : List Char} (all : AllDigits digits)
    (followed : NoDigit rest) : takeDigits (digits ++ rest) = (digits, rest) := by
  unfold takeDigits
  rw [List.takeWhile_append_of_pos all, List.dropWhile_append_of_pos all]
  cases rest with
  | nil => simp
  | cons c rest =>
    have other := followed c rfl
    simp [other]

/-- The digits in front of a point: a zero alone, or digits that begin with another one. -/
structure IsWhole (digits : List Char) : Prop where
  all : AllDigits digits
  leading : digits = ['0'] ∨ ∃ c rest, digits = c :: rest ∧ c ≠ '0'

theorem takeWhole_append {digits rest : List Char} (whole : IsWhole digits)
    (followed : NoDigit rest) : takeWhole (digits ++ rest) = some (digits, rest) := by
  rcases whole.leading with rfl | ⟨c, more, rfl, other⟩
  · rfl
  · have taken := takeDigits_append whole.all followed
    rw [List.cons_append] at taken ⊢
    unfold takeWhole
    split
    case h_1 rest same =>
      cases same
      exact absurd rfl other
    case h_2 =>
      rw [taken]

theorem takeFraction_point {digits rest : List Char} (all : AllDigits digits) (filled : digits ≠ [])
    (followed : NoDigit rest) : takeFraction ('.' :: (digits ++ rest)) = (digits, rest) := by
  obtain ⟨c, more, rfl⟩ := List.exists_cons_of_ne_nil filled
  simp only [takeFraction, takeDigits_append all followed]

theorem takeFraction_none {rest : List Char} (followed : ∀ c ∈ rest.head?, c ≠ '.') :
    takeFraction rest = ([], rest) := by
  unfold takeFraction
  split
  case h_1 => exact absurd rfl (followed '.' rfl)
  case h_2 => rfl

theorem takeExponent_none {rest : List Char} (followed : ∀ c ∈ rest.head?, c ≠ 'e' ∧ c ≠ 'E') :
    takeExponent rest = none := by
  unfold takeExponent
  split
  case h_1 => rfl
  case h_2 c more =>
    have other := followed c rfl
    simp [other]

theorem digitsValue_eq (cs : List Char) : Binary64.digitsValue cs = Nat.ofDigitChars 10 cs 0 := by
  rw [Nat.ofDigitChars_eq_foldl]
  rfl

@[simp] theorem digitsValue_toDigits (n : Nat) :
    Binary64.digitsValue (Nat.toDigits 10 n) = n := by
  rw [digitsValue_eq, Nat.ofDigitChars_ten_toDigits]

theorem digitsValue_zeros (k : Nat) (cs : List Char) :
    Binary64.digitsValue (List.replicate k '0' ++ cs) = Binary64.digitsValue cs := by
  rw [digitsValue_eq, digitsValue_eq, Nat.ofDigitChars_append, Nat.ofDigitChars_replicate_zero,
    Nat.mul_zero]

theorem digitsValue_append_zeros (cs : List Char) (k : Nat) :
    Binary64.digitsValue (cs ++ List.replicate k '0') = Binary64.digitsValue cs * 10 ^ k := by
  rw [digitsValue_eq, digitsValue_eq, Nat.ofDigitChars_append, Nat.ofDigitChars_replicate_zero,
    Nat.mul_comm]

theorem allDigits_toDigits (n : Nat) : AllDigits (Nat.toDigits 10 n) := fun _ member =>
  Nat.isDigit_of_mem_toDigits (by decide) (by decide) member

theorem allDigits_replicate (k : Nat) : AllDigits (List.replicate k '0') := by
  intro c member
  rw [List.eq_of_mem_replicate member]
  rfl

theorem AllDigits.append {first second : List Char} (one : AllDigits first)
    (other : AllDigits second) : AllDigits (first ++ second) :=
  List.forall_mem_append.mpr ⟨one, other⟩

theorem leading_toDigits {n : Nat} (positive : 0 < n) :
    ∃ c rest, Nat.toDigits 10 n = c :: rest ∧ c ≠ '0' := by
  induction n using Nat.strongRecOn with
  | ind n ih =>
    by_cases single : n < 10
    · refine ⟨n.digitChar, [], Nat.toDigits_of_lt_base single, ?_⟩
      rw [Ne, Nat.digitChar_eq_zero]
      omega
    · obtain ⟨c, rest, same, other⟩ := ih (n / 10) (by omega) (by omega)
      rw [Nat.toDigits_of_base_le (by decide) (by omega), same]
      exact ⟨c, _, rfl, other⟩

theorem isWhole_toDigits (n : Nat) : IsWhole (Nat.toDigits 10 n) := by
  refine ⟨allDigits_toDigits n, ?_⟩
  rcases Nat.eq_zero_or_pos n with rfl | positive
  · exact .inl rfl
  · exact .inr (leading_toDigits positive)

private theorem takeExponent_signed {negative : Bool} {digits rest tail : List Char}
    (sign : Binary64.takeSign tail = (negative, digits ++ rest)) (all : AllDigits digits)
    (filled : digits ≠ []) (followed : NoDigit rest) :
    ∃ size, takeExponent ('e' :: tail) = Option.some (size,
      if negative then -(Binary64.digitsValue digits : Int) else Binary64.digitsValue digits,
      rest) := by
  obtain ⟨c, more, rfl⟩ := List.exists_cons_of_ne_nil filled
  have taken := takeDigits_append all followed
  unfold takeExponent
  simp only [sign, taken]
  exact ⟨_, rfl⟩

private theorem exponent_digits (n : Nat) :
    ∃ digits, (if (Nat.toDigits 10 n).length < 2 then '0' :: Nat.toDigits 10 n
        else Nat.toDigits 10 n) = digits ∧
      AllDigits digits ∧ digits ≠ [] ∧ Binary64.digitsValue digits = n := by
  split
  · refine ⟨_, rfl, (allDigits_replicate 1).append (allDigits_toDigits n), by simp, ?_⟩
    exact (digitsValue_zeros 1 _).trans (digitsValue_toDigits n)
  · exact ⟨_, rfl, allDigits_toDigits n, Nat.toDigits_ne_nil, digitsValue_toDigits n⟩

theorem takeExponent_written (e : Int) {rest : List Char} (followed : NoDigit rest) :
    ∃ size, takeExponent ('e' :: (Decimal.exponentText e ++ rest)) = some (size, e, rest) := by
  obtain ⟨digits, same, all, filled, value⟩ := exponent_digits e.natAbs
  unfold Decimal.exponentText
  dsimp only
  rw [same]
  by_cases negative : e < 0
  · have sign : Binary64.takeSign ('-' :: (digits ++ rest)) = (true, digits ++ rest) := rfl
    obtain ⟨size, taken⟩ := takeExponent_signed sign all filled followed
    have back : -(e.natAbs : Int) = e := by omega
    rw [value, if_pos rfl, back] at taken
    rw [if_pos negative]
    exact ⟨size, taken⟩
  · have sign : Binary64.takeSign ('+' :: (digits ++ rest)) = (false, digits ++ rest) := rfl
    obtain ⟨size, taken⟩ := takeExponent_signed sign all filled followed
    have back : (e.natAbs : Int) = e := by omega
    rw [value, if_neg (by decide), back] at taken
    rw [if_neg negative]
    exact ⟨size, taken⟩

def withSign (negative : Bool) (cs : List Char) : List Char := if negative then '-' :: cs else cs

private theorem not_word {c : Char} (digit : c.isDigit = true) (cs : List Char) :
    (words.find? fun entry => entry.1.toList.isPrefixOf (c :: cs)) = none ∧
      (words.find? fun entry => entry.1.toList.isPrefixOf ('-' :: c :: cs)) = none := by
  have other : ∀ letter : Char, letter.isDigit = false → letter ≠ c := by
    rintro letter noDigit rfl
    rw [digit] at noDigit
    cases noDigit
  constructor
  · simp +decide [words, other]
  · simp +decide [words, other]

private theorem valueFrom_number (negative : Bool) {whole : List Char} (isWhole : IsWhole whole)
    (tail : List Char) (fuel position : Nat) :
    valueFrom (fuel + 1) position (withSign negative (whole ++ tail)) =
      numberFrom position (withSign negative (whole ++ tail)) := by
  have head : ∃ c more, whole = c :: more := by
    rcases isWhole.leading with same | ⟨c, more, same, _⟩
    · exact ⟨_, _, same⟩
    · exact ⟨_, _, same⟩
  obtain ⟨c, more, rfl⟩ := head
  have digit := isWhole.all c List.mem_cons_self
  have unknown := not_word digit (more ++ tail)
  have other : ∀ mark : Char, mark.isDigit = false → (c == mark) = false := by
    intro mark noDigit
    rw [beq_eq_false_iff_ne]
    rintro rfl
    rw [digit] at noDigit
    cases noDigit
  unfold withSign
  cases negative with
  | true =>
    change valueFrom (fuel + 1) position ('-' :: c :: (more ++ tail)) =
      numberFrom position ('-' :: c :: (more ++ tail))
    unfold valueFrom
    rw [if_neg (by decide), if_neg (by decide), if_neg (by decide), atomFrom, unknown.2]
  | false =>
    change valueFrom (fuel + 1) position (c :: (more ++ tail)) =
      numberFrom position (c :: (more ++ tail))
    unfold valueFrom
    rw [other _ (by decide), other _ (by decide), other _ (by decide), if_neg (by decide),
      if_neg (by decide), if_neg (by decide), atomFrom, unknown.1]

def TakesExponent (cs : List Char) (exponent : Option Int) (rest : List Char) : Prop :=
  (∃ size e, takeExponent cs = some (size, e, rest) ∧ exponent = some e) ∨
    takeExponent cs = none ∧ exponent = none ∧ cs = rest

/-- A number is read from its parts. Without fraction and exponent it is a whole number. -/
theorem finds_parts (negative : Bool) {whole tail fraction behind rest : List Char}
    {exponent : Option Int} (isWhole : IsWhole whole) (followed : NoDigit tail)
    (fractionRead : takeFraction tail = (fraction, behind))
    (exponentRead : TakesExponent behind exponent rest) (fuel position : Nat) :
    Finds (valueFrom (fuel + 1) position (withSign negative (whole ++ tail)))
      (if fraction.isEmpty && exponent.isNone then
        .int (if negative then -(Binary64.digitsValue whole : Int) else Binary64.digitsValue whole)
      else .float (Binary64.ofDecimal negative (Binary64.digitsValue (whole ++ fraction))
        (exponent.getD 0 - fraction.length))) rest := by
  have taken := takeWhole_append isWhole followed
  rw [valueFrom_number negative isWhole]
  cases negative with
  | true =>
    change Finds (numberFrom position ('-' :: (whole ++ tail))) _ _
    unfold numberFrom
    simp only [taken, fractionRead]
    rcases exponentRead with ⟨size, e, exponentRead, rfl⟩ | ⟨exponentRead, rfl, rfl⟩
    · simp only [exponentRead]
      split <;> exact ⟨_, rfl⟩
    · simp only [exponentRead]
      split <;> exact ⟨_, rfl⟩
  | false =>
    have noSign : ∀ more, whole ++ tail ≠ '-' :: more := by
      intro more same
      rcases isWhole.leading with rfl | ⟨c, others, rfl, _⟩
      · cases same
      · have digit := isWhole.all c List.mem_cons_self
        rw [(List.cons.inj same).1] at digit
        cases digit
    change Finds (numberFrom position (whole ++ tail)) _ _
    unfold numberFrom
    split
    case h_1 sign body same =>
      split at same
      case h_1 more wrong => exact absurd wrong (noSign more)
      case h_2 =>
        cases same
        simp only [taken, fractionRead]
        rcases exponentRead with ⟨size, e, exponentRead, rfl⟩ | ⟨exponentRead, rfl, rfl⟩
        · simp only [exponentRead]
          split <;> exact ⟨_, rfl⟩
        · simp only [exponentRead]
          split <;> exact ⟨_, rfl⟩

theorem Stops.noDigit {rest : List Char} (stops : Stops rest) : NoDigit rest :=
  fun c member => (stops c member).1

theorem Stops.takesExponent {rest : List Char} (stops : Stops rest) :
    TakesExponent rest none rest :=
  .inr ⟨takeExponent_none fun c member => (stops c member).2.2, rfl, rfl⟩

theorem Stops.takeFraction {rest : List Char} (stops : Stops rest) :
    takeFraction rest = ([], rest) :=
  takeFraction_none fun c member => (stops c member).2.1

theorem finds_int (n : Int) {rest : List Char} (stops : Stops rest) (fuel position : Nat) :
    Finds (valueFrom (fuel + 1) position ((toString n).toList ++ rest)) (.int n) rest := by
  have found := finds_parts (n < 0) (isWhole_toDigits n.natAbs) stops.noDigit
    stops.takeFraction stops.takesExponent fuel position
  have text : (toString n).toList ++ rest =
      withSign (n < 0) (Nat.toDigits 10 n.natAbs ++ rest) := by
    rw [Int.toString_eq_repr, Int.repr_eq_if]
    unfold withSign
    by_cases negative : n < 0
    · have back : (-n).toNat = n.natAbs := by omega
      rw [if_neg (by omega), if_pos (by simpa using negative), back, String.toList_append,
        Nat.toList_repr]
      rfl
    · have back : n.toNat = n.natAbs := by omega
      rw [if_pos (by omega), if_neg (by simpa using negative), back, Nat.toList_repr]
  have value : (if decide (n < 0) = true then
      -(Binary64.digitsValue (Nat.toDigits 10 n.natAbs) : Int)
      else Binary64.digitsValue (Nat.toDigits 10 n.natAbs)) = n := by
    rw [digitsValue_toDigits]
    split
    case isTrue negative =>
      rw [decide_eq_true_eq] at negative
      omega
    case isFalse negative =>
      rw [decide_eq_true_eq] at negative
      omega
  rw [text]
  rw [value] at found
  exact found

private theorem finds_fraction (negative : Bool) {whole fraction behind rest : List Char}
    {exponent : Option Int} (isWhole : IsWhole whole) (all : AllDigits fraction)
    (present : fraction ≠ []) (followed : NoDigit behind)
    (exponentRead : TakesExponent behind exponent rest) (fuel position : Nat) :
    Finds (valueFrom (fuel + 1) position (withSign negative (whole ++ '.' :: (fraction ++ behind))))
      (.float (Binary64.ofDecimal negative (Binary64.digitsValue (whole ++ fraction))
        (exponent.getD 0 - fraction.length))) rest := by
  have point : NoDigit ('.' :: (fraction ++ behind)) := by
    intro c member
    cases member
    rfl
  have found := finds_parts negative isWhole point (takeFraction_point all present followed)
    exponentRead fuel position
  have filled : (fraction.isEmpty && exponent.isNone) = false := by
    simp [present]
  rw [filled, if_neg (by decide)] at found
  exact found

private theorem noDigit_exponent (cs : List Char) : NoDigit ('e' :: cs) := by
  intro c member
  cases member
  rfl

private theorem finds_positional (negative : Bool) {d : Decimal} (significant : 0 < d.digits)
    {rest : List Char} (stops : Stops rest) (fuel position : Nat) :
    Finds (valueFrom (fuel + 1) position (withSign negative (d.positional .plain ++ rest)))
      (.float (Binary64.ofDecimal negative d.digits d.exponent)) rest := by
  have digits : AllDigits d.text := allDigits_toDigits d.digits
  have value : Binary64.digitsValue d.text = d.digits := digitsValue_toDigits d.digits
  have filled : d.text ≠ [] := Nat.toDigits_ne_nil
  have size : d.point = (d.text.length : Int) + d.exponent := rfl
  unfold Decimal.positional
  dsimp only
  split
  case isTrue small =>
    have behind := (allDigits_replicate (-d.point).toNat).append digits
    have found := finds_fraction negative (isWhole_toDigits 0) behind (by simp [filled])
      stops.noDigit stops.takesExponent fuel position
    have zeros : Binary64.digitsValue
        (Nat.toDigits 10 0 ++ (List.replicate (-d.point).toNat '0' ++ d.text)) = d.digits := by
      rw [← value, ← digitsValue_zeros (-d.point).toNat d.text]
      exact digitsValue_zeros 1 _
    have scale : (none : Option Int).getD 0 -
        ((List.replicate (-d.point).toNat '0' ++ d.text).length : Int) = d.exponent := by
      rw [List.length_append, List.length_replicate]
      simp only [Option.getD_none]
      omega
    rw [zeros, scale] at found
    simpa using found
  case isFalse positive =>
    split
    case isTrue inner =>
      have cut : d.point.toNat < d.text.length := by omega
      have front : IsWhole (d.text.take d.point.toNat) := by
        refine ⟨fun c member => digits c (List.mem_of_mem_take member), .inr ?_⟩
        obtain ⟨c, more, same, other⟩ := leading_toDigits significant
        obtain ⟨k, shape⟩ : ∃ k, d.point.toNat = k + 1 := ⟨d.point.toNat - 1, by omega⟩
        refine ⟨c, more.take k, ?_, other⟩
        rw [shape]
        unfold Decimal.text
        rw [same]
        rfl
      have behind : AllDigits (d.text.drop d.point.toNat) :=
        fun c member => digits c (List.mem_of_mem_drop member)
      have found := finds_fraction negative front behind
        (by rw [Ne, List.drop_eq_nil_iff]; omega) stops.noDigit stops.takesExponent fuel position
      have scale : (none : Option Int).getD 0 - ((d.text.drop d.point.toNat).length : Int) =
          d.exponent := by
        rw [List.length_drop]
        simp only [Option.getD_none]
        omega
      rw [List.take_append_drop, value, scale] at found
      simpa using found
    case isFalse outer =>
      have front : IsWhole (d.text ++ List.replicate (d.point.toNat - d.text.length) '0') := by
        refine ⟨digits.append (allDigits_replicate _), .inr ?_⟩
        obtain ⟨c, more, same, other⟩ := leading_toDigits significant
        refine ⟨c, more ++ List.replicate (d.point.toNat - d.text.length) '0', ?_, other⟩
        unfold Decimal.text
        rw [same]
        rfl
      have behind : AllDigits ['0'] := allDigits_replicate 1
      have found := finds_fraction negative front behind (by simp) stops.noDigit
        stops.takesExponent fuel position
      have zeros : Binary64.digitsValue
          (d.text ++ List.replicate (d.point.toNat - d.text.length) '0' ++ ['0']) =
            d.digits * 10 ^ (d.point.toNat - d.text.length + 1) := by
        rw [List.append_assoc, ← List.replicate_succ', digitsValue_append_zeros, value]
      have scale : (none : Option Int).getD 0 - ((['0'] : List Char).length : Int) =
          d.exponent - ((d.point.toNat - d.text.length + 1 : Nat) : Int) := by
        simp only [Option.getD_none, List.length_singleton]
        omega
      rw [zeros, scale, Binary64.ofDecimal_shift] at found
      simpa [NumberStyle.plain] using found

private theorem finds_exponential (negative : Bool) {d : Decimal} (positive : 0 < d.digits)
    {rest : List Char} (stops : Stops rest) (fuel position : Nat) :
    Finds (valueFrom (fuel + 1) position (withSign negative (d.exponential ++ rest)))
      (.float (Binary64.ofDecimal negative d.digits d.exponent)) rest := by
  obtain ⟨size, taken⟩ := takeExponent_written (d.point - 1) stops.noDigit
  have exponentRead : TakesExponent ('e' :: (Decimal.exponentText (d.point - 1) ++ rest))
      (Option.some (d.point - 1)) rest := .inl ⟨size, _, taken, rfl⟩
  have value : Binary64.digitsValue d.text = d.digits := digitsValue_toDigits d.digits
  have digits : AllDigits d.text := allDigits_toDigits d.digits
  obtain ⟨c, more, same, other⟩ := leading_toDigits positive
  change d.text = c :: more at same
  have length : d.point = (c :: more).length + d.exponent := by
    rw [← same]
    rfl
  have front : IsWhole [c] := by
    refine ⟨?_, .inr ⟨c, [], rfl, other⟩⟩
    rw [same] at digits
    exact List.forall_mem_singleton.mpr (digits c List.mem_cons_self)
  unfold Decimal.exponential
  rw [same]
  cases more with
  | nil =>
    have found := finds_parts negative front (noDigit_exponent _)
      (takeFraction_none (by simp)) exponentRead fuel position
    have scale : (Option.some (d.point - 1)).getD 0 - (([] : List Char).length : Int) =
        d.exponent := by
      rw [length]
      simp
    rw [if_neg (by simp), List.append_nil, ← same, value, scale, same] at found
    simpa using found
  | cons next more =>
    have others : AllDigits (next :: more) := by
      rw [same] at digits
      exact fun x member => digits x (List.mem_cons_of_mem c member)
    have found := finds_fraction negative front others (by simp) (noDigit_exponent _) exponentRead
      fuel position
    have scale : (Option.some (d.point - 1)).getD 0 - ((next :: more).length : Int) =
        d.exponent := by
      rw [length]
      simp only [Option.getD_some, List.length_cons]
      omega
    have whole : [c] ++ next :: more = d.text := by
      rw [same]
      rfl
    rw [scale, whole, value] at found
    simpa using found

private theorem finds_finite (negative : Bool) {m : Nat} {e : Int} (double : Binary64.IsFinite m e)
    {rest : List Char} (stops : Stops rest) (fuel position : Nat) :
    Finds (valueFrom (fuel + 1) position ((number (.finite negative m e)).toList ++ rest))
      (.float (.finite negative m e)) rest := by
  have signed : ∀ cs : List Char, (Binary64.signed negative cs).toList ++ rest =
      withSign negative (cs ++ rest) := by
    intro cs
    unfold Binary64.signed withSign
    split <;> simp
  rcases Nat.eq_zero_or_pos m with rfl | positive
  · -- Zero is written with a fraction, and has the least exponent.
    have least : e = Binary64.minExponent := double.normal.resolve_left (by decide)
    have found := finds_fraction negative (isWhole_toDigits 0) (allDigits_replicate 1) (by simp)
      stops.noDigit stops.takesExponent fuel position
    change Finds (valueFrom (fuel + 1) position
      ((Binary64.signed negative ['0', '.', '0']).toList ++ rest)) _ _
    rw [signed, least]
    exact found
  · obtain ⟨k, rfl⟩ : ∃ k, m = k + 1 := ⟨m - 1, by omega⟩
    have back := Decimal.shortest_reads double positive
    have digits := Binary64.digits_pos_of_ofDecimal positive (back false)
    change Finds (valueFrom (fuel + 1) position
      ((Binary64.signed negative ((Decimal.shortest (k + 1) e).write .plain)).toList ++ rest)) _ _
    rw [signed, ← back negative]
    unfold Decimal.write
    split
    · exact finds_positional negative digits stops fuel position
    · exact finds_exponential negative digits stops fuel position

theorem finds_number {x : Binary64} (isNumber : x.IsNumber) {rest : List Char} (stops : Stops rest)
    (fuel position : Nat) :
    Finds (valueFrom (fuel + 1) position ((number x).toList ++ rest)) (.float x) rest := by
  cases x with
  | nan => exact isNumber.elim
  | infinite negative =>
    cases negative with
    | true => exact ⟨_, rfl⟩
    | false => exact ⟨_, rfl⟩
  | finite negative m e => exact finds_finite negative isNumber stops fuel position

end TypeScriptGen.Json
