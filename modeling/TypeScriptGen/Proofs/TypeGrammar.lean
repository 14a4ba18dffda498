import Mathlib.Data.List.Forall2
import TypeScriptGen.Text.Lines

/-!
A reader for TypeScript types, by the grammar of the language as far as annotations lead to it:
names with and without type arguments, literals, tuples, arrays, unions and brackets. A suffix `[]`
binds tighter than a word in front of a type, and that binds tighter than `|`. Brackets leave no
trace in what is read. The lemmas put the readings of texts together the way the texts are.
-/

set_option autoImplicit false
set_option relaxedAutoImplicit false

namespace TypeScriptGen

inductive TypeTree where
  | name (word : String)
  | apply (word : String) (arguments : List TypeTree)
  | text (s : String)
  | number (n : Int)
  | array (item : TypeTree)
  | tuple (items : List TypeTree)
  | union (members : List TypeTree)
  /-- A word in front of a type, such as `readonly`. -/
  | prefixed (operator : String) (t : TypeTree)

namespace TypeTree

def alternatives : TypeTree → List TypeTree
  | .union members => members
  | t => [t]

/-- The union of types, where nested unions are flat and a single type stands for itself. -/
def unionOf (ts : List TypeTree) : TypeTree :=
  match ts.flatMap alternatives with
  | [t] => t
  | members => .union members

def IsSimple (t : TypeTree) : Prop := t.alternatives = [t]

theorem unionOf_congr {ts us : List TypeTree}
    (same : ts.flatMap alternatives = us.flatMap alternatives) : unionOf ts = unionOf us := by
  rw [unionOf, unionOf, same]

theorem IsSimple.unionOf_single {t : TypeTree} (simple : t.IsSimple) : unionOf [t] = t := by
  rw [unionOf, List.flatMap_singleton, simple]

theorem flatMap_simple {ts : List TypeTree} (simple : ∀ t ∈ ts, t.IsSimple) :
    ts.flatMap alternatives = ts := by
  induction ts with
  | nil => rfl
  | cons t rest ih =>
    rw [List.forall_mem_cons] at simple
    rw [List.flatMap_cons, ih simple.2, simple.1]
    rfl

theorem alternatives_unionOf {ts : List TypeTree}
    (simple : ∀ t ∈ ts.flatMap alternatives, t.IsSimple) :
    (unionOf ts).alternatives = ts.flatMap alternatives := by
  rw [unionOf]
  split
  case h_1 t same =>
    rw [same] at simple ⊢
    exact simple t List.mem_cons_self
  case h_2 => rfl

theorem unionOf_append {ts us : List TypeTree} (simple : ∀ t ∈ ts.flatMap alternatives, t.IsSimple)
    (simple' : ∀ u ∈ us.flatMap alternatives, u.IsSimple) :
    unionOf (ts ++ us) = unionOf [unionOf ts, unionOf us] := by
  apply unionOf_congr
  rw [List.flatMap_append, List.flatMap_cons, List.flatMap_singleton, alternatives_unionOf simple,
    alternatives_unionOf simple']

end TypeTree

namespace TypeText

/-- A word, a number, a text in quotes or any other sign. -/
inductive Token where
  | word (w : String)
  | number (n : Nat)
  | text (s : String)
  | sign (c : Char)
deriving DecidableEq, Repr

/-- A character of words: a letter, a digit, an underscore or a dollar sign. Outside ASCII every
character counts as a letter. -/
def isWordChar (c : Char) : Bool :=
  c.isAlphanum || c == '_' || c == '$' || 128 ≤ c.toNat

def signs : List Char := ['<', '>', '[', ']', '(', ')', ',', '|', '-']

/-- The token that a word is; one that starts with a digit has to be a number. -/
def wordToken? (w : List Char) : Option Token :=
  if w.all Char.isDigit then some (.number (Nat.ofDigitChars 10 w 0))
  else if (w.headD '0').isDigit then none
  else some (.word (String.ofList w))

/-- The tokens of a word that has come to its end; there is none if it is empty. -/
def flush (w : List Char) : Option (List Token) :=
  if w.isEmpty then some [] else (wordToken? w).map fun t => [t]

/-- The tokens of a character between words. A quote gives none, but what follows is quoted. -/
def between? (c : Char) : Option (List Token) :=
  if c == ' ' || c == '"' then some []
  else if signs.contains c then some [.sign c]
  else none

def isPlain (c : Char) : Bool := c != '"' && c != '\\' && c != '\n' && c != '\r'

/-- The tokens of a text, behind a word or a quoted text that has been begun. -/
def scan (quoted : Bool) (begun : List Char) : List Char → Option (List Token)
  | [] => if quoted then none else flush begun
  | c :: rest =>
    if quoted then
      if c == '"' then (scan false [] rest).map (Token.text (String.ofList begun) :: ·)
      else if isPlain c then scan true (begun ++ [c]) rest
      else none
    else if isWordChar c then scan false (begun ++ [c]) rest
    else do
      let before ← flush begun
      let own ← between? c
      let later ← scan (c == '"') [] rest
      return before ++ own ++ later

/-- The type with as many suffixes `[]` as follow, and what follows them. -/
def suffixes : TypeTree → List Token → TypeTree × List Token
  | t, .sign '[' :: .sign ']' :: rest => suffixes (.array t) rest
  | t, rest => (t, rest)

section

variable (operators : List String)

mutual

def typeFrom : Nat → List Token → Option (TypeTree × List Token)
  | 0, _ => none
  | fuel + 1, ts => do
    let (t, rest) ← operandFrom fuel ts
    match rest with
    | .sign '|' :: rest => do
      let (more, rest) ← typeFrom fuel rest
      return (.unionOf [t, more], rest)
    | rest => return (t, rest)

def operandFrom : Nat → List Token → Option (TypeTree × List Token)
  | 0, _ => none
  | fuel + 1, ts =>
    match ts with
    | .word w :: rest =>
      if operators.contains w then do
        let (t, rest) ← operandFrom fuel rest
        return (.prefixed w t, rest)
      else match rest with
        | .sign '<' :: rest => do
          let (arguments, rest) ← itemsFrom '>' fuel rest
          return suffixes (.apply w arguments) rest
        | rest => return suffixes (.name w) rest
    | .text s :: rest => return suffixes (.text s) rest
    | .number n :: rest => return suffixes (.number n) rest
    | .sign '-' :: .number n :: rest => return suffixes (.number (-n)) rest
    | .sign '(' :: rest => do
      let (t, rest) ← typeFrom fuel rest
      match rest with
      | .sign ')' :: rest => return suffixes t rest
      | _ => none
    | .sign '[' :: rest => do
      let (items, rest) ← itemsFrom ']' fuel rest
      return suffixes (.tuple items) rest
    | _ => none

/-- Types with commas between them, up to a closing sign. -/
def itemsFrom (close : Char) : Nat → List Token → Option (List TypeTree × List Token)
  | 0, _ => none
  | fuel + 1, ts => do
    let (t, rest) ← typeFrom fuel ts
    match rest with
    | .sign c :: rest =>
      if c == close then return ([t], rest)
      else if c == ',' then do
        let (more, rest) ← itemsFrom close fuel rest
        return (t :: more, rest)
      else none
    | _ => none

end

/-- What a text says as a type, where the given words are operators. -/
def read (s : String) : Option TypeTree := do
  let ts ← scan false [] s.toList
  -- From one token to the next there are at most two calls.
  match ← typeFrom operators (2 * ts.length + 2) ts with
  | (t, []) => some t
  | _ => none

end

/-! Scanning. -/

def Ends (rest : List Char) : Prop := ∀ c ∈ rest.head?, isWordChar c = false

/-- The text gives the tokens, whatever follows unless it goes on with a word. -/
def Scans (s : List Char) (ts : List Token) : Prop :=
  ∀ rest, Ends rest → scan false [] (s ++ rest) = (scan false [] rest).map (ts ++ ·)

variable {a b w : List Char} {xs ys : List Token} {c : Char}

private theorem scan_letter (letter : isWordChar c = true) (begun rest : List Char) :
    scan false begun (c :: rest) = scan false (begun ++ [c]) rest := by
  rw [scan, if_neg (by decide), if_pos letter]

private theorem scan_other {own : List Token} (other : isWordChar c = false)
    (token : between? c = some own) (begun rest : List Char) :
    scan false begun (c :: rest) =
      (flush begun).bind fun before => (scan (c == '"') [] rest).map (before ++ own ++ ·) := by
  rw [scan, if_neg (by decide), other, token]
  cases flush begun with
  | none => rfl
  | some before => cases scan (c == '"') [] rest <;> rfl

private theorem scan_word (word : ∀ c ∈ w, isWordChar c = true) (begun rest : List Char) :
    scan false begun (w ++ rest) = scan false (begun ++ w) rest := by
  induction w generalizing begun with
  | nil => rw [List.nil_append, List.append_nil]
  | cons c w ih =>
    rw [List.forall_mem_cons] at word
    rw [List.cons_append, scan_letter word.1, ih word.2, List.append_assoc]
    rfl

private theorem scan_flush {rest : List Char} (ends : Ends rest) (filled : w ≠ []) {t : Token}
    (token : wordToken? w = some t) :
    scan false w rest = (scan false [] rest).map (t :: ·) := by
  have flushed : flush w = some [t] := by
    rw [flush, if_neg (by simpa using filled), token]
    rfl
  cases rest with
  | nil =>
    rw [scan, scan, flushed]
    rfl
  | cons c rest =>
    cases own : between? c with
    | none =>
      rw [scan, scan, ends c rfl, own, flushed]
      rfl
    | some own' =>
      rw [scan_other (ends c rfl) own, scan_other (ends c rfl) own, flushed]
      cases scan (c == '"') [] rest <;> rfl

private theorem scans_word {t : Token} (word : ∀ c ∈ w, isWordChar c = true)
    (filled : w ≠ []) (token : wordToken? w = some t) : Scans w [t] := by
  intro rest ends
  rw [scan_word word, List.nil_append, scan_flush ends filled token]
  rfl

private theorem of_sign (sign : c ∈ signs) :
    isWordChar c = false ∧ c ≠ '"' ∧ between? c = some [.sign c] := by
  have facts : signs.all fun c =>
      !isWordChar c && c != '"' && between? c == some [.sign c] := by decide
  have own := List.all_eq_true.mp facts c sign
  simpa [and_assoc] using own

private theorem scan_sign (sign : c ∈ signs) (rest : List Char) :
    scan false [] (c :: rest) = (scan false [] rest).map (.sign c :: ·) := by
  obtain ⟨other, noQuote, own⟩ := of_sign sign
  rw [scan_other other own, beq_false_of_ne noQuote]
  rfl

private theorem scan_blank (rest : List Char) :
    scan false [] (' ' :: rest) = scan false [] rest := by
  rw [scan_other (by decide) rfl]
  change (scan false [] rest).map ([] ++ ·) = _
  simp

private theorem scan_quote (rest : List Char) :
    scan false [] ('"' :: rest) = scan true [] rest := by
  rw [scan_other (by decide) rfl]
  change (scan true [] rest).map ([] ++ ·) = _
  simp

private theorem scan_quoted {q : List Char} (plain : ∀ c ∈ q, isPlain c = true)
    (begun rest : List Char) : scan true begun (q ++ '"' :: rest) =
      (scan false [] rest).map (.text (String.ofList (begun ++ q)) :: ·) := by
  induction q generalizing begun with
  | nil =>
    rw [List.nil_append, List.append_nil, scan, if_pos rfl]
    rfl
  | cons c q ih =>
    rw [List.forall_mem_cons] at plain
    have noQuote : (c == '"') = false := by
      have apart := plain.1
      simp only [isPlain, Bool.and_eq_true, bne_iff_ne] at apart
      simpa using apart.1.1.1
    rw [List.cons_append, scan, if_pos rfl, noQuote, if_neg (by decide), if_pos plain.1,
      ih plain.2, List.append_assoc]
    rfl

private theorem ends_sign (sign : c ∈ signs) (rest : List Char) : Ends (c :: rest) := by
  rintro d ⟨⟩
  exact (of_sign sign).1

theorem Scans.nil : Scans [] [] := by
  intro rest _
  simp

theorem Scans.sign (first : Scans a xs) (sign : c ∈ signs) (second : Scans b ys) :
    Scans (a ++ c :: b) (xs ++ .sign c :: ys) := by
  intro rest ends
  rw [List.append_assoc, List.cons_append, first _ (ends_sign sign _), scan_sign sign,
    second rest ends]
  cases scan false [] rest <;> simp

theorem Scans.behindBlank (scans : Scans a xs) : Scans (' ' :: a) xs := by
  intro rest ends
  rw [List.cons_append, scan_blank, scans rest ends]

theorem Scans.beforeBlank (scans : Scans a xs) : Scans (a ++ [' ']) xs := by
  intro rest ends
  have blank : Ends (' ' :: rest) := by
    rintro d ⟨⟩
    decide
  rw [List.append_assoc, List.singleton_append, scans _ blank, scan_blank]

structure IsName (s : String) : Prop where
  filled : s ≠ ""
  word : s.toList.all isWordChar = true
  letter : (s.toList.headD '0').isDigit = false

theorem scans_name {s : String} (name : IsName s) : Scans s.toList [.word s] := by
  have filled : s.toList ≠ [] := by simpa using name.filled
  refine scans_word (List.all_eq_true.mp name.word) filled ?_
  obtain ⟨c, rest, shown⟩ := List.exists_cons_of_ne_nil filled
  have letter := name.letter
  rw [shown] at letter
  have mixed : s.toList.all Char.isDigit = false := by
    rw [shown, List.all_cons]
    change c.isDigit = false at letter
    rw [letter, Bool.false_and]
  rw [wordToken?, mixed, if_neg (by decide), name.letter, if_neg (by decide), String.ofList_toList]

theorem scans_number (n : Nat) : Scans (Nat.toDigits 10 n) [.number n] := by
  have digit : ∀ c ∈ Nat.toDigits 10 n, c.isDigit = true := fun c member =>
    Nat.isDigit_of_mem_toDigits (by decide) (by decide) member
  refine scans_word ?_ ?_ ?_
  · intro c member
    simp [isWordChar, Char.isAlphanum, digit c member]
  · exact Nat.toDigits_ne_nil
  · rw [wordToken?, if_pos (List.all_eq_true.mpr digit), Nat.ofDigitChars_ten_toDigits]

theorem scans_text {s : String} (plain : s.toList.all isPlain = true) :
    Scans ('"' :: s.toList ++ ['"']) [.text s] := by
  intro rest _
  have quoted := scan_quoted (List.all_eq_true.mp plain) [] rest
  rw [List.nil_append, String.ofList_toList] at quoted
  rw [List.cons_append, List.cons_append, scan_quote, List.append_assoc, List.singleton_append,
    quoted]
  rfl

/-! Parsing. -/

section

variable {operators : List String} {ts us : List Token} {t : TypeTree} {trees : List TypeTree}
  {word : String} {close : Char}

def Apart (cs : List Char) (rest : List Token) : Prop := ∀ c ∈ cs, ∀ more, rest ≠ .sign c :: more

/-- The tokens are an operand of a union: suffixes that follow belong to it. -/
def Operand (operators : List String) (ts : List Token) (t : TypeTree) : Prop :=
  ∀ fuel, 2 * ts.length ≤ fuel → ∀ rest, Apart ['<'] rest →
    operandFrom operators (fuel + 1) (ts ++ rest) = some (suffixes t rest)

/-- The tokens are a type, up to what goes on with it. -/
def Whole (operators : List String) (ts : List Token) (t : TypeTree) : Prop :=
  ∀ fuel, 2 * ts.length ≤ fuel → ∀ rest, Apart ['<', '[', '|'] rest →
    typeFrom operators (fuel + 2) (ts ++ rest) = some (t, rest)

def Items (operators : List String) (close : Char) (ts : List Token) (trees : List TypeTree) :
    Prop :=
  ∀ fuel, 2 * ts.length ≤ fuel → ∀ rest,
    itemsFrom operators close (fuel + 3) (ts ++ .sign close :: rest) = some (trees, rest)

/-- The tokens are operands with bars between them, none of which is a union itself. -/
inductive Union (operators : List String) : List Token → List TypeTree → Prop where
  | one {ts : List Token} {t : TypeTree} :
    Operand operators ts t → t.IsSimple → Union operators ts [t]
  | more {ts us : List Token} {t : TypeTree} {trees : List TypeTree} :
    Operand operators ts t → t.IsSimple → Union operators us trees →
    Union operators (ts ++ .sign '|' :: us) (t :: trees)

private theorem apart_sign {cs : List Char} {c : Char} (other : c ∉ cs) (rest : List Token) :
    Apart cs (.sign c :: rest) := by
  rintro d member more ⟨⟩
  exact other member

private theorem Apart.of_subset {cs ds : List Char} {rest : List Token} (apart : Apart ds rest)
    (within : cs ⊆ ds) : Apart cs rest := fun c member => apart c (within member)

private theorem suffixes_none {rest : List Token} (apart : Apart ['['] rest) :
    suffixes t rest = (t, rest) := by
  unfold suffixes
  split
  case h_1 => exact absurd rfl (apart '[' List.mem_cons_self _)
  case h_2 => rfl

theorem Operand.array (operand : Operand operators ts t) :
    Operand operators (ts ++ [.sign '[', .sign ']']) (.array t) := by
  intro fuel enough rest apart
  rw [List.length_append] at enough
  rw [List.append_assoc]
  exact operand fuel (by omega) _ (apart_sign (by decide) _)

theorem operand_name (ordinary : word ∉ operators) :
    Operand operators [.word word] (.name word) := by
  intro fuel _ rest apart
  have absent : operators.contains word = false := by simpa using ordinary
  rw [List.singleton_append, operandFrom, absent, if_neg (by decide)]
  · rfl
  · exact apart '<' List.mem_cons_self

theorem operand_text (s : String) : Operand operators [.text s] (.text s) := by
  intro fuel _ rest _
  rw [List.singleton_append, operandFrom]
  rfl

theorem operand_number (n : Nat) : Operand operators [.number n] (.number n) := by
  intro fuel _ rest _
  rw [List.singleton_append, operandFrom]
  rfl

theorem operand_negative (n : Nat) : Operand operators [.sign '-', .number n] (.number (-n)) := by
  intro fuel _ rest _
  rw [List.cons_append, List.singleton_append, operandFrom]
  rfl

theorem Whole.bracketed (whole : Whole operators ts t) :
    Operand operators (.sign '(' :: ts ++ [.sign ')']) t := by
  intro fuel enough rest _
  simp only [List.length_append, List.length_cons, List.length_nil] at enough
  obtain ⟨fuel, rfl⟩ : ∃ less, fuel = less + 2 := ⟨fuel - 2, by omega⟩
  have inner := whole fuel (by omega) (.sign ')' :: rest) (apart_sign (by decide) rest)
  rw [List.cons_append, List.cons_append, List.append_assoc, List.singleton_append, operandFrom,
    inner]
  rfl

theorem Items.applied (items : Items operators '>' ts trees) (ordinary : word ∉ operators) :
    Operand operators (.word word :: .sign '<' :: ts ++ [.sign '>']) (.apply word trees) := by
  intro fuel enough rest _
  simp only [List.length_append, List.length_cons, List.length_nil] at enough
  obtain ⟨fuel, rfl⟩ : ∃ less, fuel = less + 3 := ⟨fuel - 3, by omega⟩
  have absent : operators.contains word = false := by simpa using ordinary
  have inner := items fuel (by omega) rest
  rw [List.cons_append, List.cons_append, List.cons_append, List.cons_append, List.append_assoc,
    List.singleton_append, operandFrom, absent, if_neg (by decide)]
  dsimp only
  rw [inner]
  rfl

theorem Items.bracketed (items : Items operators ']' ts trees) :
    Operand operators (.sign '[' :: ts ++ [.sign ']']) (.tuple trees) := by
  intro fuel enough rest _
  simp only [List.length_append, List.length_cons, List.length_nil] at enough
  obtain ⟨fuel, rfl⟩ : ∃ less, fuel = less + 3 := ⟨fuel - 3, by omega⟩
  have inner := items fuel (by omega) rest
  rw [List.cons_append, List.cons_append, List.append_assoc, List.singleton_append, operandFrom,
    inner]
  rfl

theorem Union.simple (union : Union operators ts trees) : ∀ t ∈ trees, t.IsSimple := by
  induction union with
  | one _ simple => exact List.forall_mem_singleton.mpr simple
  | more _ simple _ ih => exact List.forall_mem_cons.mpr ⟨simple, ih⟩

theorem Union.whole (union : Union operators ts trees) : Whole operators ts (.unionOf trees) := by
  induction union with
  | @one ts t operand simple =>
    intro fuel enough rest apart
    have first := operand fuel enough rest (apart.of_subset (by decide))
    rw [typeFrom, first, suffixes_none (apart.of_subset (by decide)),
      simple.unionOf_single]
    simp only [bind, Option.bind]
    split
    case h_1 => exact absurd rfl (apart '|' (by decide) _)
    case h_2 => rfl
  | @more ts us t trees operand simple others ih =>
    intro fuel enough rest apart
    simp only [List.length_append, List.length_cons] at enough
    obtain ⟨fuel, rfl⟩ : ∃ less, fuel = less + 1 := ⟨fuel - 1, by omega⟩
    have first := operand (fuel + 1) (by omega) (.sign '|' :: (us ++ rest))
      (apart_sign (by decide) _)
    have later := ih fuel (by omega) rest apart
    -- What stands behind the first bar is read as a union of its own, which is then made flat.
    have own := TypeTree.flatMap_simple others.simple
    have flat : TypeTree.unionOf (t :: trees) = .unionOf [t, .unionOf trees] := by
      apply TypeTree.unionOf_congr
      simp [TypeTree.alternatives_unionOf (own.symm ▸ others.simple)]
    rw [List.append_assoc, List.cons_append, typeFrom, first,
      suffixes_none (apart_sign (by decide) _), flat]
    simp only [bind, Option.bind, later, pure]

theorem Union.append (first : Union operators ts trees) {others : List TypeTree}
    (second : Union operators us others) :
    Union operators (ts ++ .sign '|' :: us) (trees ++ others) := by
  induction first with
  | one operand simple => exact .more operand simple second
  | more operand simple _ ih =>
    rw [List.append_assoc, List.cons_append]
    exact .more operand simple ih

theorem Whole.item (whole : Whole operators ts t) (other : close ∉ ['<', '[', '|']) :
    Items operators close ts [t] := by
  intro fuel enough rest
  rw [itemsFrom, whole fuel enough _ (apart_sign other rest)]
  change (if close == close then _ else _) = _
  rw [beq_self_eq_true, if_pos rfl]
  rfl

theorem Whole.items (whole : Whole operators ts t) (items : Items operators close us trees)
    (other : close ≠ ',') : Items operators close (ts ++ .sign ',' :: us) (t :: trees) := by
  intro fuel enough rest
  simp only [List.length_append, List.length_cons] at enough
  obtain ⟨fuel, rfl⟩ : ∃ less, fuel = less + 1 := ⟨fuel - 1, by omega⟩
  have apart : (',' == close) = false := by simpa using other.symm
  have later := items fuel (by omega) rest
  rw [List.append_assoc, itemsFrom, List.cons_append,
    whole (fuel + 1) (by omega) _ (apart_sign (by decide) _)]
  change (if ',' == close then _ else _) = _
  rw [apart, if_neg (by decide), if_pos (by decide), later]
  rfl

end

/-! Reading texts. -/

section

variable {operators : List String} {s : String} {t : TypeTree}

def IsOperand (operators : List String) (s : String) (t : TypeTree) : Prop :=
  ∃ ts, Scans s.toList ts ∧ Operand operators ts t

/-- The text is a type; if it is a union, there is a bar between blanks in it. -/
structure IsType (operators : List String) (s : String) (t : TypeTree) : Prop where
  union : ∃ ts, Scans s.toList ts ∧ Union operators ts t.alternatives ∧
    t = .unionOf t.alternatives
  barred : 2 ≤ t.alternatives.length → Text.occursIn " | " s = true

theorem IsType.read (isType : IsType operators s t) : read operators s = some t := by
  obtain ⟨ts, scans, union, same⟩ := isType.union
  have scanned : scan false [] s.toList = some ts := by
    have alone := scans [] nofun
    rw [List.append_nil] at alone
    rw [alone]
    simp [scan, flush]
  have whole := union.whole (2 * ts.length) (Nat.le_refl _) [] nofun
  rw [← same, List.append_nil] at whole
  rw [TypeText.read, scanned]
  simp only [bind, Option.bind, whole]

example : TypeText.read ["keyof"] "A | keyof B[] | (A | null)[]" =
    some (.union [.name "A", .prefixed "keyof" (.array (.name "B")),
      .array (.union [.name "A", .name "null"])]) := by
  cbv

theorem IsOperand.isType (operand : IsOperand operators s t) (simple : t.IsSimple) :
    IsType operators s t := by
  obtain ⟨ts, scans, operand⟩ := operand
  refine ⟨⟨ts, scans, ?_, ?_⟩, ?_⟩
  · rw [simple]
    exact .one operand simple
  · rw [simple, simple.unionOf_single]
  · rw [simple]
    intro two
    simp at two

theorem IsType.bracketed (isType : IsType operators s t) :
    IsOperand operators ("(" ++ s ++ ")") t := by
  obtain ⟨ts, scans, union, same⟩ := isType.union
  have inner := union.whole
  rw [← same] at inner
  refine ⟨.sign '(' :: ts ++ [.sign ')'], ?_, inner.bracketed⟩
  rw [String.toList_append, String.toList_append]
  exact (Scans.nil.sign (by decide) scans).sign (by decide) .nil

theorem IsType.unbarred (isType : IsType operators s t) (unbarred : Text.occursIn " | " s = false) :
    IsOperand operators s t := by
  obtain ⟨ts, scans, union, same⟩ := isType.union
  have single : ¬ 2 ≤ t.alternatives.length := by
    intro two
    simp [isType.barred two] at unbarred
  refine ⟨ts, scans, ?_⟩
  -- The operands are counted by the tree, so they have to be taken apart together with it.
  rw [same]
  generalize t.alternatives = trees at union single
  cases union with
  | one operand simple =>
    rw [simple.unionOf_single]
    exact operand
  | more _ _ others => cases others <;> simp at single

theorem IsOperand.array (operand : IsOperand operators s t) :
    IsOperand operators (s ++ "[]") (.array t) := by
  obtain ⟨ts, scans, operand⟩ := operand
  refine ⟨ts ++ [.sign '[', .sign ']'], ?_, operand.array⟩
  rw [String.toList_append]
  exact scans.sign (by decide) (Scans.nil.sign (by decide) .nil)

theorem isOperand_name (name : IsName s) (ordinary : s ∉ operators) :
    IsOperand operators s (.name s) :=
  ⟨[.word s], scans_name name, operand_name ordinary⟩

theorem isOperand_text (plain : s.toList.all isPlain = true) :
    IsOperand operators ("\"" ++ s ++ "\"") (.text s) := by
  refine ⟨[.text s], ?_, operand_text s⟩
  rw [String.toList_append, String.toList_append]
  exact scans_text plain

theorem isOperand_number (n : Int) : IsOperand operators (toString n) (.number n) := by
  rw [Int.toString_eq_repr, Int.repr_eq_if]
  by_cases negative : n < 0
  · have back : n = -((-n).toNat : Int) := by omega
    rw [if_neg (by omega)]
    refine ⟨[.sign '-', .number (-n).toNat], ?_, ?_⟩
    · rw [String.toList_append, Nat.toList_repr]
      exact Scans.nil.sign (by decide) (scans_number _)
    · have number : Operand operators [.sign '-', .number (-n).toNat]
          (.number (-((-n).toNat : Int))) := operand_negative _
      rw [← back] at number
      exact number
  · have back : n = (n.toNat : Int) := by omega
    rw [if_pos (by omega)]
    refine ⟨[.number n.toNat], ?_, ?_⟩
    · rw [Nat.toList_repr]
      exact scans_number _
    · have number : Operand operators [.number n.toNat] (.number (n.toNat : Int)) :=
        operand_number _
      rw [← back] at number
      exact number

theorem IsType.simple (isType : IsType operators s t) : ∀ u ∈ t.alternatives, u.IsSimple := by
  obtain ⟨_, _, union, _⟩ := isType.union
  exact union.simple

private theorem IsType.single (isType : IsType operators s t) : TypeTree.unionOf [t] = t := by
  obtain ⟨_, _, _, same⟩ := isType.union
  have alone :
      [t].flatMap TypeTree.alternatives = t.alternatives.flatMap TypeTree.alternatives := by
    rw [List.flatMap_singleton, TypeTree.flatMap_simple isType.simple]
  rw [TypeTree.unionOf_congr alone, ← same]

private theorem hasPart_append (a p b : List Char) : Text.hasPart p (a ++ (p ++ b)) = true := by
  induction a with
  | nil =>
    rw [List.nil_append, Text.hasPart.eq_def]
    simp
  | cons c a ih =>
    rw [List.cons_append, Text.hasPart, ih, Bool.or_true]

theorem IsType.bar (first : IsType operators s t) {s' : String} {t' : TypeTree}
    (second : IsType operators s' t') : IsType operators (s ++ " | " ++ s') (.unionOf [t, t']) := by
  have simple : ∀ u ∈ [t, t'].flatMap TypeTree.alternatives, u.IsSimple := by
    simpa using fun u member => member.elim (first.simple u) (second.simple u)
  obtain ⟨ts, scans, union, _⟩ := first.union
  obtain ⟨us, scans', union', _⟩ := second.union
  have both := union.append union'
  refine ⟨⟨ts ++ .sign '|' :: us, ?_, ?_, ?_⟩, fun _ => ?_⟩
  · rw [String.toList_append, String.toList_append, List.append_assoc]
    have scanned := scans.beforeBlank.sign (c := '|') (by decide) scans'.behindBlank
    rw [List.append_assoc] at scanned
    exact scanned
  · rw [TypeTree.alternatives_unionOf simple]
    simpa using both
  · rw [TypeTree.alternatives_unionOf simple]
    exact TypeTree.unionOf_congr (TypeTree.flatMap_simple simple).symm
  · rw [Text.occursIn, String.toList_append, String.toList_append, List.append_assoc]
    exact hasPart_append ..

private theorem simple_members {ss : List String} {trees : List TypeTree}
    (each : List.Forall₂ (IsType operators) ss trees) :
    ∀ u ∈ trees.flatMap TypeTree.alternatives, u.IsSimple := by
  induction each with
  | nil => nofun
  | cons isType _ ih =>
    rw [List.flatMap_cons, List.forall_mem_append]
    exact ⟨isType.simple, ih⟩

theorem isType_bars {ss : List String} {trees : List TypeTree}
    (each : List.Forall₂ (IsType operators) ss trees) (filled : ss ≠ []) :
    IsType operators (" | ".intercalate ss) (.unionOf trees) := by
  induction each with
  | nil => exact absurd rfl filled
  | @cons s t ss trees isType others ih =>
    cases others with
    | nil =>
      rw [String.intercalate_singleton, isType.single]
      exact isType
    | cons next others =>
      have flat := TypeTree.unionOf_append (simple_members (.cons isType .nil))
        (simple_members (.cons next others))
      rw [List.singleton_append, isType.single] at flat
      rw [String.intercalate_cons_cons, flat]
      exact isType.bar (ih (List.cons_ne_nil _ _))

theorem isType_bars_append {ss : List String} {trees : List TypeTree}
    (each : List.Forall₂ (IsType operators) ss trees) (filled : ss ≠ [])
    (last : IsType operators s t) :
    IsType operators (" | ".intercalate ss ++ " | " ++ s) (.unionOf (trees ++ [t])) := by
  rw [TypeTree.unionOf_append (simple_members each) (simple_members (.cons last .nil)), last.single]
  exact (isType_bars each filled).bar last

theorem items_commas (close : Char) (other : close ∉ ['<', '[', '|', ',']) {ss : List String}
    {trees : List TypeTree} (each : List.Forall₂ (IsType operators) ss trees) (filled : ss ≠ []) :
    ∃ ts, Scans (", ".intercalate ss).toList ts ∧ Items operators close ts trees := by
  induction each with
  | nil => exact absurd rfl filled
  | @cons s t ss trees isType others ih =>
    obtain ⟨ts, scans, union, same⟩ := isType.union
    have whole := union.whole
    rw [← same] at whole
    cases others with
    | nil =>
      rw [String.intercalate_singleton]
      exact ⟨ts, scans, whole.item fun member => other (List.mem_append_left [','] member)⟩
    | cons next others =>
      obtain ⟨us, scans', items⟩ := ih (List.cons_ne_nil _ _)
      refine ⟨ts ++ .sign ',' :: us, ?_, whole.items items fun comma => other (by simp [comma])⟩
      rw [String.intercalate_cons_cons, String.toList_append, String.toList_append,
        List.append_assoc]
      exact scans.sign (by decide) scans'.behindBlank

theorem isOperand_applied (name : IsName s) (ordinary : s ∉ operators) {ss : List String}
    {trees : List TypeTree} (each : List.Forall₂ (IsType operators) ss trees) (filled : ss ≠ []) :
    IsOperand operators (s ++ "<" ++ ", ".intercalate ss ++ ">") (.apply s trees) := by
  obtain ⟨ts, scans, items⟩ := items_commas '>' (by decide) each filled
  refine ⟨.word s :: .sign '<' :: ts ++ [.sign '>'], ?_, items.applied ordinary⟩
  rw [String.toList_append, String.toList_append, String.toList_append, List.append_assoc s.toList]
  exact ((scans_name name).sign (by decide) scans).sign (by decide) .nil

theorem isOperand_tuple {ss : List String} {trees : List TypeTree}
    (each : List.Forall₂ (IsType operators) ss trees) (filled : ss ≠ []) :
    IsOperand operators ("[" ++ ", ".intercalate ss ++ "]") (.tuple trees) := by
  obtain ⟨ts, scans, items⟩ := items_commas ']' (by decide) each filled
  refine ⟨.sign '[' :: ts ++ [.sign ']'], ?_, items.bracketed⟩
  rw [String.toList_append, String.toList_append]
  exact (Scans.nil.sign (by decide) scans).sign (by decide) .nil

end

end TypeText

end TypeScriptGen
