import TypeScriptGen.Text.Lines
import TypeScriptGen.Text.Quoted

/-!
Brackets in texts. A text is balanced if its round, square and curly brackets form a nested word.
Scanning with a stack of open brackets decides that, and shows what makes balance compose: a
balanced text leaves every stack as it is, so it can be put in anywhere, even between the lines of a
text that is balanced only as a whole.
-/

set_option autoImplicit false
set_option relaxedAutoImplicit false

namespace TypeScriptGen.Text

@[simp] def closer? (c : Char) : Option Char :=
  if c == '(' then some ')' else if c == '[' then some ']' else if c == '\x7b' then some '\x7d'
  else none

@[simp] def isCloser (c : Char) : Bool := c == ')' || c == ']' || c == '\x7d'

def isBracket (c : Char) : Bool := (closer? c).isSome || isCloser c

/-- Correctly nested words over brackets. -/
inductive Nested : List Char → Prop where
  | empty : Nested []
  | pair {opening closing : Char} {inner rest : List Char}
      (answers : closer? opening = some closing) (within : Nested inner) (behind : Nested rest) :
      Nested (opening :: (inner ++ closing :: rest))

def brackets (s : String) : List Char := s.toList.filter isBracket

/-- The brackets of the text are correctly nested. -/
def Balanced (s : String) : Prop := Nested (brackets s)

/-- One character on a stack of the brackets that have to be closed, the innermost first. -/
@[simp] def step (stack : List Char) (c : Char) : Option (List Char) :=
  match closer? c with
  | some closing => some (closing :: stack)
  | none =>
    if isCloser c then
      match stack with
      | top :: below => if c == top then some below else none
      | [] => none
    else some stack

def scan (cs stack : List Char) : Option (List Char) := cs.foldlM step stack

@[simp] theorem scan_nil (stack : List Char) : scan [] stack = some stack := rfl

@[simp] theorem scan_cons (c : Char) (cs stack : List Char) :
    scan (c :: cs) stack = (step stack c).bind (scan cs) := rfl

theorem scan_append (cs ds stack : List Char) :
    scan (cs ++ ds) stack = (scan cs stack).bind (scan ds) :=
  List.foldlM_append

private theorem isCloser_of_closer? {opening closing : Char}
    (answers : closer? opening = some closing) :
    closer? closing = none ∧ isCloser closing = true := by
  unfold closer? at answers
  split at answers
  · cases answers
    decide
  · split at answers
    · cases answers
      decide
    · split at answers
      · cases answers
        decide
      · cases answers

private theorem step_closing {opening closing : Char} (answers : closer? opening = some closing)
    (stack : List Char) : step (closing :: stack) closing = some stack := by
  obtain ⟨notOpening, isClosing⟩ := isCloser_of_closer? answers
  simp [notOpening, isClosing, -closer?, -isCloser]

private theorem step_other {c : Char} (other : isBracket c = false) (stack : List Char) :
    step stack c = some stack := by
  unfold isBracket at other
  rw [Bool.or_eq_false_iff] at other
  have notOpening : closer? c = none :=
    Option.isNone_iff_eq_none.mp (Option.isSome_eq_false_iff.mp other.1)
  simp [notOpening, other.2, -closer?, -isCloser]

private theorem scan_of_nested {word : List Char} (nested : Nested word) (stack : List Char) :
    scan word stack = some stack := by
  induction nested generalizing stack with
  | empty => rfl
  | @pair opening closing inner rest answers _ _ within behind =>
    have pushed : step stack opening = some (closing :: stack) := by
      unfold step
      rw [answers]
    rw [scan_cons, pushed]
    change scan (inner ++ closing :: rest) (closing :: stack) = _
    rw [scan_append, within]
    change scan (closing :: rest) (closing :: stack) = _
    rw [scan_cons, step_closing answers]
    exact behind stack

/-- A word that closes the brackets of a stack: a nested word in front of each of them. -/
private inductive Closes : List Char → List Char → Prop where
  | last {word : List Char} (nested : Nested word) : Closes [] word
  | next {top : Char} {below word rest : List Char} (nested : Nested word)
      (others : Closes below rest) : Closes (top :: below) (word ++ top :: rest)

private theorem closes_pair {opening closing : Char} {inner rest stack : List Char}
    (answers : closer? opening = some closing) (within : Nested inner)
    (closes : Closes stack rest) : Closes stack (opening :: (inner ++ closing :: rest)) := by
  cases closes with
  | last nested => exact .last (.pair answers within nested)
  | @next top below word rest nested others =>
    have front : Closes (top :: below) ((opening :: (inner ++ closing :: word)) ++ top :: rest) :=
      .next (.pair answers within nested) others
    simpa using front

private theorem closes_of_scan {word stack : List Char} (all : ∀ c ∈ word, isBracket c = true)
    (scanned : scan word stack = some []) : Closes stack word := by
  -- The stack is what is still to be closed, so it changes along the word.
  induction word generalizing stack with
  | nil =>
    cases scanned
    exact .last .empty
  | cons c word ih =>
    have rest := fun d member => all d (List.mem_cons_of_mem c member)
    rw [scan_cons] at scanned
    unfold step at scanned
    cases opening : closer? c with
    | some closing =>
      rw [opening] at scanned
      have closes := ih rest scanned
      cases closes with
      | next nested others => exact closes_pair opening nested others
    | none =>
      have closing : isCloser c = true := by
        have bracket := all c List.mem_cons_self
        unfold isBracket at bracket
        simpa [opening, -closer?, -isCloser] using bracket
      rw [opening] at scanned
      simp only [closing, if_true] at scanned
      cases stack with
      | nil => cases scanned
      | cons top below =>
        by_cases same : (c == top) = true
        · simp only [same, if_true] at scanned
          rw [← eq_of_beq same]
          exact .next .empty (ih rest scanned)
        · simp [same] at scanned

private theorem scan_filter (cs stack : List Char) :
    scan (cs.filter isBracket) stack = scan cs stack := by
  induction cs generalizing stack with
  | nil => rfl
  | cons c cs ih =>
    cases bracket : isBracket c with
    | true =>
      rw [List.filter_cons_of_pos bracket, scan_cons, scan_cons]
      cases step stack c with
      | none => rfl
      | some next => exact ih next
    | false =>
      rw [List.filter_cons_of_neg (by simp [bracket]), ih, scan_cons, step_other bracket]
      rfl

theorem balanced_iff_scan {s : String} : Balanced s ↔ scan s.toList [] = some [] := by
  unfold Balanced brackets
  rw [← scan_filter]
  constructor
  · intro nested
    exact scan_of_nested nested []
  · intro scanned
    have closes := closes_of_scan (fun c member => (List.mem_filter.mp member).2) scanned
    cases closes with
    | last nested => exact nested

theorem balanced_iff_neutral {s : String} :
    Balanced s ↔ ∀ stack, scan s.toList stack = some stack := by
  constructor
  · intro balanced stack
    rw [← scan_filter]
    exact scan_of_nested balanced stack
  · intro neutral
    exact balanced_iff_scan.mpr (neutral [])

instance (s : String) : Decidable (Balanced s) := decidable_of_iff _ balanced_iff_scan.symm

/-! Texts put together. The scanner runs through the fixed characters and skips balanced parts. -/

@[simp] theorem scan_part {s : String} (balanced : Balanced s) (rest stack : List Char) :
    scan (s.toList ++ rest) stack = scan rest stack := by
  rw [scan_append, balanced_iff_neutral.mp balanced]
  rfl

@[simp] theorem scan_last {s : String} (balanced : Balanced s) (stack : List Char) :
    scan s.toList stack = some stack :=
  balanced_iff_neutral.mp balanced stack

theorem Balanced.append {s t : String} (first : Balanced s) (second : Balanced t) :
    Balanced (s ++ t) := by
  rw [balanced_iff_scan]
  simp [first, second]

/-- The lines are balanced as a whole. -/
def Together (ls : List String) : Prop := Balanced (String.join ls)

namespace Together

theorem nil : Together [] := Nested.empty

theorem append {ls ms : List String} (first : Together ls) (second : Together ms) :
    Together (ls ++ ms) := by
  unfold Together
  rw [String.join_append]
  exact Balanced.append first second

theorem single {l : String} (balanced : Balanced l) : Together [l] := by
  unfold Together
  rw [String.join_cons, String.join_nil, String.append_empty]
  exact balanced

theorem of_each {ls : List String} (each : ∀ l ∈ ls, Balanced l) : Together ls := by
  induction ls with
  | nil => exact nil
  | cons l rest ih =>
    have first := single (each l List.mem_cons_self)
    exact first.append (ih fun m member => each m (List.mem_cons_of_mem l member))

end Together

/-- The two texts do the same to every stack. -/
def Alike (s t : String) : Prop := ∀ stack, scan s.toList stack = scan t.toList stack

namespace Alike

theorem refl (s : String) : Alike s s := fun _ => rfl

theorem trans {s t u : String} (first : Alike s t) (second : Alike t u) : Alike s u :=
  fun stack => (first stack).trans (second stack)

theorem append {s t s' t' : String} (first : Alike s s') (second : Alike t t') :
    Alike (s ++ t) (s' ++ t') := by
  intro stack
  rw [String.toList_append, String.toList_append, scan_append, scan_append, first stack]
  cases scan s'.toList stack with
  | none => rfl
  | some between => exact second between

theorem balanced {s t : String} (alike : Alike s t) (balanced : Balanced t) : Balanced s := by
  rw [balanced_iff_scan, alike []]
  exact balanced_iff_scan.mp balanced

theorem of_brackets {s t : String} (same : brackets s = brackets t) : Alike s t := by
  intro stack
  rw [← scan_filter, ← scan_filter t.toList]
  exact congrArg (scan · stack) same

theorem led {lead : String} (balanced : Balanced lead) (s : String) : Alike (lead ++ s) s := by
  intro stack
  rw [String.toList_append, scan_part balanced]

end Alike

theorem alike_join {α : Type} {f g : α → String} {items : List α}
    (each : ∀ a ∈ items, Alike (f a) (g a)) :
    Alike (String.join (items.map f)) (String.join (items.map g)) := by
  induction items with
  | nil => exact .refl _
  | cons a rest ih =>
    have others := ih fun b member => each b (List.mem_cons_of_mem a member)
    rw [List.map_cons, List.map_cons, String.join_cons, String.join_cons]
    exact (each a List.mem_cons_self).append others

theorem alike_intercalate {sep : String} (balanced : Balanced sep) (ls : List String) :
    Alike (sep.intercalate ls) (String.join ls) := by
  induction ls with
  | nil => exact .refl _
  | cons l rest ih =>
    cases rest with
    | nil =>
      rw [String.intercalate_singleton, String.join_cons, String.join_nil, String.append_empty]
      exact .refl l
    | cons next rest =>
      rw [String.intercalate_cons_cons, String.append_assoc, String.join_cons]
      exact (Alike.refl l).append ((Alike.led balanced _).trans ih)

theorem balanced_intercalate {sep : String} (balanced : Balanced sep) {ls : List String}
    (each : ∀ l ∈ ls, Balanced l) : Balanced (sep.intercalate ls) :=
  (alike_intercalate balanced ls).balanced (Together.of_each each)

theorem together_braces {first last : String} {ls : List String}
    (opens : ∀ stack, scan first.toList stack = some ('\x7d' :: stack))
    (within : Together ls)
    (closes : ∀ stack, scan last.toList ('\x7d' :: stack) = some stack) :
    Together (first :: ls ++ [last]) := by
  unfold Together
  rw [List.cons_append, String.join_cons, String.join_append, String.join_cons, String.join_nil,
    String.append_empty, balanced_iff_scan, String.toList_append, String.toList_append, scan_append,
    opens]
  change scan (_ ++ _) _ = _
  rw [scan_part within, closes]

/-! Lines. What cutting drops, trimming drops and closing a statement adds are no brackets. -/

theorem brackets_append (s t : String) : brackets (s ++ t) = brackets s ++ brackets t := by
  unfold brackets
  rw [String.toList_append, List.filter_append]

private theorem filter_splitOn (cs : List Char) :
    (cs.splitOn '\n').flatten.filter isBracket = cs.filter isBracket := by
  induction cs with
  | nil => rfl
  | cons c rest ih =>
    rw [List.splitOn_cons_eq_if_modifyHead]
    split
    case isTrue feed =>
      have other : isBracket c = false := by
        rw [eq_of_beq feed]
        decide
      rw [List.flatten_cons, List.nil_append, ih, List.filter_cons_of_neg (by simp [other])]
    case isFalse =>
      obtain ⟨first, others, cut⟩ := List.exists_cons_of_ne_nil (List.splitOn_ne_nil '\n' rest)
      rw [cut, List.flatten_cons] at ih
      rw [cut, List.modifyHead_cons, List.flatten_cons, List.cons_append, List.filter_cons,
        List.filter_cons, ih]

theorem alike_lines (s : String) : Alike (String.join (lines s)) s := by
  apply Alike.of_brackets
  unfold brackets lines
  rw [String.toList_join, List.flatMap_map]
  simp only [String.toList_ofList]
  rw [List.flatMap_id', filter_splitOn, List.filter_filter]
  congr 1
  funext c
  by_cases dropped : c = '\r'
  · rw [dropped]
    decide
  · simp [dropped]

theorem alike_leadLines {lead : String} (fixed : Balanced lead) (s : String) :
    Alike (String.join (leadLines lead s)) s := by
  have cut : Alike (String.join ((lines s).map (lead ++ ·))) (String.join ((lines s).map id)) :=
    alike_join fun line _ => Alike.led fixed line
  rw [List.map_id] at cut
  exact cut.trans (alike_lines s)

theorem together_leadLines {lead : String} (fixed : Balanced lead) {ts : List String}
    (each : ∀ t ∈ ts, Balanced t) : Together (ts.flatMap (leadLines lead)) := by
  induction ts with
  | nil => exact .nil
  | cons t rest ih =>
    have first : Together (leadLines lead t) :=
      (alike_leadLines fixed t).balanced (each t List.mem_cons_self)
    have others := ih fun u member => each u (List.mem_cons_of_mem t member)
    rw [List.flatMap_cons]
    exact first.append others

private theorem eq_of_isBracket {c : Char} (bracket : isBracket c = true) :
    c = '(' ∨ c = '[' ∨ c = '\x7b' ∨ c = ')' ∨ c = ']' ∨ c = '\x7d' := by
  unfold isBracket closer? isCloser at bracket
  by_cases round : c = '('
  · exact .inl round
  by_cases square : c = '['
  · exact .inr (.inl square)
  by_cases curly : c = '\x7b'
  · exact .inr (.inr (.inl curly))
  simpa [round, square, curly, or_assoc] using bracket

private theorem isBracket_eq_false {p : Char → Bool} {c : Char}
    (spared : ['(', '[', '\x7b', ')', ']', '\x7d'].all (!p ·) = true) (holds : p c = true) :
    isBracket c = false := by
  rw [← Bool.not_eq_true]
  intro bracket
  have member : c ∈ ['(', '[', '\x7b', ')', ']', '\x7d'] := by
    simpa using eq_of_isBracket bracket
  have refuted := List.all_eq_true.mp spared c member
  rw [holds] at refuted
  cases refuted

private theorem filter_dropEndWhile (cs : List Char) :
    (dropEndWhile isBlankChar cs).filter isBracket = cs.filter isBracket := by
  have front : ∀ ds : List Char,
      (ds.dropWhile isBlankChar).filter isBracket = ds.filter isBracket := by
    intro ds
    induction ds with
    | nil => rfl
    | cons d ds ih =>
      rw [List.dropWhile_cons]
      split
      case isTrue blank =>
        have other : isBracket d = false := isBracket_eq_false (by decide) blank
        rw [ih, List.filter_cons_of_neg (by simp [other])]
      case isFalse => rfl
  unfold dropEndWhile
  rw [List.filter_reverse, front, ← List.filter_reverse, List.reverse_reverse]

theorem alike_trimEnd (s : String) : Alike (trimEnd s) s := by
  apply Alike.of_brackets
  unfold brackets trimEnd
  rw [String.toList_ofList, filter_dropEndWhile]

theorem alike_closeStatement (s : String) : Alike (closeStatement s) s := by
  refine Alike.trans ?_ (alike_trimEnd s)
  apply Alike.of_brackets
  unfold closeStatement
  dsimp only
  split
  case h_1 c _ =>
    split
    · rfl
    · rw [brackets_append]
      exact List.append_nil _
  case h_2 empty =>
    unfold brackets
    rw [List.getLast?_eq_none_iff.mp empty]
    rfl

/-! Texts in quotes, and numbers. -/

private theorem filter_hexPadded (width n : Nat) : (hexPadded width n).filter isBracket = [] := by
  induction width generalizing n with
  | zero => rfl
  | succ width ih =>
    have digits : ∀ k < 16, isBracket (hexDigit k) = false := by decide
    have last := digits (n % 16) (Nat.mod_lt n (by omega))
    rw [hexPadded, List.filter_append, ih, List.filter_cons_of_neg (by simp [last])]
    rfl

set_option maxRecDepth 4096 in
private theorem isPrintable_of_isBracket {c : Char} (bracket : isBracket c = true) :
    isPrintable c = true := by
  unfold isPrintable
  rw [← Array.any_toList]
  refine List.any_eq_true.mpr ⟨(0x20, 0x7E), List.Mem.head _, ?_⟩
  rcases eq_of_isBracket bracket with rfl | rfl | rfl | rfl | rfl | rfl <;> decide

private theorem filter_quoteChar {quote : Char} (c : Char) :
    (quoteChar quote c).filter isBracket = [c].filter isBracket := by
  have mark : isBracket backslash = false := by decide
  have drop : ∀ cs, (backslash :: cs).filter isBracket = cs.filter isBracket :=
    fun cs => List.filter_cons_of_neg (by simp [mark])
  unfold quoteChar
  split
  · exact drop [c]
  by_cases bracket : isBracket c = true
  · -- Brackets are printable, so they stand for themselves.
    have printable := isPrintable_of_isBracket bracket
    rcases eq_of_isBracket bracket with rfl | rfl | rfl | rfl | rfl | rfl <;> simp [printable]
  · have unbracketed : [c].filter isBracket = [] := List.filter_cons_of_neg bracket
    rw [unbracketed]
    repeat' split
    all_goals first
      | exact unbracketed
      | simp [drop, filter_hexPadded, isBracket]

theorem alike_quoted (s : String) : Alike (quoted s) s := by
  have body : ∀ quote, (s.toList.flatMap (quoteChar quote)).filter isBracket =
      s.toList.filter isBracket := by
    intro quote
    induction s.toList with
    | nil => rfl
    | cons c rest ih =>
      rw [List.flatMap_cons, List.filter_append, ih, filter_quoteChar]
      exact (List.filter_append [c] rest).symm
  have single : isBracket singleQuote = false := by decide
  have double : isBracket doubleQuote = false := by decide
  apply Alike.of_brackets
  unfold brackets quoted
  rw [String.toList_ofList]
  split
  · simp [double, body]
  · simp [single, body]

theorem balanced_of_none {s : String} (unbracketed : brackets s = []) : Balanced s := by
  unfold Balanced
  rw [unbracketed]
  exact .empty

theorem balanced_natText (n : Nat) : Balanced (toString n) := by
  apply balanced_of_none
  unfold brackets
  rw [Nat.toString_eq_ofList_toDigits, String.toList_ofList, List.filter_eq_nil_iff]
  intro c member
  have digit : c.isDigit = true := Nat.isDigit_of_mem_toDigits (by omega) (by omega) member
  simp [isBracket_eq_false (p := Char.isDigit) (by decide) digit]

theorem balanced_intText (n : Int) : Balanced (toString n) := by
  rw [Int.toString_eq_repr, Int.repr_eq_if]
  split
  · exact balanced_natText n.toNat
  · exact Balanced.append (by decide) (balanced_natText (-n).toNat)

end TypeScriptGen.Text
