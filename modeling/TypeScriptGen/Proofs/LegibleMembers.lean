import Mathlib.Data.List.Infix
import TypeScriptGen.Declaration.Rendering
import TypeScriptGen.Proofs.Steps

/-!
The lines of fields and parameters can be read back. In front of the first colon stand words, each
with a space behind it, and the name, which may have a mark in front and a question mark behind it.
Behind the colon, the first equals sign that is not half of an arrow leads the initial value. Main
statement: fields with the same line are the same field, and so it is with parameters.
-/

set_option autoImplicit false
set_option relaxedAutoImplicit false

namespace TypeScriptGen

namespace Text

/-- The text can stand as a name: it is not empty and has none of the signs that stand around names.
Letters and digits of any script are no such signs, nor are `_` and `$`. -/
def IsWord (s : String) : Prop := s ≠ "" ∧ ∀ c ∈ s.toList, c ∉ [' ', ':', '?', '#', '.']

instance (s : String) : Decidable (IsWord s) :=
  have := s.toList.decidableBAll fun c => c ∉ [' ', ':', '?', '#', '.']
  inferInstanceAs (Decidable (_ ∧ _))

/-- Every equals sign is the first half of an arrow. -/
def Arrowed (s : String) : Prop := ∀ tail ∈ s.toList.tails, ['='] <+: tail → ['=', '>'] <+: tail

instance (s : String) : Decidable (Arrowed s) := inferInstanceAs (Decidable (∀ _ ∈ _, _))

theorem isWord_of_letters {s : String} (filled : s ≠ "")
    (letters : s.toList.all (fun c => c.isAlphanum || c == '_' || c == '$') = true) : IsWord s := by
  have others : [' ', ':', '?', '#', '.'].all
      (fun c => !(c.isAlphanum || c == '_' || c == '$')) = true := by decide
  refine ⟨filled, fun c member sign => ?_⟩
  have letter := List.all_eq_true.mp letters c member
  have other := List.all_eq_true.mp others c sign
  rw [letter] at other
  cases other

private theorem eq_at_first {sign : Char} {front other behind rest : List Char}
    (absent : sign ∉ front) (absentToo : sign ∉ other)
    (same : front ++ sign :: behind = other ++ sign :: rest) : front = other ∧ behind = rest := by
  induction front generalizing other with
  | nil =>
    cases other with
    | nil => exact ⟨rfl, (List.cons.inj same).2⟩
    | cons d other => exact absurd (List.mem_cons.mpr (.inl (List.cons.inj same).1)) absentToo
  | cons c front ih =>
    cases other with
    | nil => exact absurd (List.mem_cons.mpr (.inl (List.cons.inj same).1.symm)) absent
    | cons d other =>
      obtain ⟨rfl, others⟩ := List.cons.inj same
      obtain ⟨rfl, behind⟩ := ih (List.not_mem_of_not_mem_cons absent)
        (List.not_mem_of_not_mem_cons absentToo) others
      exact ⟨rfl, behind⟩

private theorem eq_of_spaced {words others : List String} {last final : List Char}
    (solid : ∀ w ∈ words, ' ' ∉ w.toList) (solidToo : ∀ w ∈ others, ' ' ∉ w.toList)
    (whole : ' ' ∉ last) (wholeToo : ' ' ∉ final)
    (same : (words.flatMap fun w => w.toList ++ [' ']) ++ last =
      (others.flatMap fun w => w.toList ++ [' ']) ++ final) : words = others ∧ last = final := by
  induction words generalizing others with
  | nil =>
    cases others with
    | nil => exact ⟨rfl, same⟩
    | cons w others =>
      have spaced : last = _ := same
      exact absurd (by rw [spaced]; simp) whole
  | cons w words ih =>
    cases others with
    | nil =>
      have spaced : _ = final := same
      exact absurd (by rw [← spaced]; simp) wholeToo
    | cons v others =>
      simp only [List.flatMap_cons, List.append_assoc, List.singleton_append] at same
      -- The first space ends the first word on both sides.
      obtain ⟨word, rest⟩ := eq_at_first (solid w List.mem_cons_self)
        (solidToo v List.mem_cons_self) same
      obtain ⟨rfl, last⟩ := ih (fun u member => solid u (List.mem_cons_of_mem w member))
        (fun u member => solidToo u (List.mem_cons_of_mem v member)) rest
      exact ⟨congrArg (· :: _) (String.toList_inj.mp word), last⟩

private theorem not_continued {type other : String} {initial final : Option String}
    {more : List Char} (arrowed : Arrowed other) (longer : other.toList = type.toList ++ more)
    (rest : (assigned initial).toList = more ++ (assigned final).toList) : more = [] := by
  cases initial with
  | none => exact (List.append_eq_nil_iff.mp rest.symm).1
  | some e =>
    have led : (assigned (some e)).toList = ' ' :: '=' :: ' ' :: e.toList := by simp [assigned]
    rw [led] at rest
    cases more with
    | nil => rfl
    | cons c more =>
      obtain ⟨-, behind⟩ := List.cons.inj rest
      -- Whatever is more takes the equals sign with it. In the other type that sign starts an
      -- arrow, but there is a space behind it.
      cases more with
      | nil => cases final <;> simp [assigned] at behind
      | cons sign more =>
        obtain ⟨rfl, further⟩ := List.cons.inj behind
        have suffix : '=' :: more <:+ other.toList := ⟨type.toList ++ [c], by simp [longer]⟩
        obtain ⟨tail, arrow⟩ := arrowed _ ((List.mem_tails _ _).mpr suffix) (by simp)
        obtain rfl : '>' :: tail = more := (List.cons.inj arrow).2
        cases (List.cons.inj further).1

private theorem eq_of_assigned {type other : String} {initial final : Option String}
    (arrowed : Arrowed type) (arrowedToo : Arrowed other)
    (same : type ++ assigned initial = other ++ assigned final) :
    type = other ∧ initial = final := by
  have whole := congrArg String.toList same
  rw [String.toList_append, String.toList_append] at whole
  have types : type = other := by
    apply String.toList_inj.mp
    rcases List.append_eq_append_iff.mp whole with ⟨more, longer, rest⟩ | ⟨more, longer, rest⟩
    · rw [longer, not_continued arrowedToo longer rest, List.append_nil]
    · rw [longer, not_continued arrowed longer rest, List.append_nil]
  subst types
  rw [String.append_right_inj] at same
  cases initial <;> cases final <;> simp_all [assigned]

end Text

open Text

def shownWords (choice : List (String × Bool)) : List String :=
  (choice.filter Prod.snd).map Prod.fst

theorem mem_of_mem_shownWords {choice : List (String × Bool)} {word : String}
    (shown : word ∈ shownWords choice) : word ∈ choice.map Prod.fst :=
  (List.filter_sublist.map Prod.fst).subset shown

theorem eq_of_shownWords {choice other : List (String × Bool)}
    (offered : choice.map Prod.fst = other.map Prod.fst) (distinct : (choice.map Prod.fst).Nodup)
    (same : shownWords choice = shownWords other) : choice = other := by
  induction choice generalizing other with
  | nil => rw [List.map_eq_nil_iff.mp offered.symm]
  | cons first choice ih =>
    obtain ⟨second, other, rfl⟩ : ∃ second rest, other = second :: rest := by
      cases other with
      | nil => cases offered
      | cons second rest => exact ⟨second, rest, rfl⟩
    obtain ⟨word, isShown⟩ := first
    obtain ⟨word', isShownToo⟩ := second
    rw [List.map_cons, List.map_cons] at offered
    obtain ⟨rfl, further⟩ : word = word' ∧ _ := List.cons.inj offered
    rw [List.map_cons, List.nodup_cons] at distinct
    -- A word that only one side shows here would come later on the other, but all are different.
    cases isShown <;> cases isShownToo
    case false.false => rw [ih further distinct.2 same]
    case true.true => rw [ih further distinct.2 (List.cons.inj same).2]
    case true.false =>
      have shown : word ∈ shownWords other := same ▸ List.mem_cons_self
      exact absurd (further ▸ mem_of_mem_shownWords shown) distinct.1
    case false.true =>
      have shown : word ∈ shownWords choice := same ▸ List.mem_cons_self
      exact absurd (mem_of_mem_shownWords shown) distinct.1

def wordsText (choice : List (String × Bool)) : String :=
  String.join ((shownWords choice).map (· ++ " "))

@[simp] theorem wordsText_nil : wordsText [] = "" := rfl

@[simp] theorem wordsText_cons (word : String) (isShown : Bool) (rest : List (String × Bool)) :
    wordsText ((word, isShown) :: rest) = flag isShown (word ++ " ") ++ wordsText rest := by
  cases isShown <;> simp [wordsText, shownWords, flag]

theorem wordsText_append (choice other : List (String × Bool)) :
    wordsText (choice ++ other) = wordsText choice ++ wordsText other := by
  induction choice with
  | nil => simp
  | cons first choice ih =>
    rw [List.cons_append, wordsText_cons, wordsText_cons, ih, String.append_assoc]

theorem toList_wordsText (choice : List (String × Bool)) :
    (wordsText choice).toList = (shownWords choice).flatMap fun w => w.toList ++ [' '] := by
  unfold wordsText
  rw [String.toList_join, List.flatMap_map]
  simp

theorem mem_of_mem_flag {applies : Bool} {word : String} {c : Char}
    (member : c ∈ (flag applies word).toList) : c ∈ word.toList := by
  cases applies with
  | false => cases member
  | true => exact member

/-- A name and all that is shown around it. -/
structure NamedLine where
  /-- The words that could stand in front of the name, and whether they do. -/
  words : List (String × Bool)
  mark : String
  isMarked : Bool
  name : String
  isOptional : Bool
  type : String
  initial : Option String

namespace NamedLine

def markedName (l : NamedLine) : String := flag l.isMarked l.mark ++ l.name ++ flag l.isOptional "?"

def text (l : NamedLine) : String :=
  wordsText l.words ++ l.markedName ++ ": " ++ l.type ++ assigned l.initial

/-- The name and the words in front of it are words, all of them different, the mark is none, and
the type has no equals sign but in arrows. -/
structure Legible (l : NamedLine) : Prop where
  words : ∀ w ∈ l.words.map Prod.fst, IsWord w
  distinct : (l.words.map Prod.fst).Nodup
  mark : l.mark ≠ "" ∧ ∀ c ∈ l.mark.toList, c ∈ ['#', '.']
  name : IsWord l.name
  type : Arrowed l.type

variable {l k : NamedLine}

private theorem Legible.solid (legible : l.Legible) {w : String} (shown : w ∈ shownWords l.words) :
    ' ' ∉ w.toList ∧ ':' ∉ w.toList := by
  have word := legible.words w (mem_of_mem_shownWords shown)
  exact ⟨fun space => word.2 ' ' space (by simp), fun colon => word.2 ':' colon (by simp)⟩

theorem Legible.not_mem_markedName (legible : l.Legible) :
    ∀ c ∈ l.markedName.toList, c ∉ [' ', ':'] := by
  intro c member
  have marks : ∀ c ∈ ['#', '.', '?'], c ∉ [' ', ':'] := by simp
  simp only [markedName, String.toList_append, List.mem_append] at member
  rcases member with (marked | named) | optional
  · have sign := legible.mark.2 c (mem_of_mem_flag marked)
    exact marks c (List.mem_of_mem_take (i := 2) sign)
  · have sign := legible.name.2 c named
    exact fun wrong => sign (List.mem_of_mem_take (i := 2) wrong)
  · have sign := mem_of_mem_flag optional
    exact marks c (List.mem_of_mem_drop (i := 2) sign)

private theorem Legible.front (legible : l.Legible) :
    l.text.toList = (wordsText l.words ++ l.markedName).toList ++
        ':' :: ' ' :: (l.type ++ assigned l.initial).toList ∧
      ':' ∉ (wordsText l.words ++ l.markedName).toList := by
  refine ⟨by simp [text], ?_⟩
  rw [String.toList_append, toList_wordsText, List.mem_append, not_or]
  constructor
  · intro colon
    obtain ⟨w, shown, inside⟩ := List.mem_flatMap.mp colon
    rcases List.mem_append.mp inside with inside | space
    · exact (legible.solid shown).2 inside
    · simp at space
  · intro colon
    exact legible.not_mem_markedName ':' colon (by simp)

private theorem Legible.isMarked_iff (legible : l.Legible) :
    l.isMarked = true ↔ ∃ c ∈ l.markedName.toList.head?, c ∈ ['#', '.'] := by
  obtain ⟨c, rest, named⟩ : ∃ c rest, l.name.toList = c :: rest :=
    List.exists_cons_of_ne_nil (by simpa using legible.name.1)
  obtain ⟨d, others, mark⟩ : ∃ d others, l.mark.toList = d :: others :=
    List.exists_cons_of_ne_nil (by simpa using legible.mark.1)
  have signs := legible.name.2 c (by simp [named])
  have sign := legible.mark.2 d (by simp [mark])
  unfold markedName
  cases l.isMarked with
  | false =>
    simp only [List.mem_cons, not_or] at signs
    simp [flag, named, signs]
  | true => simpa [flag, mark] using sign

private theorem Legible.isOptional_iff (legible : l.Legible) :
    l.isOptional = true ↔ l.markedName.toList.getLast? = some '?' := by
  obtain ⟨front, c, named⟩ : ∃ front c, l.name.toList = front ++ [c] := by
    rcases List.eq_nil_or_concat l.name.toList with empty | ⟨front, c, named⟩
    · exact absurd empty (by simpa using legible.name.1)
    · exact ⟨front, c, named.trans (List.concat_eq_append)⟩
  have signs := legible.name.2 c (by simp [named])
  unfold markedName
  cases l.isOptional with
  | false =>
    simp only [List.mem_cons, not_or] at signs
    simp [flag, named, signs]
  | true => simp [flag]

private theorem Legible.eq_of_markedName (legible : l.Legible) (legibleToo : k.Legible)
    (marks : l.mark = k.mark) (same : l.markedName = k.markedName) :
    l.isMarked = k.isMarked ∧ l.name = k.name ∧ l.isOptional = k.isOptional := by
  have marked : l.isMarked = k.isMarked := by
    rw [Bool.eq_iff_iff, legible.isMarked_iff, legibleToo.isMarked_iff, same]
  have optional : l.isOptional = k.isOptional := by
    rw [Bool.eq_iff_iff, legible.isOptional_iff, legibleToo.isOptional_iff, same]
  refine ⟨marked, ?_, optional⟩
  unfold markedName at same
  rw [marked, marks, optional, String.append_left_inj, String.append_right_inj] at same
  exact same

theorem eq_of_text (legible : l.Legible) (legibleToo : k.Legible)
    (offered : l.words.map Prod.fst = k.words.map Prod.fst) (marks : l.mark = k.mark)
    (same : l.text = k.text) : l = k := by
  have whole := congrArg String.toList same
  -- The colon comes first: it parts the name and the words from the type and the initial value.
  rw [legible.front.1, legibleToo.front.1] at whole
  obtain ⟨front, behind⟩ := eq_at_first legible.front.2 legibleToo.front.2 whole
  obtain ⟨types, initials⟩ := eq_of_assigned legible.type legibleToo.type
    (String.toList_inj.mp (List.cons.inj behind).2)
  rw [String.toList_append, String.toList_append, toList_wordsText, toList_wordsText] at front
  obtain ⟨words, named⟩ := eq_of_spaced (fun w shown => (legible.solid shown).1)
    (fun w shown => (legibleToo.solid shown).1)
    (fun space => legible.not_mem_markedName ' ' space (by simp))
    (fun space => legibleToo.not_mem_markedName ' ' space (by simp)) front
  have choices := eq_of_shownWords offered legible.distinct words
  obtain ⟨marked, names, optional⟩ := legible.eq_of_markedName legibleToo marks
    (String.toList_inj.mp named)
  cases l
  cases k
  simp_all

end NamedLine

namespace Access

def choice (a : Access) : List (String × Bool) :=
  [("public", a == .markedPublic), ("private", a == .markedPrivate),
    ("protected", a == .markedProtected)]

theorem lead_choice (a : Access) : lead (.good a) = .ok (wordsText a.choice) := by
  cases a <;> rfl

theorem choice_injective {a b : Access} (same : a.choice = b.choice) : a = b := by
  cases a <;> cases b <;> first | rfl | exact absurd same (by decide)

end Access

namespace Field

/-- A field is legible by its name and its type, and has an accessibility. -/
structure Legible (f : Field) : Prop where
  name : IsWord f.name
  type : Arrowed f.type
  access : ∃ a, f.access = .good a

def shown (f : Field) (a : Access) : NamedLine where
  words := a.choice ++ [("abstract", f.isAbstract), ("declare", f.isDeclare),
    ("override", f.isOverride), ("static", f.isStatic), ("readonly", f.isReadonly)]
  mark := "#"
  isMarked := f.isHashPrivate
  name := f.name
  isOptional := f.isOptional
  type := f.type
  initial := f.initializer

variable {f g : Field} {a b : Access}

theorem fieldLine_shown (s : Settings) (indent : String) (given : f.access = .good a) :
    Rendering.fieldLine s indent f = .ok (indent ++ (f.shown a).text ++ s.semicolon) := by
  unfold Rendering.fieldLine
  rw [given, Access.lead_choice, Step.ok_bind]
  simp [shown, NamedLine.text, NamedLine.markedName, wordsText_append, String.append_assoc, pure,
    Except.pure]

theorem Legible.shown (legible : f.Legible) (a : Access) : (f.shown a).Legible where
  words := by
    have words : ∀ w ∈ ["public", "private", "protected", "abstract", "declare", "override",
      "static", "readonly"], IsWord w := by decide
    exact words
  distinct := by
    have distinct : ["public", "private", "protected", "abstract", "declare", "override", "static",
      "readonly"].Nodup := by decide
    exact distinct
  mark := by
    have mark : "#" ≠ "" ∧ ∀ c ∈ "#".toList, c ∈ ['#', '.'] := ⟨by decide, by simp⟩
    exact mark
  name := legible.name
  type := legible.type

theorem eq_of_shown (given : f.access = .good a) (givenToo : g.access = .good b)
    (same : f.shown a = g.shown b) : f = g := by
  unfold Field.shown at same
  simp only [NamedLine.mk.injEq, true_and] at same
  obtain ⟨words, marked, name, optional, type, initial⟩ := same
  obtain ⟨access, flags⟩ := List.append_inj words rfl
  rw [← Access.choice_injective access] at givenToo
  cases f
  cases g
  simp_all

end Field

namespace Parameter

/-- A parameter is legible by its name and its type, and has an accessibility. -/
structure Legible (p : Parameter) : Prop where
  name : IsWord p.name
  type : Arrowed p.type
  access : ∃ a, p.access = .good a

def shown (p : Parameter) (a : Access) : NamedLine where
  words := a.choice ++ [("readonly", p.isReadonly)]
  mark := "..."
  isMarked := p.isRest
  name := p.name
  isOptional := p.isOptional
  type := p.type
  initial := p.defaultValue

variable {p q : Parameter} {a b : Access}

theorem render_shown (given : p.access = .good a) : p.render true = .ok (p.shown a).text := by
  unfold render
  rw [given, if_pos rfl, Access.lead_choice, Step.ok_bind]
  cases initial : p.defaultValue <;>
    simp [shown, NamedLine.text, NamedLine.markedName, wordsText_append, String.append_assoc, flag,
      assigned, initial, pure, Except.pure]

theorem Legible.shown (legible : p.Legible) (a : Access) : (p.shown a).Legible where
  words := by
    have words : ∀ w ∈ ["public", "private", "protected", "readonly"], IsWord w := by decide
    exact words
  distinct := by
    have distinct : ["public", "private", "protected", "readonly"].Nodup := by decide
    exact distinct
  mark := by
    have mark : "..." ≠ "" ∧ ∀ c ∈ "...".toList, c ∈ ['#', '.'] := ⟨by decide, by simp⟩
    exact mark
  name := legible.name
  type := legible.type

theorem eq_of_shown (given : p.access = .good a) (givenToo : q.access = .good b)
    (same : p.shown a = q.shown b) : p = q := by
  unfold Parameter.shown at same
  simp only [NamedLine.mk.injEq, true_and] at same
  obtain ⟨words, marked, name, optional, type, initial⟩ := same
  obtain ⟨access, flags⟩ := List.append_inj words rfl
  rw [← Access.choice_injective access] at givenToo
  cases p
  cases q
  simp_all

end Parameter

namespace Rendering

open NamedLine

/-- Main theorem. A field with a word for its name, and in its type no equals sign but in arrows,
has a line, and every such field with the same line is the same field; so it is with parameters
that show what makes them properties. The word may be that of a modifier, and the initial value may
be any text. -/
theorem line_determines (s : Settings) (indent : String) :
    (∀ f g : Field, f.Legible → g.Legible →
      ∃ line, fieldLines s indent (.good f) = .ok [line] ∧
        (fieldLines s indent (.good g) = .ok [line] → g = f)) ∧
    ∀ p q : Parameter, p.Legible → q.Legible →
      ∃ line, p.render true = .ok line ∧ (q.render true = .ok line → q = p) := by
  constructor
  · intro f g legible legibleToo
    obtain ⟨a, given⟩ := legible.access
    obtain ⟨b, givenToo⟩ := legibleToo.access
    refine ⟨indent ++ (f.shown a).text ++ s.semicolon, ?_, ?_⟩
    · rw [fieldLines, Field.fieldLine_shown s indent given]
      rfl
    · intro same
      rw [fieldLines, Field.fieldLine_shown s indent givenToo] at same
      have lines := (List.cons.inj (Except.ok.inj same)).1
      rw [String.append_left_inj, String.append_right_inj] at lines
      exact Field.eq_of_shown givenToo given
        (eq_of_text (legibleToo.shown b) (legible.shown a) rfl rfl lines)
  · intro p q legible legibleToo
    obtain ⟨a, given⟩ := legible.access
    obtain ⟨b, givenToo⟩ := legibleToo.access
    refine ⟨(p.shown a).text, Parameter.render_shown given, ?_⟩
    intro same
    rw [Parameter.render_shown givenToo] at same
    exact Parameter.eq_of_shown givenToo given
      (eq_of_text (legibleToo.shown b) (legible.shown a) rfl rfl (Except.ok.inj same))

/-- Without the condition on types, an initial value can pass for a part of the type. -/
example : fieldLine {} "" { name := "x", type := "A = b" } =
    fieldLine {} "" { name := "x", type := "A", initializer := some "b" } := by
  rw [Field.fieldLine_shown {} "" rfl, Field.fieldLine_shown {} "" rfl]
  rfl

def modifierField : Field where
  name := "readonly"
  type := "() => A"
  isStatic := true
  initializer := some "a: b = c;"

/-- The theorem at work: over a type with an arrow, with a colon and an equals sign in the initial
value. -/
theorem line_determines_static :
    modifierField.Legible ∧
      fieldLines {} "  " (.good modifierField) =
        .ok ["  static readonly: () => A = a: b = c;;"] ∧
      ∀ g : Field, g.Legible →
        fieldLines {} "  " (.good g) = .ok ["  static readonly: () => A = a: b = c;;"] →
          g = modifierField := by
  have name : IsWord modifierField.name := isWord_of_letters (by decide) (by decide)
  have legible : modifierField.Legible := ⟨name, by decide, ⟨.unmarked, rfl⟩⟩
  have found : fieldLines {} "  " (.good modifierField) =
      .ok ["  static readonly: () => A = a: b = c;;"] := rfl
  refine ⟨legible, found, fun g legibleToo same => ?_⟩
  obtain ⟨line, shown, unique⟩ := (line_determines {} "  ").1 modifierField g legible legibleToo
  rw [found] at shown
  obtain rfl := (List.cons.inj (Except.ok.inj shown)).1
  exact unique same

end Rendering

end TypeScriptGen
