import Mathlib.Algebra.GroupWithZero.Nat
import TypeScriptGen.Text.Lines

/-!
The algebra of lines: cutting a text into lines, putting texts together with line feeds, and putting
a lead in front of every line. Cutting undoes joining, and what was cut cannot be cut further. Main
statement: the equations on which every indentation of a text inside another one rests.
-/

set_option autoImplicit false
set_option relaxedAutoImplicit false

namespace TypeScriptGen.Text

/-- The text stands on one line: it has neither line feeds nor carriage returns. -/
def Plain (s : String) : Prop := '\n' ∉ s.toList ∧ '\r' ∉ s.toList

instance (s : String) : Decidable (Plain s) := inferInstanceAs (Decidable (_ ∧ _))

theorem Plain.append {s t : String} (first : Plain s) (second : Plain t) : Plain (s ++ t) := by
  unfold Plain
  rw [String.toList_append, List.mem_append, List.mem_append]
  refine ⟨?_, ?_⟩
  · rintro (member | member)
    · exact first.1 member
    · exact second.1 member
  · rintro (member | member)
    · exact first.2 member
    · exact second.2 member

private theorem filter_plain {s : String} (plain : Plain s) :
    s.toList.filter (· != '\r') = s.toList := by
  apply List.filter_eq_self.mpr
  intro c member
  have other : c ≠ '\r' := by
    rintro rfl
    exact plain.2 member
  simpa using other

theorem lines_ne_nil (s : String) : lines s ≠ [] := by
  unfold lines
  intro empty
  exact List.splitOn_ne_nil _ _ (List.map_eq_nil_iff.mp empty)

theorem lines_plain {s : String} (plain : Plain s) : lines s = [s] := by
  unfold lines
  rw [filter_plain plain, List.splitOn_eq_singleton plain.1, List.map_singleton,
    String.ofList_toList]

private theorem mem_splitOn {sep : Char} {cs part : List Char} (member : part ∈ cs.splitOn sep) :
    sep ∉ part ∧ ∀ c ∈ part, c ∈ cs := by
  induction cs generalizing part with
  | nil =>
    rw [List.splitOn_nil, List.mem_singleton] at member
    rw [member]
    exact ⟨List.not_mem_nil, fun c absent => absent⟩
  | cons c rest ih =>
    rw [List.splitOn_cons_eq_if_modifyHead] at member
    split at member
    case isTrue =>
      rcases List.mem_cons.mp member with rfl | member
      · exact ⟨List.not_mem_nil, fun _ absent => by cases absent⟩
      · have found := ih member
        exact ⟨found.1, fun d inside => List.mem_cons_of_mem c (found.2 d inside)⟩
    case isFalse other =>
      obtain ⟨first, others, cut⟩ := List.exists_cons_of_ne_nil (List.splitOn_ne_nil sep rest)
      rw [cut, List.modifyHead_cons] at member
      rw [cut] at ih
      rcases List.mem_cons.mp member with rfl | member
      · have found := ih List.mem_cons_self
        refine ⟨?_, ?_⟩
        · intro wrong
          rcases List.mem_cons.mp wrong with rfl | wrong
          · simp at other
          · exact found.1 wrong
        · intro d inside
          rcases List.mem_cons.mp inside with rfl | inside
          · exact List.mem_cons_self
          · exact List.mem_cons_of_mem c (found.2 d inside)
      · have found := ih (List.mem_cons_of_mem first member)
        exact ⟨found.1, fun d inside => List.mem_cons_of_mem c (found.2 d inside)⟩

theorem plain_of_mem_lines {s l : String} (member : l ∈ lines s) : Plain l := by
  obtain ⟨cs, part, rfl⟩ := List.mem_map.mp member
  have found := mem_splitOn part
  rw [Plain, String.toList_ofList]
  refine ⟨found.1, ?_⟩
  intro wrong
  have kept := found.2 _ wrong
  simp at kept

theorem lines_feed (s t : String) : lines (s ++ "\n" ++ t) = lines s ++ lines t := by
  unfold lines
  rw [String.toList_append, String.toList_append, List.filter_append, List.filter_append]
  change ((_ ++ ['\n'] ++ _ : List Char).splitOn '\n').map _ = _
  rw [List.append_assoc, List.singleton_append, List.splitOn_append_cons_self, List.map_append]

private theorem splitOn_append (sep : Char) (cs ds : List Char) :
    ∃ front last first rest, cs.splitOn sep = front ++ [last] ∧ ds.splitOn sep = first :: rest ∧
      (cs ++ ds).splitOn sep = front ++ (last ++ first) :: rest := by
  induction cs with
  | nil =>
    obtain ⟨first, rest, cut⟩ := List.exists_cons_of_ne_nil (List.splitOn_ne_nil sep ds)
    exact ⟨[], [], first, rest, rfl, cut, cut⟩
  | cons c cs ih =>
    obtain ⟨front, last, first, rest, before, behind, glued⟩ := ih
    rw [List.splitOn_cons_eq_if_modifyHead, List.cons_append, List.splitOn_cons_eq_if_modifyHead,
      before, glued]
    split
    case isTrue => exact ⟨[] :: front, last, first, rest, rfl, behind, rfl⟩
    case isFalse =>
      cases front with
      | nil => exact ⟨[], c :: last, first, rest, rfl, behind, rfl⟩
      | cons line front => exact ⟨(c :: line) :: front, last, first, rest, rfl, behind, rfl⟩

theorem lines_append (s t : String) :
    ∃ front last first rest, lines s = front ++ [last] ∧ lines t = first :: rest ∧
      lines (s ++ t) = front ++ (last ++ first) :: rest := by
  obtain ⟨front, last, first, rest, before, behind, glued⟩ :=
    splitOn_append '\n' (s.toList.filter (· != '\r')) (t.toList.filter (· != '\r'))
  refine ⟨front.map String.ofList, String.ofList last, String.ofList first,
    rest.map String.ofList, ?_, ?_, ?_⟩
  · unfold lines
    rw [before, List.map_append, List.map_singleton]
  · unfold lines
    rw [behind, List.map_cons]
  · unfold lines
    rw [String.toList_append, List.filter_append, glued, List.map_append, List.map_cons,
      String.ofList_append]

theorem lines_intercalate {ts : List String} (filled : ts ≠ []) :
    lines ("\n".intercalate ts) = ts.flatMap lines := by
  induction ts with
  | nil => exact absurd rfl filled
  | cons t rest ih =>
    cases rest with
    | nil => simp
    | cons next rest =>
      rw [String.intercalate_cons_cons, lines_feed, ih (List.cons_ne_nil _ _)]
      exact List.flatMap_cons.symm

theorem lines_intercalate_plain {ls : List String} (filled : ls ≠ []) (plain : ∀ l ∈ ls, Plain l) :
    lines ("\n".intercalate ls) = ls := by
  rw [lines_intercalate filled]
  clear filled
  induction ls with
  | nil => rfl
  | cons l rest ih =>
    rw [List.flatMap_cons, lines_plain (plain l List.mem_cons_self),
      ih fun other member => plain other (List.mem_cons_of_mem l member)]
    rfl

theorem flatMap_leadLines (lead : String) (ts : List String) :
    ts.flatMap (leadLines lead) = (ts.flatMap lines).map (lead ++ ·) := by
  rw [List.map_flatMap]
  rfl

@[simp] theorem plain_append {s t : String} : Plain (s ++ t) ↔ Plain s ∧ Plain t := by
  constructor
  · intro plain
    unfold Plain at plain
    rw [String.toList_append, List.mem_append, List.mem_append, not_or, not_or] at plain
    exact ⟨⟨plain.1.1, plain.2.1⟩, plain.1.2, plain.2.2⟩
  · intro plain
    exact plain.1.append plain.2

theorem plain_intercalate {sep : String} (fixed : Plain sep) {ts : List String}
    (each : ∀ t ∈ ts, Plain t) : Plain (sep.intercalate ts) := by
  induction ts with
  | nil =>
    rw [String.intercalate_nil]
    decide
  | cons t rest ih =>
    have first := each t List.mem_cons_self
    have others := ih fun u member => each u (List.mem_cons_of_mem t member)
    cases rest with
    | nil => simpa using first
    | cons next rest =>
      rw [String.intercalate_cons_cons]
      exact (first.append fixed).append others

/-- Every text stands on one line. -/
abbrev AllPlain (ls : List String) : Prop := ∀ l ∈ ls, Plain l

theorem allPlain_leadLines {lead : String} (fixed : Plain lead) (s : String) :
    AllPlain (leadLines lead s) := by
  intro l member
  obtain ⟨line, cut, rfl⟩ := List.mem_map.mp member
  exact fixed.append (plain_of_mem_lines cut)

theorem lines_intercalate_leadLines {lead : String} (fixed : Plain lead) (s : String) :
    lines ("\n".intercalate (leadLines lead s)) = leadLines lead s := by
  apply lines_intercalate_plain
  · unfold leadLines
    simpa using lines_ne_nil s
  · exact allPlain_leadLines fixed s

theorem leadLines_leadLines {lead : String} (fixed : Plain lead) (outer s : String) :
    leadLines outer ("\n".intercalate (leadLines lead s)) = leadLines (outer ++ lead) s := by
  rw [leadLines, lines_intercalate_leadLines fixed, leadLines, leadLines, List.map_map]
  refine List.map_congr_left fun line _ => ?_
  exact String.append_assoc.symm

theorem allPlain_intercalate {gap : List String} (between : AllPlain gap)
    {groups : List (List String)} (each : ∀ ls ∈ groups, AllPlain ls) :
    AllPlain (gap.intercalate groups) := by
  induction groups with
  | nil => exact List.forall_mem_nil _
  | cons first rest ih =>
    have one := each first List.mem_cons_self
    have others := ih fun ls member => each ls (List.mem_cons_of_mem first member)
    cases rest with
    | nil => simpa using one
    | cons next rest =>
      rw [List.intercalate_cons_cons]
      exact List.forall_mem_append.mpr ⟨List.forall_mem_append.mpr ⟨one, between⟩, others⟩

/-- A line feed, by itself or behind a carriage return. -/
def IsLineEnd (s : String) : Prop := s = "\n" ∨ s = "\r\n"

/-- The parts between the occurrences of `mark`, from left to right. Of the occurrence that was
found last, `skip` characters are still to be passed over. -/
def partsAfter (mark : List Char) : (skip : Nat) → List Char → List (List Char)
  | _, [] => [[]]
  | skip + 1, _ :: rest => partsAfter mark skip rest
  | 0, c :: rest =>
    if mark.isPrefixOf (c :: rest) then [] :: partsAfter mark (mark.length - 1) rest
    else (partsAfter mark 0 rest).modifyHead (c :: ·)

/-- The parts of `s` between the occurrences of `mark`; there is always one more part than
occurrences. -/
def splitAtText (mark s : String) : List String :=
  (partsAfter mark.toList 0 s.toList).map String.ofList

/-- The text with a carriage return in front of every line feed. -/
def withReturns (s : String) : String :=
  String.ofList (s.toList.flatMap fun c => if c = '\n' then ['\r', '\n'] else [c])

private theorem partsAfter_skip (mark rest : List Char) (skipped : List Char) :
    partsAfter mark skipped.length (skipped ++ rest) = partsAfter mark 0 rest := by
  induction skipped with
  | nil => rfl
  | cons c skipped ih => exact ih

private theorem partsAfter_part {first : Char} {mark part : List Char} (absent : first ∉ part)
    (rest : List Char) : partsAfter (first :: mark) 0 (part ++ first :: mark ++ rest) =
      part :: partsAfter (first :: mark) 0 rest := by
  induction part with
  | nil =>
    have found : (first :: mark).isPrefixOf (first :: (mark ++ rest)) = true := by simp
    change (if (first :: mark).isPrefixOf (first :: (mark ++ rest)) = true then _ else _) = _
    rw [if_pos found]
    exact congrArg _ (partsAfter_skip (first :: mark) rest mark)
  | cons c part ih =>
    rw [List.mem_cons, not_or] at absent
    have passed : (first :: mark).isPrefixOf (c :: (part ++ first :: mark ++ rest)) = false := by
      rw [List.isPrefixOf_cons_cons, beq_eq_false_iff_ne.mpr absent.1, Bool.false_and]
    rw [List.cons_append, List.cons_append, partsAfter, passed, if_neg (by decide), ih absent.2]
    rfl

private theorem toList_ended {ls : List String} (filled : ls ≠ []) (eol : String) :
    (eol.intercalate ls ++ eol).toList = ls.flatMap fun l => l.toList ++ eol.toList := by
  induction ls with
  | nil => exact absurd rfl filled
  | cons l rest ih =>
    cases rest with
    | nil => simp
    | cons next rest =>
      have others := ih (List.cons_ne_nil _ _)
      rw [String.intercalate_cons_cons, String.append_assoc, String.toList_append, others,
        String.toList_append, List.flatMap_cons (x := l)]

theorem splitAtText_ended {eol : String} (isEnd : IsLineEnd eol) {ls : List String}
    (filled : ls ≠ []) (plain : AllPlain ls) :
    splitAtText eol (eol.intercalate ls ++ eol) = ls ++ [""] := by
  have first : ∃ c mark, eol.toList = c :: mark ∧ (c = '\n' ∨ c = '\r') := by
    rcases isEnd with rfl | rfl
    · exact ⟨'\n', [], rfl, .inl rfl⟩
    · exact ⟨'\r', ['\n'], rfl, .inr rfl⟩
  obtain ⟨c, mark, same, breaks⟩ := first
  have absent : ∀ l ∈ ls, c ∉ l.toList := by
    intro l member
    rcases breaks with rfl | rfl
    · exact (plain l member).1
    · exact (plain l member).2
  unfold splitAtText
  rw [toList_ended filled, same]
  clear plain filled
  induction ls with
  | nil => rfl
  | cons l rest ih =>
    have others := ih fun m member => absent m (List.mem_cons_of_mem l member)
    rw [List.flatMap_cons, partsAfter_part (absent l List.mem_cons_self), List.map_cons, others,
      String.ofList_toList]
    rfl

private theorem returns_plain {l : String} (plain : Plain l) :
    (l.toList.flatMap fun c => if c = '\n' then ['\r', '\n'] else [c]) = l.toList := by
  have kept : ∀ cs : List Char, '\n' ∉ cs →
      (cs.flatMap fun c => if c = '\n' then ['\r', '\n'] else [c]) = cs := by
    intro cs absent
    induction cs with
    | nil => rfl
    | cons c rest ih =>
      rw [List.mem_cons, not_or] at absent
      rw [List.flatMap_cons, ih absent.2, if_neg (Ne.symm absent.1)]
      rfl
  exact kept l.toList plain.1

theorem withReturns_ended {ls : List String} (filled : ls ≠ []) (plain : AllPlain ls) :
    withReturns ("\n".intercalate ls ++ "\n") = "\r\n".intercalate ls ++ "\r\n" := by
  apply String.toList_inj.mp
  unfold withReturns
  rw [String.toList_ofList, toList_ended filled, toList_ended filled]
  clear filled
  induction ls with
  | nil => rfl
  | cons l rest ih =>
    have others := ih fun m member => plain m (List.mem_cons_of_mem l member)
    rw [List.flatMap_cons, List.flatMap_append, List.flatMap_append, others,
      returns_plain (plain l List.mem_cons_self), List.flatMap_cons]
    rfl

theorem intercalate_concat (eol : String) (front : List String) (last : String) :
    ∃ before, eol.intercalate (front ++ [last]) = before ++ last := by
  induction front with
  | nil => exact ⟨"", by simp⟩
  | cons l rest ih =>
    obtain ⟨before, same⟩ := ih
    obtain ⟨next, others, shape⟩ := List.exists_cons_of_ne_nil (l := rest ++ [last]) (by simp)
    refine ⟨l ++ eol ++ before, ?_⟩
    rw [List.cons_append, shape, String.intercalate_cons_cons, ← shape, same]
    exact String.append_assoc.symm

theorem not_ended_intercalate {eol : String} (isEnd : IsLineEnd eol) {front : List String}
    {last : String} (plain : Plain last) (shown : last ≠ "") :
    ¬ eol.toList <:+ (eol.intercalate (front ++ [last])).toList := by
  rintro ⟨before, ends⟩
  obtain ⟨start, joined⟩ := intercalate_concat eol front last
  have same := congrArg String.toList joined
  rw [String.toList_append] at same
  have feed : ∃ mark, eol.toList = mark ++ ['\n'] := by
    rcases isEnd with rfl | rfl
    · exact ⟨[], rfl⟩
    · exact ⟨['\r'], rfl⟩
  obtain ⟨mark, shape⟩ := feed
  -- The two readings of the text have the same last character.
  have final := congrArg List.getLast? (ends.trans same)
  obtain ⟨init, c, cut⟩ := List.eq_nil_or_concat last.toList |>.resolve_left (by simpa using shown)
  rw [List.concat_eq_append] at cut
  rw [shape, cut, ← List.append_assoc, ← List.append_assoc, List.getLast?_concat,
    List.getLast?_concat] at final
  have member : '\n' ∈ last.toList := by
    rw [cut, Option.some.inj final]
    exact List.mem_concat_self
  exact plain.1 member

/-- The text is these lines, each with this line end: no line has a break in it, cutting at the line
ends gives the lines back, and the text ends with one line end and no more. -/
structure Breaks (eol : String) (ls : List String) (text : String) : Prop where
  plain : AllPlain ls
  split : splitAtText eol text = ls ++ [""]
  ended : ∃ body, text = body ++ eol ∧ ¬ eol.toList <:+ body.toList

theorem breaks_ended {eol : String} (isEnd : IsLineEnd eol) {front : List String} {last : String}
    (plain : AllPlain (front ++ [last])) (shown : last ≠ "") :
    Breaks eol (front ++ [last]) (eol.intercalate (front ++ [last]) ++ eol) := by
  have single : Plain last := plain last (by simp)
  exact {
    plain
    split := splitAtText_ended isEnd (by simp) plain
    ended := ⟨_, rfl, not_ended_intercalate isEnd single shown⟩ }

/-! How often a character stands in a text. -/

/-- The number of places at which a character stands in a text. -/
def occurrences (c : Char) (s : String) : Nat := s.toList.count c

@[simp] theorem occurrences_append (c : Char) (s t : String) :
    occurrences c (s ++ t) = occurrences c s + occurrences c t := by
  unfold occurrences
  rw [String.toList_append, List.count_append]

theorem occurrences_pos_iff {c : Char} {s : String} : 0 < occurrences c s ↔ c ∈ s.toList :=
  List.count_pos_iff

theorem occurrences_eq_zero_iff {c : Char} {s : String} : occurrences c s = 0 ↔ c ∉ s.toList :=
  List.count_eq_zero

private theorem occurrences_feed {c : Char} (other : c ≠ '\n') : occurrences c "\n" = 0 := by
  rw [occurrences_eq_zero_iff]
  simpa using other

theorem occurrences_intercalate (c : Char) (sep : String) (ts : List String) :
    occurrences c (sep.intercalate ts) =
      (ts.map (occurrences c)).sum + (ts.length - 1) * occurrences c sep := by
  induction ts with
  | nil => simp [occurrences]
  | cons t rest ih =>
    cases rest with
    | nil => simp
    | cons next rest =>
      have further : (t :: next :: rest).length - 1 = ((next :: rest).length - 1) + 1 := by
        simp only [List.length_cons]
        omega
      rw [String.intercalate_cons_cons, occurrences_append, occurrences_append, ih,
        List.map_cons (l := _ :: _), List.sum_cons, further, Nat.add_one_mul]
      omega

theorem toList_intercalate_lines (s : String) :
    ("\n".intercalate (lines s)).toList = s.toList.filter (· != '\r') := by
  have same : (String.toList ∘ String.ofList) = id := by
    funext cs
    exact String.toList_ofList
  unfold lines
  rw [String.toList_intercalate, List.map_map, same, List.map_id]
  exact List.intercalate_splitOn '\n'

theorem eq_lines_of_joined {s : String} {ls : List String} (filled : ls ≠ []) (plain : AllPlain ls)
    (joined : ("\n".intercalate ls).toList = s.toList.filter (· != '\r')) : ls = lines s := by
  rw [← lines_intercalate_plain filled plain]
  unfold lines
  rw [joined, List.filter_filter]
  simp only [Bool.and_self]

theorem occurrences_lines {c : Char} (feed : c ≠ '\n') (ret : c ≠ '\r') (s : String) :
    ((lines s).map (occurrences c)).sum = occurrences c s := by
  have joined : occurrences c ("\n".intercalate (lines s)) = occurrences c s := by
    unfold occurrences
    rw [toList_intercalate_lines]
    exact List.count_filter (by simpa using ret)
  rw [occurrences_intercalate, occurrences_feed feed, Nat.mul_zero, Nat.add_zero] at joined
  exact joined

theorem occurrences_led (c : Char) (lead : String) (ls : List String) :
    ((ls.map (lead ++ ·)).map (occurrences c)).sum =
      ls.length * occurrences c lead + (ls.map (occurrences c)).sum := by
  induction ls with
  | nil => simp
  | cons l rest ih =>
    rw [List.map_cons, List.map_cons, List.sum_cons, ih, occurrences_append, List.map_cons,
      List.sum_cons, List.length_cons, Nat.add_one_mul]
    omega

theorem lines_eq_singleton {s : String} : lines s = [s] ↔ Plain s := by
  constructor
  · intro single
    apply plain_of_mem_lines (s := s)
    rw [single]
    exact List.mem_cons_self
  · exact lines_plain

theorem leadLines_eq_singleton {lead s : String} : leadLines lead s = [lead ++ s] ↔ Plain s := by
  rw [← lines_eq_singleton]
  constructor
  · intro single
    obtain ⟨line, cut, led⟩ := List.map_eq_singleton_iff.mp single
    rw [cut, String.append_right_inj lead |>.mp led]
  · intro single
    unfold leadLines
    rw [single]
    rfl

theorem intercalate_leadLines {lead s : String} (fixed : Plain lead) (visible : lead ≠ "") :
    "\n".intercalate (leadLines lead s) = lead ++ s ↔ Plain s := by
  constructor
  · intro same
    -- The first character of the lead is counted: it is added once for each line.
    obtain ⟨c, rest, shape⟩ : ∃ c rest, lead.toList = c :: rest :=
      List.exists_cons_of_ne_nil (by simpa using visible)
    have led : c ∈ lead.toList := shape ▸ List.mem_cons_self
    have feed : c ≠ '\n' := fun wrong => fixed.1 (wrong ▸ led)
    have ret : c ≠ '\r' := fun wrong => fixed.2 (wrong ▸ led)
    have counted := congrArg (occurrences c) same
    unfold leadLines at counted
    rw [occurrences_intercalate, occurrences_feed feed, Nat.mul_zero, Nat.add_zero,
      occurrences_append, occurrences_led, occurrences_lines feed ret] at counted
    have positive := occurrences_pos_iff.mpr led
    have one : (lines s).length = 1 := by
      have product : (lines s).length * occurrences c lead = 1 * occurrences c lead := by omega
      exact Nat.eq_of_mul_eq_mul_right positive product
    obtain ⟨line, cut⟩ := List.length_eq_one_iff.mp one
    unfold leadLines at same
    rw [cut, List.map_singleton, String.intercalate_singleton, String.append_right_inj] at same
    apply plain_of_mem_lines (s := s)
    rw [cut, same]
    exact List.mem_cons_self
  · intro plain
    rw [leadLines_eq_singleton.mpr plain, String.intercalate_singleton]

/-- Main theorem. Cutting into lines takes texts joined by line feeds to their lines, one text after
the other; joining undoes it but for the carriage returns, and no other plain lines come to the same
text. Led lines are lines again, leads add up from the inside out, and where two texts meet, their
last and first line become one. -/
theorem lines_algebra {ts : List String} (filled : ts ≠ []) {lead : String} (fixed : Plain lead)
    (outer s t : String) :
    lines ("\n".intercalate ts) = ts.flatMap lines ∧
      (AllPlain (lines s) ∧ ("\n".intercalate (lines s)).toList = s.toList.filter (· != '\r') ∧
        ∀ ls : List String, ls ≠ [] → AllPlain ls →
          ("\n".intercalate ls).toList = s.toList.filter (· != '\r') → ls = lines s) ∧
      lines ("\n".intercalate (leadLines lead s)) = leadLines lead s ∧
      leadLines outer ("\n".intercalate (leadLines lead s)) = leadLines (outer ++ lead) s ∧
      ∃ front last first rest, lines s = front ++ [last] ∧ lines t = first :: rest ∧
        lines (s ++ t) = front ++ (last ++ first) :: rest := by
  refine ⟨lines_intercalate filled, ⟨fun _ => plain_of_mem_lines, toList_intercalate_lines s, ?_⟩,
    lines_intercalate_leadLines fixed s, leadLines_leadLines fixed outer s, lines_append s t⟩
  intro ls more plain joined
  exact eq_lines_of_joined more plain joined

/-- The theorem at work: texts of which one is empty, a return in the middle of a line and one in
front of its end, under a blank and a tab. -/
theorem lines_algebra_returns :
    (["", "a\rb\r\nc"] : List String) ≠ [] ∧ Plain " \t" ∧
      lines "\na\rb\r\nc" = ["", "ab", "c"] ∧
      lines " \tab\n \tc" = [" \tab", " \tc"] ∧
      leadLines "> " " \tab\n \tc" = [">  \tab", ">  \tc"] := by
  have filled : (["", "a\rb\r\nc"] : List String) ≠ [] := List.cons_ne_nil _ _
  have fixed : Plain " \t" := by decide
  obtain ⟨joined, _, found, nested, _⟩ := lines_algebra filled fixed "> " "a\rb\r\nc" ""
  exact ⟨filled, fixed, joined, found, nested⟩

end TypeScriptGen.Text
