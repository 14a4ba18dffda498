import TypeScriptGen.Proofs.Naming

/-!
Documentation comments. The text of a documentation is cut into lines, each behind a lead, and
nothing else is done to it; so a text that closes a block comment closes its own. Main statement:
wherever a declaration is shown, its comment is closed as often as the text closes one after its
carriage returns are dropped, and once more at the very end. The whole text is inside the comment
exactly if it does not close one.
-/

set_option autoImplicit false
set_option relaxedAutoImplicit false

namespace TypeScriptGen

namespace Text

/-- The number of places at which a block comment is closed. -/
def commentEnds : List Char → Nat
  | [] => 0
  | c :: rest => (if c = '*' ∧ rest.head? = some '/' then 1 else 0) + commentEnds rest

/-- What stands behind the first place at which a block comment is closed. -/
def behindComment : List Char → Option (List Char)
  | [] => none
  | c :: rest => if c = '*' ∧ rest.head? = some '/' then some rest.tail else behindComment rest

def withoutReturns (s : String) : String := String.ofList (s.toList.filter (· != '\r'))

/-- A line end that never closes a comment, whatever stands on its sides. -/
def Neutral (eol : String) : Prop := commentEnds ("*" ++ eol ++ "/").toList = 0

instance (eol : String) : Decidable (Neutral eol) := inferInstanceAs (Decidable (_ = _))

theorem commentEnds_cons (c : Char) (rest : List Char) : commentEnds (c :: rest) =
    (if c = '*' ∧ rest.head? = some '/' then 1 else 0) + commentEnds rest := rfl

/-! Where two texts meet, a comment is closed if the halves of the mark come together. -/

theorem commentEnds_append (cs ds : List Char) : commentEnds (cs ++ ds) = commentEnds cs +
    (if cs.getLast? = some '*' ∧ ds.head? = some '/' then 1 else 0) + commentEnds ds := by
  induction cs with
  | nil => simp [commentEnds]
  | cons c rest ih =>
    cases rest with
    | nil => simp [commentEnds]
    | cons next rest =>
      have front : (next :: rest ++ ds).head? = (next :: rest).head? := rfl
      rw [List.cons_append, commentEnds_cons, front, ih, commentEnds_cons c,
        List.getLast?_cons_cons, Nat.add_assoc, Nat.add_assoc, Nat.add_assoc]

theorem commentEnds_apart {cs ds : List Char}
    (other : cs.getLast? ≠ some '*' ∨ ds.head? ≠ some '/') :
    commentEnds (cs ++ ds) = commentEnds cs + commentEnds ds := by
  have separate : ¬ (cs.getLast? = some '*' ∧ ds.head? = some '/') := by
    rintro ⟨star, slash⟩
    rcases other with other | other
    · exact other star
    · exact other slash
  rw [commentEnds_append, if_neg separate, Nat.add_zero]

theorem commentEnds_neutral {eol : String} (neutral : Neutral eol) (cs ds : List Char) :
    commentEnds (cs ++ eol.toList ++ ds) = commentEnds cs + commentEnds ds := by
  unfold Neutral at neutral
  rw [String.toList_append, String.toList_append] at neutral
  cases shape : eol.toList with
  | nil =>
    rw [shape] at neutral
    cases neutral
  | cons first rest =>
    rw [shape] at neutral
    change commentEnds (['*'] ++ (first :: rest) ++ ['/']) = 0 at neutral
    rw [List.append_assoc, commentEnds_append, commentEnds_append] at neutral
    have front : first ≠ '/' := by
      rintro rfl
      simp [commentEnds] at neutral
    have back : (first :: rest).getLast? ≠ some '*' := by
      intro star
      simp [star] at neutral
    have zero : commentEnds (first :: rest) = 0 := by omega
    have ended : (cs ++ first :: rest).getLast? = (first :: rest).getLast? := by
      rw [List.getLast?_append_of_ne_nil _ (List.cons_ne_nil first rest)]
    have begun : (first :: rest).head? ≠ some '/' := by
      rw [List.head?_cons]
      exact fun slash => front (Option.some.inj slash)
    rw [commentEnds_apart (.inl (ended ▸ back)), commentEnds_apart (.inr begun), zero, Nat.add_zero]

theorem commentEnds_intercalate {eol : String} (neutral : Neutral eol) (ls : List String) :
    commentEnds (eol.intercalate ls).toList = (ls.map fun l => commentEnds l.toList).sum := by
  induction ls with
  | nil => rfl
  | cons l rest ih =>
    cases rest with
    | nil => simp
    | cons next rest =>
      rw [String.intercalate_cons_cons, String.toList_append, String.toList_append,
        commentEnds_neutral neutral, ih]
      rfl

theorem commentEnds_withoutReturns (s : String) :
    commentEnds (withoutReturns s).toList =
      ((lines s).map fun l => commentEnds l.toList).sum := by
  have feed : Neutral "\n" := by decide
  rw [← commentEnds_intercalate feed, toList_intercalate_lines]
  unfold withoutReturns
  rw [String.toList_ofList]

/-! What is read behind a comment. -/

theorem behindComment_eq_some {cs rest : List Char} (read : behindComment cs = some rest) :
    ∃ front, cs = front ++ ['*', '/'] ++ rest ∧ commentEnds cs = 1 + commentEnds rest := by
  induction cs with
  | nil => cases read
  | cons c cs ih =>
    unfold behindComment at read
    by_cases closes : c = '*' ∧ cs.head? = some '/'
    · rw [if_pos closes] at read
      obtain ⟨rfl, slash⟩ := closes
      cases cs with
      | nil => cases slash
      | cons d cs =>
        cases slash
        cases read
        exact ⟨[], rfl, by simp [commentEnds]⟩
    · rw [if_neg closes] at read
      obtain ⟨front, same, counted⟩ := ih read
      refine ⟨c :: front, by rw [same]; rfl, ?_⟩
      rw [commentEnds, if_neg closes, counted, Nat.zero_add]

theorem behindComment_isSome {cs : List Char} (closed : commentEnds cs ≠ 0) :
    ∃ rest, behindComment cs = some rest := by
  induction cs with
  | nil => exact absurd rfl closed
  | cons c cs ih =>
    unfold behindComment
    by_cases closes : c = '*' ∧ cs.head? = some '/'
    · rw [if_pos closes]
      exact ⟨_, rfl⟩
    · rw [commentEnds, if_neg closes, Nat.zero_add] at closed
      rw [if_neg closes]
      exact ih closed

theorem behindComment_eq_nil_iff {front : List Char} :
    behindComment (front ++ ['*', '/']) = some [] ↔ commentEnds (front ++ ['*', '/']) = 1 := by
  have closed : commentEnds (front ++ ['*', '/']) ≠ 0 := by
    rw [commentEnds_apart (.inr (by decide))]
    have mark : commentEnds ['*', '/'] = 1 := rfl
    omega
  obtain ⟨rest, read⟩ := behindComment_isSome closed
  obtain ⟨before, same, counted⟩ := behindComment_eq_some read
  rw [read, counted, Option.some_inj]
  constructor
  · rintro rfl
    rfl
  · intro once
    have quiet : commentEnds rest = 0 := by omega
    -- The whole text ends with the mark, and the rest would do so too.
    rcases List.append_eq_append_iff.mp same with ⟨between, early, late⟩ | ⟨between, _, late⟩
    · cases between with
      | nil =>
        rw [List.nil_append] at late
        rw [← late] at quiet
        cases quiet
      | cons c between =>
        have later : ['/'] = between ++ rest := (List.cons.inj late).2
        cases between with
        | nil =>
          have last := congrArg List.getLast? early
          rw [(List.cons.inj late).1.symm] at last
          simp at last
        | cons d between =>
          have tail : [] = between ++ rest := (List.cons.inj later).2
          exact (List.append_eq_nil_iff.mp tail.symm).2
    · rw [late, commentEnds_apart (.inr (by decide))] at quiet
      have mark : commentEnds ['*', '/'] = 1 := rfl
      omega

/-! The lines of a documentation comment, behind an indent. -/

section Led

variable (place d : String)

theorem commentEnds_opening :
    commentEnds (place ++ "/**").toList = commentEnds (place ++ "/").toList := by
  have cut : place ++ "/**" = place ++ "/" ++ "**" := by
    rw [String.append_assoc]
    rfl
  rw [cut, String.toList_append, commentEnds_apart (.inr (by decide))]
  rfl

theorem commentEnds_led : commentEnds (place ++ " * " ++ d).toList =
    commentEnds place.toList + commentEnds d.toList := by
  have apart : (place ++ " * ").toList.getLast? ≠ some '*' := by
    rw [String.toList_append]
    simp
  rw [String.toList_append, commentEnds_apart (.inl apart), String.toList_append,
    commentEnds_apart (.inr (by decide))]
  rfl

theorem commentEnds_closing :
    commentEnds (place ++ " */").toList = commentEnds place.toList + 1 := by
  rw [String.toList_append, commentEnds_apart (.inr (by decide))]
  rfl

theorem commentEnds_of_open {place : String} (apart : commentEnds (place ++ "/").toList = 0) :
    commentEnds place.toList = 0 := by
  rw [String.toList_append, commentEnds_append] at apart
  omega

end Led

/-- A text as a comment of its own: its lines behind stars, between the marks. -/
def blockComment (place doc : String) : List String :=
  [place ++ "/**"] ++ leadLines (place ++ " * ") doc ++ [place ++ " */"]

section Comment

variable {eol : String} (place doc : String)

theorem commentEnds_blockComment (neutral : Neutral eol) :
    commentEnds (eol.intercalate (blockComment place doc)).toList =
      commentEnds (place ++ "/").toList + ((lines doc).length + 1) * commentEnds place.toList +
        commentEnds (withoutReturns doc).toList + 1 := by
  have inside : ((leadLines (place ++ " * ") doc).map fun l => commentEnds l.toList).sum =
      (lines doc).length * commentEnds place.toList +
        commentEnds (withoutReturns doc).toList := by
    rw [commentEnds_withoutReturns]
    unfold leadLines
    induction lines doc with
    | nil => simp
    | cons l rest ih =>
      rw [List.map_cons, List.map_cons, List.sum_cons, ih, commentEnds_led, List.length_cons,
        List.map_cons, List.sum_cons, Nat.add_one_mul]
      omega
  unfold blockComment
  rw [commentEnds_intercalate neutral, List.map_append, List.map_append, List.sum_append,
    List.sum_append, inside, List.map_singleton, List.map_singleton, List.sum_singleton,
    List.sum_singleton, commentEnds_opening, commentEnds_closing, Nat.add_one_mul]
  omega

theorem blockComment_opens (eol : String) :
    ∃ rest, eol.intercalate (blockComment place doc) = place ++ "/**" ++ rest := by
  obtain ⟨next, others, shape⟩ : ∃ next others,
      leadLines (place ++ " * ") doc ++ [place ++ " */"] = next :: others :=
    List.exists_cons_of_ne_nil (by simp)
  unfold blockComment
  rw [List.append_assoc, shape, List.singleton_append, String.intercalate_cons_cons,
    String.append_assoc]
  exact ⟨_, rfl⟩

theorem blockComment_closes (eol : String) :
    ∃ front, eol.intercalate (blockComment place doc) = front ++ "*/" := by
  obtain ⟨before, same⟩ :=
    intercalate_concat eol ([place ++ "/**"] ++ leadLines (place ++ " * ") doc) (place ++ " */")
  have mark : place ++ " */" = place ++ " " ++ "*/" := by
    rw [String.append_assoc]
    rfl
  refine ⟨before ++ (place ++ " "), ?_⟩
  unfold blockComment
  rw [same, mark]
  exact String.append_assoc.symm

/-- The text is one block comment behind an indent: it begins with the opening mark and ends with
the closing mark, which stands nowhere else. -/
structure Enclosed (indent text : String) : Prop where
  opens : ∃ rest, text = indent ++ "/**" ++ rest
  closes : ∃ front, text = front ++ "*/"
  once : commentEnds text.toList = 1

variable {place doc}

theorem enclosed_blockComment_iff (neutral : Neutral eol) :
    Enclosed place (eol.intercalate (blockComment place doc)) ↔
      commentEnds (place ++ "/").toList = 0 ∧ commentEnds (withoutReturns doc).toList = 0 := by
  have counted := commentEnds_blockComment place doc neutral
  constructor
  · intro enclosed
    rw [enclosed.once] at counted
    refine ⟨?_, ?_⟩ <;> omega
  · rintro ⟨apart, quiet⟩
    rw [apart, quiet, commentEnds_of_open apart] at counted
    exact ⟨blockComment_opens place doc eol, blockComment_closes place doc eol, by omega⟩

theorem behind_blockComment_iff (neutral : Neutral eol)
    (apart : commentEnds (place ++ "/").toList = 0) :
    behindComment (eol.intercalate (blockComment place doc)).toList = some [] ↔
      commentEnds (withoutReturns doc).toList = 0 := by
  have counted := commentEnds_blockComment place doc neutral
  rw [apart, commentEnds_of_open apart] at counted
  obtain ⟨front, same⟩ := blockComment_closes place doc eol
  rw [same, String.toList_append] at counted ⊢
  rw [show "*/".toList = ['*', '/'] from rfl] at counted ⊢
  rw [behindComment_eq_nil_iff]
  omega

end Comment

end Text

open Text

namespace Rendering

theorem docLines_text (place doc : String) :
    docLines place (.text doc) = .ok (blockComment place doc) := rfl

end Rendering

namespace Declaration

open Rendering Step

theorem lines_documented {d : Declaration} {s : Settings} {place : String} {ls : List String}
    (shown : d.lines s place = .ok ls) :
    ∃ doc rest, docLines place d.doc = .ok doc ∧ ls = doc ++ rest := by
  obtain ⟨d, nested⟩ := d
  unfold lines at shown
  obtain ⟨doc, documented, shown⟩ := bind_eq_ok.mp shown
  obtain ⟨decorators, _, shown⟩ := bind_eq_ok.mp shown
  refine ⟨doc, ?_⟩
  cases kind : d.kind with
  | typeAlias =>
    rw [kind] at shown
    obtain ⟨line, _, same⟩ := bind_eq_ok.mp shown
    rw [← Except.ok.inj same, List.append_assoc]
    exact ⟨_, documented, rfl⟩
  | enumDecl | constEnum =>
    rw [kind] at shown
    obtain ⟨own, _, same⟩ := bind_eq_ok.mp shown
    rw [← Except.ok.inj same, List.append_assoc]
    exact ⟨_, documented, rfl⟩
  | classDecl | interfaceDecl =>
    rw [kind] at shown
    obtain ⟨inner, _, shown⟩ := bind_eq_ok.mp shown
    obtain ⟨head, _, shown⟩ := bind_eq_ok.mp shown
    obtain ⟨members, _, shown⟩ := bind_eq_ok.mp shown
    obtain ⟨inside, _, same⟩ := bind_eq_ok.mp shown
    rw [← Except.ok.inj same, List.append_assoc, List.append_assoc, List.append_assoc]
    exact ⟨_, documented, rfl⟩

theorem lines_of_shown_deep {d n : Declaration} (shows : d.Shows n) {s : Settings} {unit : String}
    (indented : s.indentation = .text unit) {place : String} {ls : List String}
    (shown : d.lines s place = .ok ls) : ∃ depth own,
      n.lines s (place ++ String.join (List.replicate depth unit)) = .ok own ∧ own <:+: ls := by
  induction shows generalizing place ls with
  | self d => exact ⟨0, ls, by simpa using shown, List.infix_rfl⟩
  | nested container member _ ih =>
    obtain ⟨inner, block, deeper, rendered, part⟩ := lines_of_nested container member shown
    rw [deeper_eq indented deeper] at rendered
    obtain ⟨depth, own, alone, within⟩ := ih rendered
    refine ⟨depth + 1, own, ?_, within.trans part⟩
    rw [List.replicate_succ, String.join_cons, ← String.append_assoc]
    exact alone

/-- Main theorem. Wherever a declaration with a documentation is shown, its lines begin with a
comment behind its indent: the opening mark, the lines of the text, each led by a star, and the
closing mark. A comment is closed in it at the very end, and besides wherever the text closes one
once its carriage returns are dropped, or the indent does. So the text is enclosed, with nothing
left behind the comment, exactly if it does not close one; nothing in the rendering keeps it from
doing so. -/
theorem doc_enclosed {d n : Declaration} (shows : d.Shows n) {doc : String}
    (documented : n.doc = .text doc) {s : Settings} {unit : String}
    (indented : s.indentation = .text unit) {eol : String} (neutral : Neutral eol)
    (indent : String) :
    (d.Typed → Succeeds (d.lines s indent)) ∧ ∀ ls, d.lines s indent = .ok ls →
      ∃ depth place rest, place = indent ++ String.join (List.replicate depth unit) ∧
        n.lines s place = .ok (blockComment place doc ++ rest) ∧
        blockComment place doc ++ rest <:+: ls ∧
        (∃ later, eol.intercalate (blockComment place doc) = place ++ "/**" ++ later) ∧
        (∃ front, eol.intercalate (blockComment place doc) = front ++ "*/") ∧
        commentEnds (eol.intercalate (blockComment place doc)).toList =
          commentEnds (place ++ "/").toList +
            ((Text.lines doc).length + 1) * commentEnds place.toList +
            commentEnds (withoutReturns doc).toList + 1 ∧
        (Enclosed place (eol.intercalate (blockComment place doc)) ↔
          commentEnds (place ++ "/").toList = 0 ∧
            commentEnds (withoutReturns doc).toList = 0) ∧
        (commentEnds (place ++ "/").toList = 0 →
          (behindComment (eol.intercalate (blockComment place doc)).toList = some [] ↔
            commentEnds (withoutReturns doc).toList = 0)) := by
  refine ⟨fun typed => typed.succeeds_lines ⟨unit, indented⟩ indent, fun ls shown => ?_⟩
  obtain ⟨depth, own, alone, part⟩ := lines_of_shown_deep shows indented shown
  obtain ⟨comment, rest, given, rfl⟩ := lines_documented alone
  rw [documented, docLines_text] at given
  cases given
  exact ⟨depth, _, rest, rfl, alone, part, blockComment_opens _ doc eol,
    blockComment_closes _ doc eol, commentEnds_blockComment _ doc neutral,
    enclosed_blockComment_iff neutral, behind_blockComment_iff neutral⟩

example : commentEnds "*\r/".toList = 0 ∧ commentEnds (withoutReturns "*\r/").toList = 1 := by
  decide

/-- An interface whose documentation closes a comment once its carriage return is dropped. -/
def rack : Declaration :=
  let fresh := Declaration.ofKind .interfaceDecl "Rack"
  { fresh with doc := "Up to *\r/ four shelves." }

def store : Declaration where
  name := "Store"
  nested := [.good rack]

/-- The theorem at work: the halves of the mark meet in the comment of the interface, so that it
does not enclose its text. -/
theorem doc_enclosed_rack :
    ∃ ls place rest, store.lines {} "" = .ok ls ∧
      rack.lines {} place = .ok (blockComment place "Up to *\r/ four shelves." ++ rest) ∧
      blockComment place "Up to *\r/ four shelves." ++ rest <:+: ls ∧
      ¬ Enclosed place ("\r\n".intercalate (blockComment place "Up to *\r/ four shelves.")) := by
  have shows : store.Shows rack := .nested rfl List.mem_cons_self (.self rack)
  obtain ⟨_, told⟩ := doc_enclosed (s := {}) shows rfl rfl (by decide : Neutral "\r\n") ""
  obtain ⟨ls, shown⟩ : ∃ ls, store.lines {} "" = .ok ls := ⟨_, rfl⟩
  obtain ⟨_, place, rest, _, alone, part, _, _, _, enclosed, _⟩ := told ls shown
  refine ⟨ls, place, rest, shown, alone, part, fun whole => ?_⟩
  have quiet := (enclosed.mp whole).2
  revert quiet
  decide

/-- A class whose documentation has a pattern in it that closes a comment. -/
def glob : Declaration where
  name := "Glob"
  doc := "Matches src/**/*.ts."

/-- The second half of the pattern is read as code. -/
theorem glob_file :
    glob.file { header := .none } =
      .ok "/**\n * Matches src/**/*.ts.\n */\nclass Glob \x7b\n\x7d\n" ∧
    glob.lines {} "" =
      .ok (blockComment "" "Matches src/**/*.ts." ++ ["class Glob \x7b", "\x7d"]) ∧
    ¬ Enclosed "" ("\n".intercalate (blockComment "" "Matches src/**/*.ts.")) ∧
    behindComment ("\n".intercalate (blockComment "" "Matches src/**/*.ts.")).toList =
      some "*.ts.\n */".toList := by
  refine ⟨rfl, rfl, fun whole => ?_, by decide⟩
  have once := whole.once
  revert once
  decide

end Declaration

end TypeScriptGen
