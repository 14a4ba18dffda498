import TypeScriptGen.Proofs.LineBreaks
import TypeScriptGen.Proofs.Spacing

/-!
Names of declarations. Builders accept blank names and leave it to the emission to complain. Main
statement: an emission looks at the name of the outermost declaration only. It gives no code if that
name is blank; otherwise code depends on the stages alone, and every declaration that is shown in it
is introduced by its own line, whatever its name is.
-/

set_option autoImplicit false
set_option relaxedAutoImplicit false

namespace TypeScriptGen

open Rendering Step

def Declaration.Unnamed (d : Declaration) : Prop := d.name.isBlank = .ok true

/-- The second declaration is shown in the first one: it is that one, or it is shown in one of those
nested in it. Only classes and interfaces show what is nested in them. -/
inductive Declaration.Shows : Declaration → Declaration → Prop where
  | self (d : Declaration) : Shows d d
  | nested {d n m : Declaration} (container : d.kind.hasMembers = true)
      (member : .good n ∈ d.nested) (within : Shows n m) : Shows d m

namespace Surface

/-- What stands in front of the name in the line that introduces a declaration. -/
def introduction (d : Surface) : String :=
  modifiers d ++ flag (d.isAbstract && d.kind == .classDecl) "abstract " ++ d.kind.keyword ++ " "

/-- What stands behind the name in the line that introduces a declaration. -/
def continuation (s : Settings) (d : Surface) : String :=
  match d.kind with
  | .classDecl => angleList d.typeParameters ++ clause "extends" d.bases ++
      clause "implements" d.interfaces ++ " \x7b"
  | .interfaceDecl => angleList d.typeParameters ++ clause "extends" d.bases ++ " \x7b"
  | .typeAlias => angleList d.typeParameters ++ " = " ++ d.definition.getD "unknown" ++ s.semicolon
  | .enumDecl | .constEnum => " \x7b"

/-- Among the lines is the one that introduces the declaration at a place, by its name. -/
def IntroducedBy (s : Settings) (place : String) (d : Surface) (ls : List String) : Prop :=
  ∃ name, d.name.toText = .ok name ∧ place ++ d.introduction ++ name ++ d.continuation s ∈ ls

end Surface

namespace Rendering

private theorem toText_of_plainName {v : Value} {name : String} (plain : plainName v = .ok name) :
    v.toText = .ok name := by
  cases v with
  | text t =>
    cases plain
    rfl
  | _ => cases plain

private theorem introduced_classHead {d : Surface} (container : d.kind.hasMembers = true)
    (s : Settings) {place head : String} (headed : classHead place d = .ok head) :
    d.IntroducedBy s place [head] := by
  obtain ⟨name, plain, same⟩ := bind_eq_ok.mp headed
  refine ⟨name, toText_of_plainName plain, List.mem_singleton.mpr ?_⟩
  rw [← Except.ok.inj same]
  unfold Surface.introduction Surface.continuation
  cases kind : d.kind with
  | classDecl => simp [Kind.keyword, String.append_assoc]
  | interfaceDecl => simp [Kind.keyword, String.append_assoc, flag]
  | _ =>
    rw [kind] at container
    cases container

private theorem introduced_aliasLine {d : Surface} (kind : d.kind = .typeAlias)
    {s : Settings} {place line : String} (shown : aliasLine s place d = .ok line) :
    d.IntroducedBy s place [line] := by
  obtain ⟨name, readable, same⟩ := bind_eq_ok.mp shown
  refine ⟨name, readable, List.mem_singleton.mpr ?_⟩
  rw [← Except.ok.inj same]
  unfold Surface.introduction Surface.continuation
  rw [kind]
  simp [Kind.keyword, String.append_assoc, flag]

private theorem introduced_enumLines {d : Surface} (kind : d.kind = .enumDecl ∨ d.kind = .constEnum)
    {s : Settings} {place : String} {ls : List String} (shown : enumLines s place d = .ok ls) :
    d.IntroducedBy s place ls := by
  obtain ⟨inner, _, shown⟩ := bind_eq_ok.mp shown
  obtain ⟨name, readable, shown⟩ := bind_eq_ok.mp shown
  obtain ⟨members, _, same⟩ := bind_eq_ok.mp shown
  refine ⟨name, readable, ?_⟩
  rw [← Except.ok.inj same]
  unfold Surface.introduction Surface.continuation
  rcases kind with kind | kind <;> simp [kind, Kind.keyword, String.append_assoc, flag]

end Rendering

theorem Surface.IntroducedBy.mono {s : Settings} {place : String} {d : Surface}
    {ls ls' : List String} (introduced : d.IntroducedBy s place ls) (among : ls ⊆ ls') :
    d.IntroducedBy s place ls' := by
  obtain ⟨name, readable, member⟩ := introduced
  exact ⟨name, readable, among member⟩

namespace Declaration

theorem introduced_lines {d : Declaration} {s : Settings} {place : String} {ls : List String}
    (shown : d.lines s place = .ok ls) : d.IntroducedBy s place ls := by
  cases container : d.kind.hasMembers with
  | true =>
    obtain ⟨lead, inner, head, cs, _, _, headed, _, rfl⟩ := (lines_eq_ok container).mp shown
    exact (introduced_classHead container s headed).mono (by simp)
  | false =>
    obtain ⟨d, nested⟩ := d
    unfold lines at shown
    obtain ⟨doc, _, shown⟩ := bind_eq_ok.mp shown
    obtain ⟨decorators, _, shown⟩ := bind_eq_ok.mp shown
    cases kind : d.kind with
    | typeAlias =>
      rw [kind] at shown
      obtain ⟨line, rendered, same⟩ := bind_eq_ok.mp shown
      rw [← Except.ok.inj same]
      exact (introduced_aliasLine kind rendered).mono (by simp)
    | enumDecl =>
      rw [kind] at shown
      obtain ⟨own, rendered, same⟩ := bind_eq_ok.mp shown
      rw [← Except.ok.inj same]
      exact (introduced_enumLines (.inl kind) rendered).mono (by simp)
    | constEnum =>
      rw [kind] at shown
      obtain ⟨own, rendered, same⟩ := bind_eq_ok.mp shown
      rw [← Except.ok.inj same]
      exact (introduced_enumLines (.inr kind) rendered).mono (by simp)
    | classDecl => simp [kind, Kind.hasMembers] at container
    | interfaceDecl => simp [kind, Kind.hasMembers] at container

theorem lines_of_shown {d n : Declaration} (shows : d.Shows n) {s : Settings} {place : String}
    {ls : List String} (shown : d.lines s place = .ok ls) :
    ∃ inner own, n.lines s inner = .ok own ∧ own <:+: ls := by
  induction shows generalizing place ls with
  | self d => exact ⟨place, ls, shown, List.infix_rfl⟩
  | nested container member _ ih =>
    obtain ⟨inner, block, _, rendered, part⟩ := lines_of_nested container member shown
    obtain ⟨deeper, own, alone, within⟩ := ih rendered
    exact ⟨deeper, own, alone, within.trans part⟩

end Declaration

namespace Declaration

private theorem lines_of_file {d : Declaration} {s : Settings} {code : String}
    (filed : d.file s = .ok code) : ∃ eol front ls, s.endOfLine = .text eol ∧
      d.lines s "" = .ok ls ∧ code = eol.intercalate (front ++ ls) ++ eol := by
  obtain ⟨ls, shown, joined⟩ := bind_eq_ok.mp filed
  obtain ⟨eol, ended, joined⟩ := bind_eq_ok.mp joined
  obtain ⟨ts, texts, same⟩ := bind_eq_ok.mp joined
  obtain ⟨front, rfl, _⟩ := lineTexts_behind _ _ 0 ts texts
  have text : s.endOfLine = .text eol := by
    unfold Value.asText at ended
    split at ended
    · cases ended
      assumption
    · cases ended
  exact ⟨eol, front, ls, text, shown, (Except.ok.inj same).symm⟩

end Declaration

namespace Emission

/-- Main theorem. An emission of a declaration without a name gives no code and one error. In all
other cases blank names do not matter: there is no code exactly if a stage has failed, and stages do
not fail for names. So blank names keep code back just where a stage fails anyway, or where all
names are filled in. Unless it is formatted, the code has the lines of all declarations that are
shown, each of them introduced by its name, which may be blank. -/
theorem emit_names {d : Declaration} {o : EmitOptions} {name : String}
    (readable : d.name.toText = .ok name) (h : Host) :
    (d.Unnamed → ∃ h', (emit (.good d) (.good o)).on h =
      (.ok { code := .none, diagnostics := [⟨.error, nameRequired⟩] }, h')) ∧
    (ReportsFindings o → ∃ r h', (emit (.good d) (.good o)).on h = (.ok r, h') ∧
      (r.code = .none ↔ Fails d o.settings (course d o h)) ∧
      (((∃ n, d.Shows n ∧ n.Unnamed) → r.code = .none) ↔
        Fails d o.settings (course d o h) ∨ ∀ n, d.Shows n → ¬ n.Unnamed) ∧
      (d.Typed → o.settings.indentation.IsText → o.settings.header.IsOptionalText →
        o.settings.endOfLine.IsText → o.settings.formatOutput.holds = false →
        o.settings.level = .unchecked → (Fails d o.settings (course d o h) ↔ d.Unnamed)) ∧
      (o.settings.formatOutput.holds = false → ∀ code, r.code = .text code →
        ∃ eol front ls, o.settings.endOfLine = .text eol ∧ d.lines o.settings "" = .ok ls ∧
          code = eol.intercalate (front ++ ls) ++ eol ∧ ∀ n, d.Shows n →
            ∃ place own, n.lines o.settings place = .ok own ∧ own <:+: ls ∧
              n.IntroducedBy o.settings place own)) := by
  refine ⟨fun unnamed => ⟨_, emit_unnamed readable unnamed o h⟩, fun reports => ?_⟩
  obtain ⟨r, h', emitted, _, told⟩ := emit_cases readable reports h
  have failed : r.code = .none ↔ Fails d o.settings (course d o h) := by
    rcases told with ⟨passed, text, _, rfl⟩ | ⟨fails, words, rfl⟩
    · simp [passed]
    · simp [fails]
  refine ⟨r, h', emitted, failed, ?_,
    fun typed indented headed ended unformatted unchecked => ?_,
    fun unformatted code coded => ?_⟩
  · rw [failed]
    constructor
    · intro kept
      by_cases blank : ∃ n, d.Shows n ∧ n.Unnamed
      · exact .inl (kept blank)
      · exact .inr fun n shows unnamed => blank ⟨n, shows, unnamed⟩
    · rintro (fails | filled) ⟨n, shows, unnamed⟩
      · exact fails
      · exact absurd unnamed (filled n shows)
  · obtain ⟨code, filed⟩ := typed.succeeds_file indented headed ended
    rw [fails_plain unformatted unchecked, filed]
    simp [Declaration.Unnamed]
  · have filed := file_of_code unformatted emitted coded
    obtain ⟨eol, front, ls, ended, shown, same⟩ := Declaration.lines_of_file filed
    refine ⟨eol, front, ls, ended, shown, same, fun n shows => ?_⟩
    obtain ⟨place, own, alone, part⟩ := Declaration.lines_of_shown shows shown
    exact ⟨place, own, alone, part, Declaration.introduced_lines alone⟩

/-- A class with an interface in it whose name is empty. -/
def outer : Declaration where
  name := "Outer"
  nested := [.good (.ofKind .interfaceDecl "")]

/-- The theorem at work: the class has a name, so the emission gives code. -/
theorem emit_names_outer :
    ∃ (o : EmitOptions) (h h' : Host) (r : EmitResult), outer.Typed ∧
      (∃ n, outer.Shows n ∧ n.Unnamed) ∧ (emit (.good outer) (.good o)).on h = (.ok r, h') ∧
      r.code ≠ .none := by
  let o : EmitOptions := { settings := { header := .none } }
  let h : Host := { respond := fun _ _ => .exited 0 "" "" }
  have inner : (Declaration.ofKind .interfaceDecl "").Typed :=
    @Declaration.typed_fresh .interfaceDecl "" [] (List.forall_mem_nil _)
  have typed : outer.Typed :=
    @Declaration.typed_fresh .classDecl "Outer" [_] (List.forall_mem_singleton.mpr inner)
  obtain ⟨_, named⟩ := emit_names (d := outer) (o := o) rfl h
  obtain ⟨r, h', emitted, failed, _, plain, _⟩ := named (reports_unchecked rfl)
  have unfailed : ¬ Fails outer o.settings (course outer o h) := by
    rw [plain typed ⟨_, rfl⟩ (.inl rfl) ⟨_, rfl⟩ rfl rfl]
    intro unnamed
    cases unnamed
  have shows : outer.Shows (.ofKind .interfaceDecl "") :=
    .nested rfl List.mem_cons_self (.self _)
  exact ⟨o, h, h', r, typed, ⟨_, shows, rfl⟩, emitted, fun empty => unfailed (failed.mp empty)⟩

/-- A declaration without a name is emitted. -/
theorem emit_outer :
    (∃ n, outer.Shows n ∧ n.Unnamed) ∧ ∀ h, ∃ h',
      (emit (.good outer) (.good { settings := { header := .none } })).on h =
        (.ok {
          code := "class Outer \x7b\n  interface  \x7b\n  \x7d\n\x7d\n"
          diagnostics := [] }, h') :=
  ⟨⟨_, .nested rfl List.mem_cons_self (.self _), rfl⟩, fun _ => ⟨_, rfl⟩⟩

end Emission

end TypeScriptGen
