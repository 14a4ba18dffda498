import TypeScriptGen.Emission
import TypeScriptGen.Proofs.HostRuns
import TypeScriptGen.Proofs.Typed

/-!
The stages of an emission: rendering, formatting and checking, each of which may be left out, give a
text or a list of findings, or fail. Main statement: an emission never fails itself, calls each
collaborator at most once and in this order, hands on the very text that it returns, and reports
exactly what its stages came to.
-/

set_option autoImplicit false
set_option relaxedAutoImplicit false

namespace TypeScriptGen

def Event.isCall : Event → Bool
  | .checked _ => true
  | .formatted _ => true
  | _ => false

def Host.calls (h : Host) : List Event := h.events.filter Event.isCall

/-- Whatever else the run does, it records no call. -/
def Run.Quiet {α : Type} (x : Run α) : Prop := ∀ h, (x.on h).2.calls = h.calls

/-- Collaborators that take the place of the usual ones. They do what they like, short of recording
calls. -/
structure Collaborators where
  format : CodeFormatter
  check : Checker
  formatQuiet : ∀ code s, (format code s).Quiet
  checkQuiet : ∀ source, (check source).Quiet

namespace Collaborators

def formatter (c : Collaborators) : CodeFormatter := fun code s => do
  Run.record (.formatted code)
  c.format code s

def checker (c : Collaborators) : Checker := fun source => do
  Run.record (.checked source)
  c.check source

/-- Every collaborator that the options ask for is one of these. -/
structure Serve (c : Collaborators) (o : EmitOptions) : Prop where
  formatter : o.settings.formatOutput.holds = true → o.formatter = some (.good c.formatter)
  checker : o.settings.level = .compiled → o.checker = some (.good c.checker)

end Collaborators

/-- A stage without an input is left out; otherwise it runs once, on the input. -/
def Run.stage {α : Type} (call : String → Run α) :
    Option String → Host → Option (Except Fault α) × Host
  | none, h => (none, h)
  | some input, h => (some ((call input).on h).1, ((call input).on h).2)

def Supplied.IsFinding : Supplied Diagnostic → Prop
  | .good _ => True
  | .stray v => v.IsText

/-- A finding as a diagnostic; a text is read as a tagged one. -/
def Diagnostic.ofFinding : Supplied Diagnostic → Diagnostic
  | .good d => d
  | .stray v => .ofText v.textOf

namespace Emission

/-- The course of an emission: what the formatter and the checker are called with, if they are, what
comes of it, the text that is handed on, and the host after it. -/
structure Course where
  formatterInput : Option String
  formatted : Option (Except Fault String)
  text : Option String
  checkerInput : Option String
  checked : Option (Except Fault (List (Supplied Diagnostic)))
  host : Host

def formatting (o : EmitOptions) (code : String) : Run String := do
  (← Run.lift (formatterOf o)) code (.good o.settings)

def checking (o : EmitOptions) (code : String) : Run (List (Supplied Diagnostic)) := do
  (← checkerOf o) (.text code)

def rendered? (d : Declaration) (s : Settings) : Option String :=
  match d.name.isBlank with
  | .ok false => (d.file s).toOption
  | _ => none

def begun (d : Declaration) (h : Host) : Host :=
  ((logger.emitStart d.name (.text d.kind.keyword)).on h).2

def course (d : Declaration) (o : EmitOptions) (h : Host) : Course :=
  let rendered := rendered? d o.settings
  let formatterInput := if o.settings.formatOutput.holds then rendered else none
  let (formatted, between) := Run.stage (formatting o) formatterInput (begun d h)
  let text := formatted.elim rendered Except.toOption
  let checkerInput := if o.settings.level = .compiled then text else none
  let (checked, host) := Run.stage (checking o) checkerInput between
  { formatterInput, formatted, text, checkerInput, checked, host }

/-- What the checker found, nothing if it was not called. -/
def Course.findings (c : Course) : List (Supplied Diagnostic) :=
  match c.checked with
  | some (.ok findings) => findings
  | _ => []

/-- The calls that the course makes: the formatter comes first. -/
def Course.calls (c : Course) : List Event :=
  c.formatterInput.toList.map .formatted ++ c.checkerInput.toList.map fun s => .checked (.text s)

/-- Something has gone wrong: there is no name, or a stage has failed. -/
def Fails (d : Declaration) (s : Settings) (c : Course) : Prop :=
  d.name.isBlank = .ok true ∨ (∃ fault, d.file s = .error fault) ∨
    (∃ fault, c.formatted = some (.error fault)) ∨ ∃ fault, c.checked = some (.error fault)

/-- The checker, if it is asked for, reports diagnostics and texts only. -/
def ReportsFindings (o : EmitOptions) : Prop :=
  o.settings.level = .compiled → ∀ code h findings h',
    (checking o code).on h = (.ok findings, h') → ∀ f ∈ findings, f.IsFinding

/-- The result of an emission between two hosts tells what became of its stages. -/
structure Faithful (d : Declaration) (o : EmitOptions) (h h' : Host) (r : EmitResult) : Prop where
  formatter : ∀ code, (course d o h).formatterInput = some code ↔
    d.name.isBlank = .ok false ∧ d.file o.settings = .ok code ∧
      o.settings.formatOutput.holds = true
  text : ∀ code, (course d o h).text = some code ↔
    d.name.isBlank = .ok false ∧
      if o.settings.formatOutput.holds then (course d o h).formatted = some (.ok code)
      else d.file o.settings = .ok code
  /-- The checker is called on the text that is handed on, exactly when that is asked for. -/
  checker : ∀ code, (course d o h).checkerInput = some code ↔
    o.settings.level = .compiled ∧ (course d o h).text = some code
  calls : ∀ c : Collaborators, c.Serve o → h'.calls = h.calls ++ (course d o h).calls
  failed : r.code = .none ↔ Fails d o.settings (course d o h)
  failure : r.code = .none → ∃ words, r.diagnostics = [⟨.error, .text words⟩]
  returned : r.code ≠ .none → ∃ code, r.code = .text code ∧ (course d o h).text = some code ∧
    r.diagnostics = (course d o h).findings.map .ofFinding
  /-- Both ways through the gate open to the same results. -/
  gate : ∀ message v, r.confirm message = .ok v ↔ r.confirm? = some v
  confirmed : (∃ v, r.confirm? = some v) ↔
    r.code ≠ .none ∧ ∀ x ∈ r.diagnostics, x.isError = false
  kept : ∀ v, r.confirm? = some v → v.code = r.code

end Emission

@[simp] theorem Host.calls_logged (h : Host) (severity : LogSeverity) (logger message : String) :
    (h.logged severity logger message).calls = h.calls := by
  unfold Host.logged
  split
  · simp [Host.calls, Event.isCall]
  · rfl

namespace Emission

private theorem emitStart_on (l : EmitLogger) {name : Value} {shown : String}
    (readable : name.toText = .ok shown) (word : String) (h : Host) :
    (l.emitStart name (.text word)).on h =
      (.ok (), h.logged .debug l.name ("Emitting " ++ word ++ " '" ++ shown ++ "'")) := by
  unfold EmitLogger.emitStart
  rw [readable]
  rfl

private theorem emitFailure_on (l : EmitLogger) {name : Value} {shown : String}
    (readable : name.toText = .ok shown) (reason : String) (h : Host) :
    (l.emitFailure name (.text reason)).on h =
      (.ok (), h.logged .warning l.name ("Emit failed for '" ++ shown ++ "': " ++ reason)) := by
  unfold EmitLogger.emitFailure
  rw [readable]
  rfl

/-! The stages of an attempt. -/

private theorem produce_on (d : Declaration) (o : EmitOptions) {code : String}
    (rendered : d.file o.settings = .ok code) (h : Host) :
    (produce d o).on h =
      let stage := Run.stage (formatting o)
        (if o.settings.formatOutput.holds then some code else none) h
      (stage.1.getD (.ok code), stage.2) := by
  unfold produce
  rw [rendered, Run.on_bind_ok (Run.on_lift_ok ..)]
  cases o.settings.formatOutput.holds <;> rfl

private theorem review_on (o : EmitOptions) (code : String) (h : Host) :
    (review o code).on h =
      let stage := Run.stage (checking o)
        (if o.settings.level = .compiled then some code else none) h
      (stage.1.getD (.ok []), stage.2) := by
  unfold review
  cases o.settings.level <;> rfl

private theorem attempt_eq (d : Declaration) (o : EmitOptions) :
    attempt d (.good o) = produce d o >>= fun code => review o code >>= fun findings =>
      pure (code, findings) := rfl

private theorem course_eq {d : Declaration} {o : EmitOptions} {h h₁ h₂ : Host}
    {formatted : Option (Except Fault String)}
    {checked : Option (Except Fault (List (Supplied Diagnostic)))}
    (first : Run.stage (formatting o)
      (if o.settings.formatOutput.holds then rendered? d o.settings else none) (begun d h) =
        (formatted, h₁))
    (second : Run.stage (checking o)
      (if o.settings.level = .compiled then
        formatted.elim (rendered? d o.settings) Except.toOption else none) h₁ = (checked, h₂)) :
    course d o h =
      ⟨if o.settings.formatOutput.holds then rendered? d o.settings else none, formatted,
        formatted.elim (rendered? d o.settings) Except.toOption,
        if o.settings.level = .compiled then
          formatted.elim (rendered? d o.settings) Except.toOption else none, checked, h₂⟩ := by
  unfold course
  dsimp only
  rw [first]
  dsimp only
  rw [second]

private theorem course_unrendered {d : Declaration} {o : EmitOptions}
    (unrendered : rendered? d o.settings = none) (h : Host) :
    course d o h = ⟨none, none, none, none, none, begun d h⟩ := by
  have first : Run.stage (formatting o)
      (if o.settings.formatOutput.holds then rendered? d o.settings else none) (begun d h) =
        (none, begun d h) := by
    rw [unrendered, ite_self]
    rfl
  have second : Run.stage (checking o) (if o.settings.level = .compiled then
      (none : Option (Except Fault String)).elim (rendered? d o.settings) Except.toOption
      else none) (begun d h) = (none, begun d h) := by
    simp [unrendered, Run.stage]
  rw [course_eq first second]
  simp [unrendered]

private theorem review_cases {d : Declaration} {o : EmitOptions} {c : Course} {text : String}
    {h₁ : Host} (handed : c.text = some text) (unfailed : d.name.isBlank = .ok false)
    (rendered : ∀ fault, d.file o.settings ≠ .error fault)
    (formatted : ∀ fault, c.formatted ≠ some (.error fault))
    (second : Run.stage (checking o) (if o.settings.level = .compiled then some text else none) h₁ =
      (c.checked, c.host)) :
    ∃ outcome, (review o text >>= fun findings => pure (text, findings)).on h₁ =
        (outcome, c.host) ∧
      match outcome with
      | .error _ => Fails d o.settings c
      | .ok (text, findings) =>
        ¬ Fails d o.settings c ∧ c.text = some text ∧ c.findings = findings := by
  have reviewed := review_on o text h₁
  rw [second] at reviewed
  dsimp only at reviewed
  have passed : (∀ fault, c.checked ≠ some (.error fault)) → ¬ Fails d o.settings c := by
    rintro checked (blank | ⟨fault, wrong⟩ | ⟨fault, wrong⟩ | ⟨fault, wrong⟩)
    · rw [unfailed] at blank
      cases blank
    · exact rendered fault wrong
    · exact formatted fault wrong
    · exact checked fault wrong
  rcases checked : c.checked with _ | fault | findings
  · rw [checked] at reviewed
    refine ⟨.ok (text, []), Run.on_bind_ok reviewed _, passed (by simp [checked]), handed, ?_⟩
    simp [Course.findings, checked]
  · rw [checked] at reviewed
    exact ⟨.error fault, Run.on_bind_error reviewed _, .inr (.inr (.inr ⟨fault, checked⟩))⟩
  · rw [checked] at reviewed
    refine ⟨.ok (text, findings), Run.on_bind_ok reviewed _, passed (by simp [checked]), handed, ?_⟩
    simp [Course.findings, checked]

private theorem attempt_cases {d : Declaration} (named : d.name.isBlank = .ok false)
    (o : EmitOptions) (h : Host) :
    ∃ outcome, (attempt d (.good o)).on (begun d h) = (outcome, (course d o h).host) ∧
      match outcome with
      | .error _ => Fails d o.settings (course d o h)
      | .ok (text, findings) => ¬ Fails d o.settings (course d o h) ∧
          (course d o h).text = some text ∧ (course d o h).findings = findings := by
  have rendered : rendered? d o.settings = (d.file o.settings).toOption := by
    unfold rendered?
    rw [named]
  rw [attempt_eq]
  cases filed : d.file o.settings with
  | error fault =>
    rw [filed] at rendered
    refine ⟨.error fault, ?_, .inr (.inl ⟨fault, filed⟩)⟩
    rw [course_unrendered rendered]
    apply Run.on_bind_error
    unfold produce
    rw [filed]
    rfl
  | ok code =>
    rw [filed] at rendered
    change _ = some code at rendered
    have produced := produce_on d o filed (begun d h)
    rcases first : Run.stage (formatting o)
      (if o.settings.formatOutput.holds then rendered? d o.settings else none) (begun d h) with
      ⟨formatted, h₁⟩
    rcases second : Run.stage (checking o)
      (if o.settings.level = .compiled then
        formatted.elim (rendered? d o.settings) Except.toOption else none) h₁ with ⟨checked, h₂⟩
    rw [course_eq first second]
    rw [rendered] at first second ⊢
    rw [first] at produced
    have filedWell : ∀ fault, d.file o.settings ≠ .error fault := by simp [filed]
    -- Without a formatter the rendered text is handed on, otherwise what the formatter makes of it.
    rcases formatted with _ | fault | text
    · rw [Run.on_bind_ok produced]
      exact review_cases rfl named filedWell (by simp) second
    · refine ⟨.error fault, ?_, .inr (.inr (.inl ⟨fault, rfl⟩))⟩
      have unchecked : (checked, h₂) = (none, h₁) := by
        rw [← second]
        simp [Except.toOption, Run.stage]
      cases unchecked
      exact Run.on_bind_error produced _
    · rw [Run.on_bind_ok produced]
      exact review_cases rfl named filedWell (by simp) second

/-! When the collaborators are called, and with what. -/

private theorem rendered?_eq_some {d : Declaration} {s : Settings} {code : String} :
    rendered? d s = some code ↔ d.name.isBlank = .ok false ∧ d.file s = .ok code := by
  unfold rendered?
  cases d.name.isBlank with
  | error fault => simp
  | ok blank => cases blank <;> cases d.file s <;> simp [Except.toOption]

private theorem formatterInput_eq_some {d : Declaration} {o : EmitOptions} {h : Host}
    {code : String} : (course d o h).formatterInput = some code ↔
      d.name.isBlank = .ok false ∧ d.file o.settings = .ok code ∧
        o.settings.formatOutput.holds = true := by
  change (if o.settings.formatOutput.holds then rendered? d o.settings else none) = _ ↔ _
  cases o.settings.formatOutput.holds <;> simp [rendered?_eq_some]

theorem text_eq_some {d : Declaration} {o : EmitOptions} {h : Host} {code : String} :
    (course d o h).text = some code ↔ d.name.isBlank = .ok false ∧
      if o.settings.formatOutput.holds then (course d o h).formatted = some (.ok code)
      else d.file o.settings = .ok code := by
  have formatted : (course d o h).formatted = (Run.stage (formatting o)
      (if o.settings.formatOutput.holds then rendered? d o.settings else none) (begun d h)).1 := rfl
  have text : (course d o h).text =
      (course d o h).formatted.elim (rendered? d o.settings) Except.toOption := rfl
  rw [text, formatted]
  cases o.settings.formatOutput.holds with
  | false => simp [Run.stage, rendered?_eq_some]
  | true =>
    rw [if_pos rfl, if_pos rfl]
    cases rendered : rendered? d o.settings with
    | none => simp [Run.stage]
    | some code' =>
      have named := (rendered?_eq_some.mp rendered).1
      cases outcome : ((formatting o code').on (begun d h)).1 <;>
        simp [Run.stage, outcome, named, Except.toOption]

theorem checkerInput_eq_some {d : Declaration} {o : EmitOptions} {h : Host}
    {code : String} : (course d o h).checkerInput = some code ↔
      o.settings.level = .compiled ∧ (course d o h).text = some code := by
  change (if o.settings.level = .compiled then (course d o h).text else none) = _ ↔ _
  split
  case isTrue level => simp [level]
  case isFalse level => simp [level]

/-! The calls that are recorded. -/

private theorem calls_stage {α : Type} {call : String → Run α} {event : String → Event}
    {input : Option String}
    (recorded : ∀ s, input = some s → ∀ h, ((call s).on h).2.calls = h.calls ++ [event s])
    (h : Host) : (Run.stage call input h).2.calls = h.calls ++ input.toList.map event := by
  cases input with
  | none => simp [Run.stage]
  | some s => exact recorded s rfl h

private theorem calls_record {α : Type} {x : Run α} (quiet : x.Quiet) {e : Event}
    (call : e.isCall = true) (h : Host) :
    ((Run.record e >>= fun _ => x).on h).2.calls = h.calls ++ [e] := by
  have recorded : (Run.record e).on h = (.ok (), { h with events := h.events ++ [e] }) := rfl
  rw [Run.on_bind_ok recorded, quiet]
  simp [Host.calls, call]

private theorem calls_begun {d : Declaration} {name : String}
    (readable : d.name.toText = .ok name) (h : Host) : (begun d h).calls = h.calls := by
  unfold begun
  rw [emitStart_on logger readable]
  exact Host.calls_logged ..

theorem calls_course {c : Collaborators} {d : Declaration} {o : EmitOptions}
    {name : String} (readable : d.name.toText = .ok name) (serve : c.Serve o) (h : Host) :
    (course d o h).host.calls = h.calls ++ (course d o h).calls := by
  have formatter : ∀ code, (course d o h).formatterInput = some code →
      ∀ h, ((formatting o code).on h).2.calls = h.calls ++ [.formatted code] := by
    intro code given
    have asked := (formatterInput_eq_some.mp given).2.2
    have same : formatting o code = c.formatter code (.good o.settings) := by
      unfold formatting formatterOf
      rw [serve.formatter asked]
      rfl
    rw [same]
    exact calls_record (c.formatQuiet code _) rfl
  have checker : ∀ code, (course d o h).checkerInput = some code →
      ∀ h, ((checking o code).on h).2.calls = h.calls ++ [.checked (.text code)] := by
    intro code given
    have asked := (checkerInput_eq_some.mp given).1
    have same : checking o code = c.checker (.text code) := by
      unfold checking checkerOf
      rw [serve.checker asked]
      rfl
    rw [same]
    exact calls_record (c.checkQuiet _) rfl
  have ended : (course d o h).host = (Run.stage (checking o) (course d o h).checkerInput
      (Run.stage (formatting o) (course d o h).formatterInput (begun d h)).2).2 := rfl
  rw [ended, calls_stage checker, calls_stage formatter, calls_begun readable, List.append_assoc]
  rfl

/-! The result. -/

theorem diagnosticsOf_findings {findings : List (Supplied Diagnostic)}
    (all : ∀ f ∈ findings, f.IsFinding) :
    EmitResult.diagnosticsOf findings = .ok (findings.map Diagnostic.ofFinding) := by
  induction findings with
  | nil => rfl
  | cons f rest ih =>
    have others := ih fun g member => all g (List.mem_cons_of_mem f member)
    have first := all f List.mem_cons_self
    cases f with
    | good d =>
      rw [EmitResult.diagnosticsOf, others]
      rfl
    | stray v =>
      obtain ⟨text, rfl⟩ := first
      rw [EmitResult.diagnosticsOf, others]
      rfl

private theorem findings_course {d : Declaration} {o : EmitOptions} (reports : ReportsFindings o)
    (h : Host) : ∀ f ∈ (course d o h).findings, f.IsFinding := by
  have ran : ∃ h₁, (course d o h).checked =
      (Run.stage (checking o) (course d o h).checkerInput h₁).1 := ⟨_, rfl⟩
  obtain ⟨h₁, checked⟩ := ran
  unfold Course.findings
  rw [checked]
  cases input : (course d o h).checkerInput with
  | none => simp [Run.stage]
  | some code =>
    have level := (checkerInput_eq_some.mp input).1
    rcases done : (checking o code).on h₁ with ⟨fault | findings, h₂⟩
    · simp [Run.stage, done]
    · simpa [Run.stage, done] using reports level code h₁ findings h₂ done

theorem emit_unnamed {d : Declaration} {name : String} (readable : d.name.toText = .ok name)
    (unnamed : d.name.isBlank = .ok true) (o : EmitOptions) (h : Host) :
    (emit (.good d) (.good o)).on h =
      (.ok { code := .none, diagnostics := [⟨.error, nameRequired⟩] },
        h.logged .warning logger.name ("Emit failed for '" ++ name ++ "': " ++ nameRequired)) := by
  have known : (Run.lift (nameOf (.good d))).on h = (.ok d.name, h) := rfl
  have own : (Value.text name).toText = .ok name := rfl
  have told := emitFailure_on logger own nameRequired h
  unfold emit
  rw [Run.on_bind_ok known, unnamed, Run.on_bind_ok (Run.on_lift_ok ..), if_pos rfl, readable,
    Run.on_bind_ok (Run.on_lift_ok ..)]
  exact Run.on_bind_ok told _

theorem emit_cases {d : Declaration} {o : EmitOptions} {name : String}
    (readable : d.name.toText = .ok name) (reports : ReportsFindings o) (h : Host) :
    ∃ r h', (emit (.good d) (.good o)).on h = (.ok r, h') ∧
      h'.calls = (course d o h).host.calls ∧
      ((¬ Fails d o.settings (course d o h) ∧ ∃ text, (course d o h).text = some text ∧
          r = { code := .text text,
                diagnostics := (course d o h).findings.map .ofFinding }) ∨
        (Fails d o.settings (course d o h) ∧
          ∃ words, r = { code := .none, diagnostics := [⟨.error, .text words⟩] })) := by
  have known : (Run.lift (nameOf (.good d))).on h = (.ok d.name, h) := rfl
  have blankOrNot : ∃ blank, d.name.isBlank = .ok blank := by
    unfold Value.isBlank
    split
    · exact ⟨true, rfl⟩
    · exact ⟨_, by rw [readable]; rfl⟩
  obtain ⟨blank, isBlank⟩ := blankOrNot
  cases blank with
  | true =>
    have unrendered : rendered? d o.settings = none := by
      unfold rendered?
      rw [isBlank]
    refine ⟨_, _, emit_unnamed readable isBlank o h, ?_, .inr ⟨.inl isBlank, nameRequired, rfl⟩⟩
    rw [course_unrendered unrendered, calls_begun readable]
    exact Host.calls_logged ..
  | false =>
    have started : (logger.emitStart d.name (.text d.kind.keyword)).on h = (.ok (), begun d h) := by
      unfold begun
      rw [emitStart_on logger readable]
    obtain ⟨outcome, attempted, told⟩ := attempt_cases isBlank o h
    unfold emit
    rw [Run.on_bind_ok known, isBlank, Run.on_bind_ok (Run.on_lift_ok ..)]
    change ∃ r h', (emitNamed d (.good o)).on h = _ ∧ _
    unfold emitNamed
    rw [Run.on_bind_ok started, Run.on_bind_ok (Run.on_outcome ..), attempted]
    cases outcome with
    | error fault =>
      refine ⟨_, _, Run.on_bind_ok (emitFailure_on logger readable fault.message _) _, ?_,
        .inr ⟨told, fault.message, rfl⟩⟩
      exact Host.calls_logged ..
    | ok pair =>
      obtain ⟨text, findings⟩ := pair
      obtain ⟨passed, handed, rfl⟩ := told
      have read : EmitResult.ofFindings (.text text) (course d o h).findings =
          .ok { code := .text text, diagnostics := (course d o h).findings.map .ofFinding } := by
        unfold EmitResult.ofFindings
        rw [diagnosticsOf_findings (findings_course reports h)]
        rfl
      refine ⟨_, (course d o h).host, ?_, rfl, .inl ⟨passed, text, handed, rfl⟩⟩
      dsimp only
      rw [read, Run.on_pure]

private theorem file_of_attempt {d : Declaration} {o : EmitOptions}
    (plain : o.settings.formatOutput.holds = false) {h h' : Host} {code : String}
    {findings : List (Supplied Diagnostic)}
    (done : (attempt d (.good o)).on h = (.ok (code, findings), h')) :
    d.file o.settings = .ok code := by
  unfold attempt at done
  obtain ⟨_, _, needed, done⟩ := Run.on_bind_eq_ok done
  cases needed
  obtain ⟨text, _, produced, done⟩ := Run.on_bind_eq_ok done
  obtain ⟨reported, _, _, done⟩ := Run.on_bind_eq_ok done
  cases done
  unfold produce at produced
  obtain ⟨written, h₁, filed, produced⟩ := Run.on_bind_eq_ok produced
  rw [plain, if_neg (by decide)] at produced
  cases produced
  cases rendered : d.file o.settings with
  | error fault =>
    rw [rendered] at filed
    cases filed
  | ok text =>
    rw [rendered] at filed
    cases filed
    rfl

theorem file_of_code {d : Declaration} {o : EmitOptions}
    (plain : o.settings.formatOutput.holds = false) {h h' : Host} {r : EmitResult} {code : String}
    (emitted : (emit (.good d) (.good o)).on h = (.ok r, h')) (coded : r.code = .text code) :
    d.file o.settings = .ok code := by
  unfold emit at emitted
  obtain ⟨_, _, named, emitted⟩ := Run.on_bind_eq_ok emitted
  cases named
  obtain ⟨blank, _, _, emitted⟩ := Run.on_bind_eq_ok emitted
  cases blank with
  | true =>
    -- A failure is reported without code.
    obtain ⟨_, _, _, emitted⟩ := Run.on_bind_eq_ok emitted
    obtain ⟨_, _, _, emitted⟩ := Run.on_bind_eq_ok emitted
    cases emitted
    cases coded
  | false =>
    obtain ⟨_, _, needed, emitted⟩ := Run.on_bind_eq_ok emitted
    cases needed
    unfold emitNamed at emitted
    obtain ⟨_, h₁, _, emitted⟩ := Run.on_bind_eq_ok emitted
    obtain ⟨result, h₂, tried, emitted⟩ := Run.on_bind_eq_ok emitted
    rw [Run.on_outcome] at tried
    cases result with
    | error fault =>
      obtain ⟨_, _, _, emitted⟩ := Run.on_bind_eq_ok emitted
      cases emitted
      cases coded
    | ok pair =>
      obtain ⟨text, findings⟩ := pair
      have outcome : ((attempt d (.good o)).on h₁).1 = .ok (text, findings) := by
        injection tried with tried
        injection tried
      have done : (attempt d (.good o)).on h₁ = (.ok (text, findings), _) := Prod.ext outcome rfl
      have same : text = code := by
        dsimp only at emitted
        cases found : EmitResult.ofFindings (.text text) findings with
        | error fault =>
          rw [found] at emitted
          obtain ⟨_, _, _, emitted⟩ := Run.on_bind_eq_ok emitted
          cases emitted
        | ok result =>
          rw [found] at emitted
          cases emitted
          obtain ⟨ds, _, found⟩ := Step.bind_eq_ok.mp found
          cases found
          cases coded
          rfl
      rw [← same]
      exact file_of_attempt plain done

theorem reports_unchecked {o : EmitOptions} (unchecked : o.settings.level = .unchecked) :
    ReportsFindings o := by
  intro compiled
  rw [unchecked] at compiled
  cases compiled

theorem fails_unchecked {o : EmitOptions} (unchecked : o.settings.level = .unchecked)
    (d : Declaration) (h : Host) : Fails d o.settings (course d o h) ↔
      d.name.isBlank = .ok true ∨ (∃ fault, d.file o.settings = .error fault) ∨
        ∃ fault, (course d o h).formatted = some (.error fault) := by
  have unreviewed : (course d o h).checked = none := by simp [course, unchecked, Run.stage]
  simp [Fails, unreviewed]

theorem fails_plain {o : EmitOptions} (unformatted : o.settings.formatOutput.holds = false)
    (unchecked : o.settings.level = .unchecked) (d : Declaration) (h : Host) :
    Fails d o.settings (course d o h) ↔
      d.name.isBlank = .ok true ∨ ∃ fault, d.file o.settings = .error fault := by
  have bare : (course d o h).formatted = none := by simp [course, unformatted, Run.stage]
  simp [fails_unchecked unchecked, bare]

theorem code_of_file {d : Declaration} {o : EmitOptions} {name code : String}
    (readable : d.name.toText = .ok name) (named : d.name.isBlank = .ok false)
    (filed : d.file o.settings = .ok code) (unformatted : o.settings.formatOutput.holds = false)
    (unchecked : o.settings.level = .unchecked) (h : Host) :
    ∃ r h', (emit (.good d) (.good o)).on h = (.ok r, h') ∧ r.code = .text code := by
  obtain ⟨r, h', emitted, _, ⟨_, text, handed, rfl⟩ | ⟨fails, _⟩⟩ :=
    emit_cases readable (reports_unchecked unchecked) h
  · have same := (text_eq_some.mp handed).2
    rw [unformatted, if_neg (by decide), filed] at same
    cases same
    exact ⟨_, h', emitted, rfl⟩
  · exfalso
    rcases (fails_plain unformatted unchecked d h).mp fails with blank | ⟨fault, wrong⟩
    · rw [named] at blank
      cases blank
    · rw [filed] at wrong
      cases wrong

end Emission

namespace EmitResult

private theorem confirm?_isSome (r : EmitResult) :
    (∃ v, r.confirm? = some v) ↔ r.code ≠ .none ∧ ∀ x ∈ r.diagnostics, x.isError = false := by
  have present : r.code.isNone = false ↔ r.code ≠ .none := by
    cases r.code <;> simp [Value.isNone]
  have passed : r.succeeded = true ↔
      r.code ≠ .none ∧ ∀ x ∈ r.diagnostics, x.isError = false := by
    rw [← present]
    simp [succeeded]
  rw [← passed]
  unfold confirm?
  split
  case isTrue done => simp [done]
  case isFalse refused => simp [refused]

private theorem code_of_confirm? {r : EmitResult} {v : ConfirmedCode}
    (confirmed : r.confirm? = some v) : v.code = r.code := by
  unfold confirm? at confirmed
  split at confirmed
  · cases confirmed
    rfl
  · cases confirmed

private theorem confirm_eq_ok (r : EmitResult) (message : Value) (v : ConfirmedCode) :
    r.confirm message = .ok v ↔ r.confirm? = some v := by
  unfold confirm
  cases r.confirm? with
  | some c => simp
  | none =>
    have refused : ∃ fault, (do throw (← r.refusal message) : Except Fault ConfirmedCode) =
        .error fault := Step.bind_error _ fun fault => ⟨fault, rfl⟩
    obtain ⟨fault, wrong⟩ := refused
    dsimp only
    rw [wrong]
    simp

end EmitResult

namespace Emission

/-- Main theorem. Whatever its collaborators do, an emission ends with a result that tells what
became of its stages. -/
theorem emit_faithful {d : Declaration} {o : EmitOptions} {name : String}
    (readable : d.name.toText = .ok name) (reports : ReportsFindings o) (h : Host) :
    ∃ r h', (emit (.good d) (.good o)).on h = (.ok r, h') ∧ Faithful d o h h' r := by
  obtain ⟨r, h', emitted, calls, told⟩ := emit_cases readable reports h
  refine ⟨r, h', emitted, ?_⟩
  have recorded : ∀ c : Collaborators, c.Serve o →
      h'.calls = h.calls ++ (course d o h).calls := by
    intro c serve
    rw [calls, calls_course readable serve]
  have outcome : (r.code = .none ↔ Fails d o.settings (course d o h)) ∧
      (r.code = .none → ∃ words, r.diagnostics = [⟨.error, .text words⟩]) ∧
      (r.code ≠ .none → ∃ code, r.code = .text code ∧ (course d o h).text = some code ∧
        r.diagnostics = (course d o h).findings.map .ofFinding) := by
    rcases told with ⟨passed, text, handed, rfl⟩ | ⟨fails, words, rfl⟩
    · exact ⟨by simp [passed], by simp, fun _ => ⟨text, rfl, handed, rfl⟩⟩
    · exact ⟨by simp [fails], fun _ => ⟨words, rfl⟩, by simp⟩
  exact {
    formatter := fun _ => formatterInput_eq_some
    text := fun _ => text_eq_some
    checker := fun _ => checkerInput_eq_some
    calls := recorded
    failed := outcome.1
    failure := outcome.2.1
    returned := outcome.2.2
    gate := r.confirm_eq_ok
    confirmed := r.confirm?_isSome
    kept := fun _ => EmitResult.code_of_confirm? }

/-- A formatter that marks what it is given, and a checker that finds a fault in anything. -/
def markAndComplain : Collaborators where
  format code _ := return "/* */ " ++ code
  check _ := return [.stray "error: bad", .good ⟨.note, "seen"⟩]
  formatQuiet _ _ _ := rfl
  checkQuiet _ _ := rfl

/-- The theorem at work: both collaborators are called, and a text counts as an error. -/
theorem emit_faithful_complaint :
    ∃ (o : EmitOptions) (r : EmitResult) (h h' : Host), ReportsFindings o ∧
      markAndComplain.Serve o ∧
      (emit (.good (.ofKind .interfaceDecl "Point")) (.good o)).on h = (.ok r, h') ∧
      Faithful (.ofKind .interfaceDecl "Point") o h h' r ∧
      r.diagnostics = [⟨.error, "bad"⟩, ⟨.note, "seen"⟩] := by
  let o : EmitOptions := {
    settings := { formatOutput := .bool true, level := .compiled }
    formatter := some (.good markAndComplain.formatter)
    checker := some (.good markAndComplain.checker) }
  have reports : ReportsFindings o := by
    intro _ code h findings h' done
    cases done
    simp [Supplied.IsFinding, Value.IsText]
  obtain ⟨r, h', emitted, faithful⟩ :=
    emit_faithful (d := .ofKind .interfaceDecl "Point") (o := o) rfl reports
      { respond := fun _ _ => .exited 0 "" "" }
  refine ⟨o, r, _, h', reports, ⟨fun _ => rfl, fun _ => rfl⟩, emitted, faithful, ?_⟩
  cases emitted
  rfl

end Emission

end TypeScriptGen
