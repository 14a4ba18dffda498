import TypeScriptGen.Emission
import TypeScriptGen.Proofs.Probing

/-!
The gate of emissions that the compiler checks. Main statement: such an emission always ends with a
result, and the result can be confirmed exactly when the compiler was started on the code it holds
and accepted it; whatever else happens on the way leaves an error among the diagnostics.

The argument follows the run backwards from the gate: a validation reports nothing or an error, it
reports nothing exactly when its check ended with exit code zero, and nothing else that is started
in a validation has a working directory of its own.
-/

set_option autoImplicit false
set_option relaxedAutoImplicit false

namespace TypeScriptGen

/-- The code that lies in the working directory of a program, if it has a directory of its own. -/
def Launch.source? (l : Launch) : Option String :=
  l.folder.bind fun files => (files.find? (·.1 == Validator.sourceName)).map Prod.snd

/-- The program is the compiler, asked to check a project that consists of the code and lies in a
directory of the name. -/
structure Launch.Checks (l : Launch) (folderName code : String) : Prop where
  command : ∃ compiler, l.command =
    compiler ++ Locator.checkFlags ++ [folderName ++ "/" ++ Validator.projectName]
  source : l.source? = some code

/-- Between the two hosts the compiler was asked to check the code in the next directory, and ended
by itself with exit code zero. -/
def Host.Accepted (code : String) (h h' : Host) : Prop :=
  ∃ (l : Launch) (later earlier : List Launch) (out err : String),
    h'.launches = later ++ l :: (earlier ++ h.launches) ∧ l.Checks h.nextFolder code ∧
      h'.respond (earlier ++ h.launches) l = .exited 0 out err

/-- What an emission of a named declaration does before its code is reviewed. -/
def Emission.draft (d : Declaration) (o : EmitOptions) : Run String := do
  logger.emitStart d.name (.text d.kind.keyword)
  produce d o

/-- A declaration passes between two hosts: it has a name, its code is drafted, and the compiler
accepts that code afterwards. -/
def Emission.Passes (d : Declaration) (o : EmitOptions) (code : String) (h h' : Host) : Prop :=
  d.name.isBlank = .ok false ∧ ∃ h₁, (draft d o).on h = (.ok code, h₁) ∧ h₁.Accepted code h'

/-- The result of an emission between two hosts is what the gate wants it to be. -/
structure Emission.Gated (d : Declaration) (o : EmitOptions) (h h' : Host) (r : EmitResult) :
    Prop where
  confirmed : ∀ code, (∃ v, r.confirm? = some v ∧ v.code = .text code) ↔ Passes d o code h h'
  clean : ∀ v, r.confirm? = some v → (∃ code, v.code = .text code) ∧ r.diagnostics = []
  refused : r.confirm? = none → ∃ x ∈ r.diagnostics, x.isError = true

namespace Gate

/-- A start without a working directory of its own. -/
def Unhoused (l : Launch) : Prop := l.folder = Option.none

private theorem unhoused_not_checks {l : Launch} (unhoused : Unhoused l)
    (folderName code : String) : ¬ l.Checks folderName code := by
  intro checks
  have source := checks.source
  unfold Unhoused at unhoused
  simp [Launch.source?, unhoused] at source

private theorem accepted_congr {code : String} {h h₁ h₂ : Host}
    (respond : h₂.respond = h₁.respond) (launches : h₂.launches = h₁.launches) :
    h.Accepted code h₂ ↔ h.Accepted code h₁ := by
  unfold Host.Accepted
  rw [respond, launches]

private theorem not_accepted_of_unhoused {code : String} {h h' : Host}
    (only : ∃ new, h'.launches = new ++ h.launches ∧ ∀ l ∈ new, Unhoused l) :
    ¬ h.Accepted code h' := by
  rintro ⟨l, later, earlier, _, _, started, checks, _⟩
  obtain ⟨new, grown, all⟩ := only
  have split : later ++ l :: earlier = new := by
    apply (List.append_left_inj h.launches).mp
    rw [← grown, started]
    simp
  have member : l ∈ new := by
    rw [← split]
    simp
  exact unhoused_not_checks (all l member) _ code checks

private theorem accepted_iff_of_last {code : String} {h h' : Host} {l : Launch}
    {new : List Launch} (unhoused : ∀ other ∈ new, Unhoused other)
    (started : h'.launches = l :: (new ++ h.launches)) (checks : l.Checks h.nextFolder code) :
    h.Accepted code h' ↔
      ∃ out err, h'.respond (new ++ h.launches) l = .exited 0 out err := by
  constructor
  · rintro ⟨other, later, earlier, out, err, split, otherChecks, ended⟩
    have same : later ++ other :: earlier = l :: new := by
      apply (List.append_left_inj h.launches).mp
      rw [List.cons_append, ← started, split]
      simp
    cases later with
    | nil =>
      obtain ⟨rfl, rfl⟩ := List.cons.inj same
      exact ⟨out, err, ended⟩
    | cons first rest =>
      have member : other ∈ new := by
        rw [← (List.cons.inj same).2]
        simp
      exact absurd otherChecks (unhoused_not_checks (unhoused other member) _ code)
  · rintro ⟨out, err, ended⟩
    exact ⟨l, [], new, out, err, started, checks, ended⟩

/-! What is started before a check. -/

private theorem starts_run {P : Launch → Prop} {l : Launch} (holds : P l) :
    Run.Starts P (Tool.run l) := by
  unfold Tool.run
  refine .bind (.log _ _ _) fun _ => .bind .get fun h => .bind (.launch holds) fun reply => ?_
  cases reply with
  | refused fault => exact .throw fault
  | exited code out err => exact .pure _
  | stopped out err =>
    cases l.command with
    | nil =>
      exact .bind (.throw _) fun _ => .bind (.lift _) fun _ => .bind (.log _ _ _) fun _ => .pure _
    | cons program rest =>
      exact .bind (.pure _) fun _ => .bind (.lift _) fun _ => .bind (.log _ _ _) fun _ => .pure _

private theorem starts_probe (command : List String) (limit : Value) :
    Run.Starts Unhoused (Tool.probe command limit) := by
  unfold Tool.probe
  refine .tryCatch (.bind (starts_run rfl) fun _ => .pure _) fun fault => ?_
  cases fault with
  | system e => exact .bind (.log _ _ _) fun _ => .pure _
  | _ => exact .throw _

private theorem starts_firstAnswering (limit : Value) (commands : List (List String)) :
    Run.Starts Unhoused (Locator.firstAnswering limit commands) := by
  induction commands with
  | nil => exact .pure _
  | cons command rest ih =>
    unfold Locator.firstAnswering
    refine .bind (starts_probe _ _) fun answers => ?_
    cases answers with
    | true => exact .pure _
    | false => exact ih

private theorem starts_search (l : Locator) : Run.Starts Unhoused (Locator.search l) := by
  unfold Locator.search
  split
  · exact .bind .get fun _ => .lift _
  · exact starts_firstAnswering _ _

private theorem starts_resolve (id : LocatorId) : Run.Starts Unhoused (Locator.resolve id) := by
  unfold Locator.resolve
  refine .bind (.locator id) fun l => ?_
  cases l.command with
  | some command => exact .pure _
  | none =>
    refine .bind (starts_search l) fun command => ?_
    refine .bind (.bind (.lift _) fun _ => .bind (.lift _) fun _ => .log _ _ _) fun _ => ?_
    exact .bind (.locator id) fun _ => .bind (.setLocator _ _) fun _ => .pure _

/-! The outcome of one run of a program, and what a validation makes of it. -/

private theorem run_cases (l : Launch) (h : Host) :
    ∃ outcome h', (Tool.run l).on h = (outcome, h') ∧ h'.respond = h.respond ∧
      h'.launches = l :: h.launches ∧
      match h.respond h.launches l with
      | .exited code _ _ => ∃ r, outcome = .ok r ∧ r.timedOut = false ∧ r.exitCode = some code
      | _ => ∀ r, outcome = .ok r → r.timedOut = true := by
  obtain ⟨h', ran, advances⟩ := Tool.run_on l h
  refine ⟨_, h', ran, advances.respond, advances.launches, ?_⟩
  cases h.respond h.launches l with
  | refused fault => simp [Tool.outcome]
  | exited code out err => exact ⟨_, rfl, rfl, rfl⟩
  | stopped out err =>
    intro r done
    unfold Tool.outcome at done
    cases command : l.command with
    | nil => simp [command] at done
    | cons program rest =>
      cases shown : l.limit.toText with
      | error fault =>
        rw [command, shown] at done
        cases done
      | ok limit =>
        rw [command, shown] at done
        cases done
        rfl

/-- What a validation may report: nothing if the code was accepted, and an error if not. -/
private def Sound (accepted : Prop) (ds : List Diagnostic) : Prop :=
  (ds = [] ∧ accepted) ∨ (ds.any Diagnostic.isError = true ∧ ¬ accepted)

private theorem any_isError_stopped (limit output : String) :
    (Validator.stoppedDiagnostics limit output).any Diagnostic.isError = true := by
  unfold Validator.stoppedDiagnostics
  rw [List.any_append, Bool.or_eq_true]
  exact .inr rfl

private theorem any_isError_failure (code output : String) :
    (Validator.failureDiagnostics code output).any Diagnostic.isError = true := by
  unfold Validator.failureDiagnostics
  by_cases found : (CompilerOutput.diagnostics output).any Diagnostic.isError = true
  · rw [if_pos found]
    exact found
  · rw [if_neg found, List.any_append, Bool.or_eq_true]
    exact .inr rfl

private theorem starts_diagnosticsOf {P : Launch → Prop} (limit : Value) (r : ToolResult) :
    Run.Starts P (Validator.diagnosticsOf limit r) := by
  unfold Validator.diagnosticsOf
  split
  · exact .bind (.lift _) fun _ => .pure _
  · split
    · exact .pure _
    · exact .bind (.lift _) fun _ => .bind (.log _ _ _) fun _ => .pure _

private theorem diagnosticsOf_succeeded (limit : Value) {r : ToolResult}
    (ended : r.timedOut = false) (zero : r.exitCode = some 0) (h : Host) :
    (Validator.diagnosticsOf limit r).on h = (.ok [], h) := by
  unfold Validator.diagnosticsOf
  simp [ended, zero]

private theorem diagnosticsOf_failed (limit : Value) {r : ToolResult}
    (failed : r.timedOut = false → r.exitCode ≠ some 0) {h h' : Host} {ds : List Diagnostic}
    (run : (Validator.diagnosticsOf limit r).on h = (.ok ds, h')) :
    ds.any Diagnostic.isError = true := by
  unfold Validator.diagnosticsOf at run
  cases stopped : r.timedOut with
  | true =>
    rw [stopped, if_pos rfl] at run
    obtain ⟨seconds, _, _, done⟩ := Run.on_bind_eq_ok run
    cases done
    exact any_isError_stopped _ _
  | false =>
    have code : (r.exitCode == some 0) = false := by
      simpa using failed stopped
    rw [stopped, if_neg (by decide), code, if_neg (by decide)] at run
    obtain ⟨code, _, _, run⟩ := Run.on_bind_eq_ok run
    obtain ⟨_, _, _, done⟩ := Run.on_bind_eq_ok run
    cases done
    exact any_isError_failure _ _

private def checking (compiler : List String) (limit : Value) (folderName code : String) :
    Launch where
  command := compiler ++ Locator.checkFlags ++ [folderName ++ "/" ++ Validator.projectName]
  limit := limit
  folder := some (Validator.folder code)

private theorem checks_checking (compiler : List String) (limit : Value)
    (folderName code : String) : (checking compiler limit folderName code).Checks folderName code :=
  ⟨⟨compiler, rfl⟩, rfl⟩

/-- The diagnostics of a run, with the message that the validation has ended. -/
private def reported (limit : Value) (r : ToolResult) : Run (List Diagnostic) := do
  let ds ← Validator.diagnosticsOf limit r
  (EmitLogger.ofName Validator.loggerName).validationResult (.int ds.length)
    (.int (Validator.errorCount ds)) (.float (← get).runTime)
  return ds

private theorem checkIn_eq {v : Validator} {id : LocatorId} (located : v.locator = .good id)
    (folderName code : String) : v.checkIn folderName (.text code) = (do
      let compiler ← Locator.resolve id
      let r ← Tool.run (checking compiler v.limit folderName code)
      reported v.limit r) := by
  unfold Validator.checkIn Locator.checkCommand
  simp only [located, Validator.codeOf, Supplied.need, Run.lift_ok, pure_bind, bind_assoc]
  rfl

private theorem reported_cases (limit : Value) (r : ToolResult) (h : Host) :
    ∃ h', (reported limit r).on h = (((Validator.diagnosticsOf limit r).on h).1, h') ∧
      h'.respond = h.respond ∧ h'.launches = h.launches := by
  have same := (starts_diagnosticsOf limit r h).unchanged
  unfold reported
  rcases done : (Validator.diagnosticsOf limit r).on h with ⟨fault | ds, h₁⟩
  · rw [done] at same
    exact ⟨h₁, Run.on_bind_error done _, same⟩
  · rw [done] at same
    obtain ⟨message, told⟩ := (EmitLogger.ofName Validator.loggerName).validationResult_on ds.length
      (Validator.errorCount ds) h₁.runTime h₁
    refine ⟨h₁.logged .info (EmitLogger.ofName Validator.loggerName).name message, ?_,
      (Host.respond_logged ..).trans same.1, (Host.launches_logged ..).trans same.2⟩
    rw [Run.on_bind_ok done, Run.on_bind_ok (Run.on_get _), Run.on_bind_ok told, Run.on_pure]

private theorem check_cases {v : Validator} {id : LocatorId} (located : v.locator = .good id)
    (code : String) (h : Host) :
    ∃ outcome h', (v.check (.text code)).on h = (outcome, h') ∧
      ((outcome = .ok [] ∧ h.Accepted code h') ∨
        ((∀ ds, outcome = .ok ds → ds.any Diagnostic.isError = true) ∧ ¬ h.Accepted code h')) := by
  let made : Host := { h with foldersMade := h.foldersMade + 1 }
  have searched := (starts_resolve id made).launches
  unfold Validator.check
  rw [Run.on_bind_ok (Run.on_makeFolder h), checkIn_eq located]
  rcases found : (Locator.resolve id).on made with ⟨fault | compiler, h₁⟩
  · rw [found] at searched
    exact ⟨.error fault, h₁, Run.on_bind_error found _,
      .inr ⟨by simp, not_accepted_of_unhoused searched⟩⟩
  rw [found] at searched
  rw [Run.on_bind_ok found]
  obtain ⟨new, grown, unhoused⟩ := searched
  obtain ⟨ran, h₂, run, respond, launches, told⟩ :=
    run_cases (checking compiler v.limit h.nextFolder code) h₁
  -- Only the start of the compiler on the code can be its acceptance.
  have decided : h.Accepted code h₂ ↔ ∃ out err, h₁.respond h₁.launches
      (checking compiler v.limit h.nextFolder code) = .exited 0 out err := by
    rw [grown, ← respond]
    exact accepted_iff_of_last unhoused (by rw [launches, grown]) (checks_checking ..)
  cases ran with
  | error fault =>
    refine ⟨.error fault, h₂, Run.on_bind_error run _, .inr ⟨by simp, ?_⟩⟩
    rw [decided]
    rintro ⟨out, err, ended⟩
    rw [ended] at told
    obtain ⟨_, wrong, _⟩ := told
    cases wrong
  | ok r =>
    obtain ⟨h', report, same⟩ := reported_cases v.limit r h₂
    refine ⟨_, h', (Run.on_bind_ok run _).trans report, ?_⟩
    rw [accepted_congr same.1 same.2, decided]
    by_cases accepted : ∃ out err, h₁.respond h₁.launches
        (checking compiler v.limit h.nextFolder code) = .exited 0 out err
    · refine .inl ⟨?_, accepted⟩
      obtain ⟨out, err, ended⟩ := accepted
      rw [ended] at told
      obtain ⟨_, result, unstopped, zero⟩ := told
      cases result
      rw [diagnosticsOf_succeeded v.limit unstopped zero]
    · refine .inr ⟨?_, accepted⟩
      intro ds given
      apply diagnosticsOf_failed v.limit ?_ (Prod.ext given rfl)
      intro unstopped zero
      split at told
      case h_1 code out err reply =>
        obtain ⟨_, result, _, exit⟩ := told
        cases result
        rw [zero] at exit
        cases exit
        exact accepted ⟨out, err, reply⟩
      case h_2 =>
        rw [told r rfl] at unstopped
        cases unstopped

private theorem complaint_done (fault : Fault) (h : Host) :
    ∃ d h', (Validator.complaint fault).on h = (.ok [d], h') ∧ d.isError = true ∧
      h'.respond = h.respond ∧ h'.launches = h.launches := by
  unfold Validator.complaint
  cases fault <;> exact ⟨_, _, rfl, rfl, Host.respond_logged .., Host.launches_logged ..⟩

private theorem validate_cases {v : Validator} {id : LocatorId} (located : v.locator = .good id)
    (code : String) (h : Host) :
    ∃ ds h', (v.validate (.text code)).on h = (.ok ds, h') ∧ Sound (h.Accepted code h') ds := by
  obtain ⟨outcome, h₁, checked, told⟩ := check_cases located code h
  unfold Validator.validate
  rw [Run.on_tryCatch, checked]
  cases outcome with
  | ok ds =>
    refine ⟨ds, h₁, rfl, ?_⟩
    rcases told with ⟨same, accepted⟩ | ⟨complains, rejected⟩
    · injection same with empty
      exact .inl ⟨empty, accepted⟩
    · exact .inr ⟨complains ds rfl, rejected⟩
  | error fault =>
    obtain ⟨d, h', complained, isError, respond, launches⟩ := complaint_done fault h₁
    refine ⟨[d], h', complained, .inr ⟨?_, ?_⟩⟩
    · simp [isError]
    · rw [accepted_congr respond launches]
      rcases told with ⟨wrong, _⟩ | ⟨_, rejected⟩
      · cases wrong
      · exact rejected

/-! The way from a validation to the result of an emission. -/

private theorem starts_shared {P : Launch → Prop} (request : List Value) :
    Run.Starts P (Locator.shared request) := by
  unfold Locator.shared
  split
  · exact .throw _
  · refine .bind .get fun h => ?_
    split
    · exact .pure _
    · exact fun _ => .ofSame rfl rfl rfl

private def validatorBy (id : LocatorId) (s : Settings) : Validator where
  limit := s.timeLimit
  locator := .good id
  isAvailable := Locator.isAvailable id

private theorem review_eq {o : EmitOptions} (level : o.settings.level = .compiled)
    (usual : o.checker = none) (code : String) :
    Emission.review o code = (do
      let id ← Locator.shared [o.settings.compilerPath]
      let ds ← (validatorBy id o.settings).validate (.text code)
      return ds.map .good) := by
  unfold Emission.review Emission.checkerOf Validator.ofPath
  simp only [level, usual, bind_assoc, pure_bind]
  rfl

private theorem accepted_of_same {code : String} {h₁ h₂ h' : Host}
    (folder : h₂.nextFolder = h₁.nextFolder) (launches : h₂.launches = h₁.launches) :
    h₂.Accepted code h' ↔ h₁.Accepted code h' := by
  unfold Host.Accepted
  rw [folder, launches]

private theorem review_cases {o : EmitOptions} (level : o.settings.level = .compiled)
    (usual : o.checker = none) (code : String) (h : Host) :
    ∃ h', ((∃ fault, (Emission.review o code).on h = (.error fault, h')) ∧ ¬ h.Accepted code h') ∨
      ∃ ds, (Emission.review o code).on h = (.ok (ds.map .good), h') ∧
        Sound (h.Accepted code h') ds := by
  have quiet := starts_shared (P := fun _ => False) [o.settings.compilerPath] h
  rw [review_eq level usual]
  rcases found : (Locator.shared [o.settings.compilerPath]).on h with ⟨fault | id, h₁⟩
  · rw [found] at quiet
    refine ⟨h₁, .inl ⟨⟨fault, Run.on_bind_error found _⟩, ?_⟩⟩
    exact not_accepted_of_unhoused ⟨[], by simpa using quiet.unchanged.2, by simp⟩
  · rw [found] at quiet
    obtain ⟨ds, h', validated, sound⟩ :=
      validate_cases (v := validatorBy id o.settings) rfl code h₁
    rw [accepted_of_same quiet.folder quiet.unchanged.2] at sound
    refine ⟨h', .inr ⟨ds, ?_, sound⟩⟩
    rw [Run.on_bind_ok found, Run.on_bind_ok validated, Run.on_pure]

private theorem diagnosticsOf_good (ds : List Diagnostic) :
    EmitResult.diagnosticsOf (ds.map .good) = .ok ds := by
  induction ds with
  | nil => rfl
  | cons d rest ih =>
    rw [List.map_cons, EmitResult.diagnosticsOf, ih]
    rfl

private theorem ofFindings_good (code : Value) (ds : List Diagnostic) :
    EmitResult.ofFindings code (ds.map .good) = .ok { code, diagnostics := ds } := by
  unfold EmitResult.ofFindings
  rw [diagnosticsOf_good]
  rfl

private theorem emitFailure_done (l : EmitLogger) {name : Value} {shown : String}
    (readable : name.toText = .ok shown) (reason : String) (h : Host) :
    ∃ h', (l.emitFailure name (.text reason)).on h = (.ok (), h') ∧ h'.respond = h.respond ∧
      h'.launches = h.launches := by
  unfold EmitLogger.emitFailure
  rw [readable]
  exact ⟨_, rfl, Host.respond_logged .., Host.launches_logged ..⟩

private theorem emitStart_done (l : EmitLogger) {name : Value} {shown : String}
    (readable : name.toText = .ok shown) (word : String) (h : Host) :
    ∃ h', (l.emitStart name (.text word)).on h = (.ok (), h') := by
  unfold EmitLogger.emitStart
  rw [readable]
  exact ⟨_, rfl⟩

private theorem isBlank_readable {v : Value} {shown : String} (readable : v.toText = .ok shown) :
    ∃ blank, v.isBlank = .ok blank := by
  unfold Value.isBlank
  split
  · exact ⟨true, rfl⟩
  · exact ⟨_, by rw [readable]; rfl⟩

private def failure (words : String) : EmitResult :=
  { code := .none, diagnostics := [⟨.error, .text words⟩] }

private theorem emitNamed_cases {d : Declaration} {o : EmitOptions} {name : String}
    (readable : d.name.toText = .ok name) (level : o.settings.level = .compiled)
    (usual : o.checker = none) (h : Host) :
    ∃ r h', (Emission.emitNamed d (.good o)).on h = (.ok r, h') ∧
      ((∃ code h₁ ds, (Emission.draft d o).on h = (.ok code, h₁) ∧
          r = { code := .text code, diagnostics := ds } ∧ Sound (h₁.Accepted code h') ds) ∨
        ((∃ words, r = failure words) ∧
          ∀ code h₁, (Emission.draft d o).on h = (.ok code, h₁) → ¬ h₁.Accepted code h')) := by
  obtain ⟨h₀, begun⟩ := emitStart_done Emission.logger readable d.kind.keyword h
  have drafted : (Emission.draft d o).on h = (Emission.produce d o).on h₀ :=
    Run.on_bind_ok begun _
  unfold Emission.emitNamed
  rw [Run.on_bind_ok begun, Run.on_bind_ok (Run.on_outcome ..), drafted]
  have tried : (Emission.attempt d (.good o)).on h₀ =
      (Emission.produce d o >>= fun code =>
        Emission.review o code >>= fun ds => pure (code, ds)).on h₀ := by
    rfl
  rw [tried]
  rcases produced : (Emission.produce d o).on h₀ with ⟨fault | code, h₁⟩
  · rw [Run.on_bind_error produced]
    obtain ⟨h', told, _⟩ := emitFailure_done Emission.logger readable fault.message h₁
    refine ⟨failure fault.message, h', ?_, .inr ⟨⟨_, rfl⟩, by simp⟩⟩
    exact Run.on_bind_ok told _
  · rw [Run.on_bind_ok produced]
    obtain ⟨h₂, ⟨⟨fault, reviewed⟩, rejected⟩ | ⟨ds, reviewed, sound⟩⟩ :=
      review_cases level usual code h₁
    · rw [Run.on_bind_error reviewed]
      obtain ⟨h', told, respond, launches⟩ :=
        emitFailure_done Emission.logger readable fault.message h₂
      refine ⟨failure fault.message, h', Run.on_bind_ok told _, .inr ⟨⟨_, rfl⟩, ?_⟩⟩
      intro code' h₁' same
      cases same
      rw [accepted_congr respond launches]
      exact rejected
    · rw [Run.on_bind_ok reviewed, Run.on_pure]
      refine ⟨_, h₂, ?_, .inl ⟨code, h₁, ds, rfl, rfl, sound⟩⟩
      dsimp only
      rw [ofFindings_good, Run.on_pure]

private theorem gated_of_accepted {d : Declaration} {o : EmitOptions} {h h₁ h' : Host}
    {code : String} (named : d.name.isBlank = .ok false)
    (drafted : (Emission.draft d o).on h = (.ok code, h₁)) (accepted : h₁.Accepted code h') :
    Emission.Gated d o h h' { code := .text code } := by
  have passed : EmitResult.succeeded { code := .text code } = true := rfl
  have result : EmitResult.confirm? { code := .text code } = some ⟨_, passed⟩ := dif_pos passed
  refine ⟨?_, ?_, ?_⟩
  · intro other
    rw [result]
    constructor
    · rintro ⟨v, confirmed, same⟩
      cases confirmed
      cases same
      exact ⟨named, h₁, drafted, accepted⟩
    · rintro ⟨_, _, again, _⟩
      rw [drafted] at again
      cases again
      exact ⟨_, rfl, rfl⟩
  · intro v confirmed
    rw [result] at confirmed
    cases confirmed
    exact ⟨⟨code, rfl⟩, rfl⟩
  · rw [result]
    intro wrong
    cases wrong

private theorem gated_of_error {d : Declaration} {o : EmitOptions} {h h' : Host} {r : EmitResult}
    (bad : r.diagnostics.any Diagnostic.isError = true)
    (fails : ∀ code, ¬ Emission.Passes d o code h h') : Emission.Gated d o h h' r := by
  have result : r.confirm? = none := by
    apply dif_neg
    simp [EmitResult.succeeded, bad]
  refine ⟨?_, ?_, fun _ => List.any_eq_true.mp bad⟩
  · intro code
    rw [result]
    simp [fails code]
  · rw [result]
    simp

/-- Main theorem. An emission that the compiler checks gives a result on every host, and the gate
lets through exactly the code that the compiler was started on and accepted. -/
theorem emit_gated {d : Declaration} {o : EmitOptions} {name : String}
    (readable : d.name.toText = .ok name) (level : o.settings.level = .compiled)
    (usual : o.checker = none) (h : Host) :
    ∃ r h', (Emission.emit (.good d) (.good o)).on h = (.ok r, h') ∧
      Emission.Gated d o h h' r := by
  obtain ⟨blank, known⟩ := isBlank_readable readable
  have named : (Run.lift (Emission.nameOf (.good d))).on h = (.ok d.name, h) := rfl
  unfold Emission.emit
  rw [Run.on_bind_ok named, known, Run.on_bind_ok (Run.on_lift_ok ..)]
  cases blank with
  | true =>
    obtain ⟨h', told, _⟩ :=
      emitFailure_done Emission.logger (show Value.toText (.text name) = .ok name from rfl)
        Emission.nameRequired h
    refine ⟨failure Emission.nameRequired, h', ?_, gated_of_error rfl ?_⟩
    · rw [readable, if_pos rfl, Run.on_bind_ok (Run.on_lift_ok ..)]
      exact Run.on_bind_ok told _
    · rintro code ⟨unblank, _⟩
      rw [known] at unblank
      cases unblank
  | false =>
    obtain ⟨r, h', emitted, told⟩ := emitNamed_cases readable level usual h
    refine ⟨r, h', emitted, ?_⟩
    rcases told with ⟨code, h₁, ds, drafted, rfl, ⟨rfl, accepted⟩ | ⟨bad, rejected⟩⟩ |
      ⟨⟨words, rfl⟩, rejected⟩
    · exact gated_of_accepted known drafted accepted
    · refine gated_of_error bad ?_
      rintro other ⟨_, _, again, accepted⟩
      rw [drafted] at again
      cases again
      exact rejected accepted
    · refine gated_of_error rfl ?_
      rintro code ⟨_, h₁, drafted, accepted⟩
      exact rejected code h₁ drafted accepted

/-- A host where every program ends at once with the exit code, and without a word. -/
def silentHost (code : Int) : Host where
  respond _ _ := .exited code "" ""

/-- An emission of an interface without members, which the compiler checks. -/
def pointEmission (code : Int) : Except Fault EmitResult × Host :=
  (Emission.emit (.good (.ofKind .interfaceDecl "Point"))
    (.good { settings := { level := .compiled } })).on (silentHost code)

/-- The theorem at work: an interface, where every program fails without a word, and where every
program ends well. There its code gets through the gate. -/
theorem emit_gated_interface :
    Value.toText "Point" = .ok "Point" ∧
      (∃ r h', pointEmission 2 = (.ok r, h') ∧
        Emission.Gated (.ofKind .interfaceDecl "Point") { settings := { level := .compiled } }
          (silentHost 2) h' r ∧
        r.confirm? = none ∧ ∃ x ∈ r.diagnostics, x.isError = true) ∧
      ∃ r h' v, pointEmission 0 = (.ok r, h') ∧
        Emission.Gated (.ofKind .interfaceDecl "Point") { settings := { level := .compiled } }
          (silentHost 0) h' r ∧
        r.confirm? = some v ∧
        v.code = .text "// <auto-generated />\n\ninterface Point \x7b\n\x7d\n" ∧
        Emission.Passes (.ofKind .interfaceDecl "Point") { settings := { level := .compiled } }
          "// <auto-generated />\n\ninterface Point \x7b\n\x7d\n" (silentHost 0) h' := by
  have outcome (code : Int) := emit_gated (d := .ofKind .interfaceDecl "Point")
    (o := { settings := { level := .compiled } }) rfl rfl rfl (silentHost code)
  refine ⟨rfl, ?_, ?_⟩
  · obtain ⟨r, h', emitted, gated⟩ := outcome 2
    have told : (pointEmission 2).1 = .ok
        { code := .text "// <auto-generated />\n\ninterface Point \x7b\n\x7d\n"
          diagnostics := [⟨.error, "tsc exited with errors but produced no output."⟩] } := by rfl
    rw [pointEmission, emitted] at told
    cases told
    exact ⟨_, h', emitted, gated, rfl, gated.refused rfl⟩
  · obtain ⟨r, h', emitted, gated⟩ := outcome 0
    have told : (pointEmission 0).1 = .ok
        { code := .text "// <auto-generated />\n\ninterface Point \x7b\n\x7d\n" } := by rfl
    rw [pointEmission, emitted] at told
    cases told
    exact ⟨_, h', ⟨_, rfl⟩, emitted, gated, rfl, rfl,
      (gated.confirmed _).mp ⟨⟨_, rfl⟩, rfl, rfl⟩⟩

end Gate

end TypeScriptGen
