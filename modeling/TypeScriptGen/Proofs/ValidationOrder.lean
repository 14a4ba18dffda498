import TypeScriptGen.Proofs.Interleaving
import TypeScriptGen.Proofs.LocatorRuns
import TypeScriptGen.Proofs.Verdict

/-!
Validations in any order. The calls of locators and validators are cut into their actions: every log
record, every directory that is made, every start of a program, and every look into or change of a
locator is one, so that others may act between any two of them.
-/

set_option autoImplicit false
set_option relaxedAutoImplicit false

namespace TypeScriptGen

/-! The calls, action by action. -/

namespace Tool

def runSteps (l : Launch) : Steps ToolResult := do
  .atom (Run.log .debug loggerName ("Running: " ++ commandText l.command))
  let elapsed := (← .atom get).runTime
  match ← .atom (Run.launch l) with
  | .refused fault => throw fault
  | .stopped out err =>
    let program ← match l.command with
      | [] => throw (.beyondEnd "tuple")
      | program :: _ => pure program
    let limit ← .lift l.limit.toText
    .atom (Run.log .warning loggerName (program ++ " timed out after " ++ limit ++ " seconds"))
    return {
      command := l.command
      exitCode := Option.none
      output := CompilerOutput.joinChannels out.shown err.shown
      elapsed
      timedOut := true
      out := out.shown }
  | .exited code out err =>
    return {
      command := l.command
      exitCode := some code
      output := CompilerOutput.joinChannels out err
      elapsed
      out }

def probeSteps (command : List String) (limit : Value) : Steps Bool :=
  tryCatch (do return (← runSteps { command, limit }).succeeded) fun fault =>
    match fault with
    | .system e => do
      .atom (Run.log .debug loggerName
        ("Probe " ++ commandText command ++ " failed: " ++ e.message))
      return false
    | fault => throw fault

theorem runSteps_does (l : Launch) : (runSteps l).Does (run l) := by
  unfold runSteps run
  refine .bind (.atom _) fun _ => .bind (.atom _) fun h => .bind (.atom _) fun reply => ?_
  cases reply with
  | refused fault => exact .throw fault
  | exited code out err => exact .pure _
  | stopped out err =>
    cases l.command with
    | nil =>
      exact .bind (.throw _) fun _ => .bind (.lift _) fun _ => .bind (.atom _) fun _ => .pure _
    | cons program rest =>
      exact .bind (.pure _) fun _ => .bind (.lift _) fun _ => .bind (.atom _) fun _ => .pure _

theorem probeSteps_does (command : List String) (limit : Value) :
    (probeSteps command limit).Does (probe command limit) := by
  refine .tryCatch (.bind (runSteps_does _) fun _ => .pure _) fun fault => ?_
  cases fault with
  | system e => exact .bind (.atom _) fun _ => .pure _
  | _ => exact .throw _

end Tool

namespace Locator

def firstAnsweringSteps (limit : Value) : List (List String) → Steps (List String)
  | [] => return [compiler]
  | command :: rest => do
    if ← Tool.probeSteps (command ++ [versionFlag]) limit then return command
    firstAnsweringSteps limit rest

def searchSteps (l : Locator) : Steps (List String) :=
  if l.path.holds then .atom (do Run.lift (commandOfPath (← get).files l.path))
  else firstAnsweringSteps l.probeLimit candidates

/-- The question for the command. Between the look at what is known and the note of what has been
found, another run can have found it as well. -/
def resolveSteps (id : LocatorId) : Steps (List String) := do
  let l ← .atom (Run.locator id)
  match l.command with
  | some command => return command
  | Option.none =>
    let command ← searchSteps l
    .atom ((EmitLogger.ofName Tool.loggerName).toolResolution compiler (Tool.commandText command))
    .atom (do Run.setLocator id { (← Run.locator id) with command := some command })
    return command

/-- The question whether the compiler answers. -/
def isAvailableSteps (id : LocatorId) : Steps Bool := do
  let l ← .atom (Run.locator id)
  match l.available with
  | some answer => return answer
  | Option.none =>
    let command ← resolveSteps id
    let answer ← Tool.probeSteps (command ++ [versionFlag]) l.probeLimit
    .atom (do Run.setLocator id { (← Run.locator id) with available := some answer })
    if !answer then .atom (Run.log .debug Tool.loggerName "tsc is not available")
    return answer

def versionSteps (id : LocatorId) : Steps (Option String) :=
  tryCatch (do
    let l ← .atom (Run.locator id)
    let command ← resolveSteps id
    let result ← Tool.runSteps { command := command ++ [versionFlag], limit := l.probeLimit }
    let text := Text.trim result.output
    return if result.succeeded && !text.isEmpty then some text else Option.none) fun fault =>
    match fault with
    | .system _ => return Option.none
    | fault => throw fault

def requireSteps (id : LocatorId) : Steps (List String) := do
  if ← isAvailableSteps id then resolveSteps id
  else throw missing

def checkCommandSteps (id : LocatorId) (project : String) : Steps (List String) := do
  return (← resolveSteps id) ++ checkFlags ++ [project]

theorem firstAnsweringSteps_does (limit : Value) (commands : List (List String)) :
    (firstAnsweringSteps limit commands).Does (firstAnswering limit commands) := by
  induction commands with
  | nil => exact .pure _
  | cons command rest ih =>
    refine .bind (Tool.probeSteps_does _ _) fun answers => ?_
    cases answers with
    | true => exact .pure _
    | false => exact ih

theorem searchSteps_does (l : Locator) : (searchSteps l).Does (search l) := by
  unfold searchSteps search
  by_cases path : l.path.holds = true
  · rw [if_pos path, if_pos path]
    exact .atom _
  · rw [if_neg path, if_neg path]
    exact firstAnsweringSteps_does _ _

theorem resolveSteps_does (id : LocatorId) : (resolveSteps id).Does (resolve id) := by
  refine .bind (.atom _) fun l => ?_
  cases l.command with
  | some command => exact .pure _
  | none =>
    exact .bind (searchSteps_does l) fun command => .bind (.atom _) fun _ =>
      .joined fun _ => .pure _

theorem isAvailableSteps_does (id : LocatorId) :
    (isAvailableSteps id).Does (isAvailable id) := by
  refine .bind (.atom _) fun l => ?_
  cases l.available with
  | some answer => exact .pure _
  | none =>
    refine .bind (resolveSteps_does id) fun command => .bind (Tool.probeSteps_does _ _)
      fun answer => .joined fun _ => ?_
    cases answer with
    | true => exact .pure _
    | false => exact .bind (.atom _) fun _ => .pure _

theorem versionSteps_does (id : LocatorId) : (versionSteps id).Does (version id) := by
  refine .tryCatch (.bind (.atom _) fun l => .bind (resolveSteps_does id) fun command =>
    .bind (Tool.runSteps_does _) fun result => .pure _) fun fault => ?_
  cases fault with
  | system e => exact .pure _
  | _ => exact .throw _

theorem requireSteps_does (id : LocatorId) : (requireSteps id).Does (require id) := by
  refine .bind (isAvailableSteps_does id) fun answer => ?_
  cases answer with
  | true => exact resolveSteps_does id
  | false => exact .throw _

theorem checkCommandSteps_does (id : LocatorId) (project : String) :
    (checkCommandSteps id project).Does (checkCommand id project) :=
  .bind (resolveSteps_does id) fun _ => .pure _

end Locator

namespace Validator

def checkInSteps (v : Validator) (folderName : String) (source : Value) :
    Steps (List Diagnostic) := do
  let code ← .lift (codeOf source)
  let id ← .lift (v.locator.need ["get_check_command"])
  let command ← Locator.checkCommandSteps id (folderName ++ "/" ++ projectName)
  let result ← Tool.runSteps { command, limit := v.limit, folder := some (folder code) }
  let ds ← .atom (diagnosticsOf v.limit result)
  .atom (do
    (EmitLogger.ofName loggerName).validationResult (.int ds.length) (.int (errorCount ds))
      (.float (← get).runTime))
  return ds

def checkSteps (v : Validator) (source : Value) : Steps (List Diagnostic) := do
  v.checkInSteps (← .atom Run.makeFolder) source

def validateSteps (v : Validator) (source : Value) : Steps (List Diagnostic) :=
  tryCatch (v.checkSteps source) fun fault => .atom (complaint fault)

theorem validateSteps_does (v : Validator) (source : Value) :
    (v.validateSteps source).Does (v.validate source) := by
  refine .tryCatch ?_ fun fault => .atom _
  exact .bind (.atom _) fun folderName => .bind (.lift _) fun code => .bind (.lift _) fun id =>
    .bind (Locator.checkCommandSteps_does _ _) fun command => .bind (Tool.runSteps_does _)
      fun result => .bind (.atom _) fun ds => .joined fun _ => .pure _

end Validator

/-! What the calls come to on a host whose programs answer by what they are given, while others
call as well. -/

section

variable {α β : Type} {tools : Tools} {files : Files} {h : Host}

private theorem evolution : Host.Evolution (Host.Precedes tools files) :=
  ⟨.trans, fun precedes => .refl precedes.fits⟩

private theorem ends_action {x : Run α} {f : α → Steps β} {P : Except Fault β → Prop}
    (acts : ∀ h₁, Host.Precedes tools files h h₁ → ∃ a h₂, x.on h₁ = (.ok a, h₂) ∧
      Host.Precedes tools files h₁ h₂ ∧ (f a).Ends (Host.Precedes tools files) P h₂) :
    (Steps.atom x >>= f).Ends (Host.Precedes tools files) P h := by
  intro h₁ precedes
  obtain ⟨a, h₂, acted, further, later⟩ := acts h₁ precedes
  change Host.Precedes tools files h₁ (x.on h₁).2 ∧
    ((Steps.done (x.on h₁).1).bind f).Ends _ P (x.on h₁).2
  rw [acted]
  exact ⟨further, later⟩

private theorem ends_log {severity : LogSeverity} {logger message : String} {f : Unit → Steps β}
    {P : Except Fault β → Prop}
    (later : ∀ h₁, Host.Precedes tools files h h₁ →
      (f ()).Ends (Host.Precedes tools files) P h₁) :
    (Steps.atom (Run.log severity logger message) >>= f).Ends (Host.Precedes tools files) P h := by
  refine ends_action fun h₁ precedes => ?_
  have logged := Host.Precedes.logged precedes.fits severity logger message
  exact ⟨(), _, rfl, logged, later _ (precedes.trans logged)⟩

private theorem ends_locator {id : LocatorId} {path limit : Value} {f : Locator → Steps β}
    {P : Except Fault β → Prop} (placed : h.Placed id path limit)
    (later : ∀ l h₁, Host.Precedes tools files h h₁ → h₁.locators[id.index]? = some l →
      l.path = path → l.probeLimit = limit → (f l).Ends (Host.Precedes tools files) P h₁) :
    (Steps.atom (Run.locator id) >>= f).Ends (Host.Precedes tools files) P h := by
  refine ends_action fun h₁ precedes => ?_
  obtain ⟨l, there, path, limit⟩ := precedes.placed _ _ _ placed
  exact ⟨l, h₁, Run.locator_on there, .refl precedes.fits, later l h₁ precedes there path limit⟩

private theorem ends_change {id : LocatorId} {path limit : Value} {f : Unit → Steps β}
    {P : Except Fault β → Prop} (change : Locator → Locator) (placed : h.Placed id path limit)
    (same : ∀ l, (change l).path = l.path ∧ (change l).probeLimit = l.probeLimit)
    (right : ∀ l command, l.path = path → l.probeLimit = limit →
      (change l).command = some command →
      l.command = some command ∨ Locator.commandUnder tools files path limit = .ok command)
    (later : ∀ h₁, Host.Precedes tools files h h₁ →
      (f ()).Ends (Host.Precedes tools files) P h₁) :
    (Steps.atom (do Run.setLocator id (change (← Run.locator id))) >>= f).Ends
      (Host.Precedes tools files) P h := by
  refine ends_action fun h₁ precedes => ?_
  obtain ⟨l, there, path, limit⟩ := precedes.placed _ _ _ placed
  have learned : Host.Precedes tools files h₁
      { h₁ with locators := h₁.locators.set id.index (change l) } := by
    refine .learned precedes.fits there (same l).1 (same l).2 fun command known => ?_
    rcases right l command path limit known with before | found
    · exact precedes.fits.commands l (List.mem_of_getElem? there) command before
    · rw [path, limit]
      exact found
  refine ⟨(), _, ?_, learned, later _ (precedes.trans learned)⟩
  rw [Run.on_bind_ok (Run.locator_on there)]
  rfl

private theorem runSteps_ends (l : Launch) :
    (Tool.runSteps l).Ends (Host.Precedes tools files)
      (fun outcome => ∃ elapsed, outcome = Tool.outcome l elapsed (tools.reply l)) h := by
  refine ends_log fun h₁ _ => ends_action fun h₂ before =>
    ⟨h₂, h₂, rfl, .refl before.fits, ends_action fun h₃ precedes => ?_⟩
  refine ⟨tools.reply l, _, ?_, .launched precedes.fits l, ?_⟩
  · rw [← precedes.fits.under.respond h₃.launches l]
    rfl
  cases tools.reply l with
  | refused fault => exact ⟨h₂.runTime, rfl⟩
  | exited code out err => exact ⟨h₂.runTime, rfl⟩
  | stopped out err =>
    unfold Tool.outcome
    cases l.command with
    | nil => exact ⟨h₂.runTime, rfl⟩
    | cons program rest =>
      cases l.limit.toText with
      | error fault => exact ⟨h₂.runTime, rfl⟩
      | ok limit => exact ends_log fun _ _ => ⟨h₂.runTime, rfl⟩

private theorem outcome_of_ran {l : Launch} {ran : Except Fault ToolResult}
    (timed : ∃ elapsed, ran = Tool.outcome l elapsed (tools.reply l)) :
    tools.outcome l = ran.map fun r => { r with elapsed := .ofDecimal false 0 0 } := by
  obtain ⟨elapsed, rfl⟩ := timed
  exact Tool.outcome_elapsed ..

private theorem probeSteps_ends (fits : h.Fits tools files) (command : List String)
    (limit : Value) :
    (Tool.probeSteps command limit).Ends (Host.Precedes tools files)
      (· = Tool.answerOf (tools.outcome { command, limit })) h := by
  have body : Steps.Ends (Host.Precedes tools files)
      (· = (tools.outcome { command, limit }).map ToolResult.succeeded)
      (do return (← Tool.runSteps { command, limit }).succeeded) h := by
    refine (runSteps_ends _).bind evolution (.refl fits) ?_ ?_
    · intro r h₁ _ ran
      rw [outcome_of_ran ran]
      rfl
    · intro fault ran
      rw [outcome_of_ran ran]
      rfl
  refine body.tryCatch evolution (.refl fits) ?_ ?_
  · intro answer done
    cases outcome : tools.outcome { command, limit } with
    | error fault =>
      rw [outcome] at done
      cases done
    | ok r =>
      rw [outcome] at done
      exact done
  · intro fault h₁ _ done
    cases outcome : tools.outcome { command, limit } with
    | ok r =>
      rw [outcome] at done
      cases done
    | error other =>
      rw [outcome] at done
      cases done
      cases fault with
      | system e => exact ends_log fun _ _ => rfl
      | _ => exact rfl

private theorem firstAnsweringSteps_ends (fits : h.Fits tools files) (limit : Value)
    (commands : List (List String)) :
    (Locator.firstAnsweringSteps limit commands).Ends (Host.Precedes tools files)
      (· = Locator.firstOf tools limit commands) h := by
  induction commands generalizing h with
  | nil => exact rfl
  | cons command rest ih =>
    refine (probeSteps_ends fits _ _).bind_eq evolution (.refl fits) fun answer h₁ precedes _ => ?_
    cases answer with
    | true => exact rfl
    | false => exact ih precedes.fits

private theorem searchSteps_ends (fits : h.Fits tools files) {id : LocatorId} {l : Locator}
    (there : h.locators[id.index]? = some l) :
    (Locator.searchSteps l).Ends (Host.Precedes tools files)
      (· = Locator.commandUnder tools files l.path l.probeLimit) h := by
  unfold Locator.searchSteps Locator.commandUnder
  by_cases path : l.path.holds = true
  · rw [if_pos path, if_pos path]
    intro h₁ precedes
    obtain ⟨l', there, samePath, _⟩ := precedes.placed id _ _ ⟨l, there, rfl, rfl⟩
    have sees := precedes.fits.sees l' (List.mem_of_getElem? there)
    rw [samePath] at sees
    have same := Locator.commandOfPath_congr sees
    have looked : Run.on (do Run.lift (Locator.commandOfPath (← get).files l.path)) h₁ =
        (Locator.commandOfPath files l.path, h₁) := by
      rw [Run.on_bind_ok (Run.on_get h₁), same]
      cases Locator.commandOfPath files l.path <;> rfl
    change Host.Precedes tools files h₁ (Run.on _ h₁).2 ∧ (Run.on _ h₁).1 = _
    rw [looked]
    exact ⟨.refl precedes.fits, rfl⟩
  · rw [if_neg path, if_neg path]
    exact firstAnsweringSteps_ends fits _ _

private theorem resolveSteps_ends {id : LocatorId} {path limit : Value}
    (placed : h.Placed id path limit) :
    (Locator.resolveSteps id).Ends (Host.Precedes tools files)
      (· = Locator.commandUnder tools files path limit) h := by
  refine ends_locator placed ?_
  rintro l h₁ precedes there rfl rfl
  cases known : l.command with
  | some command =>
    exact (precedes.fits.commands l (List.mem_of_getElem? there) command known).symm
  | none =>
    refine (searchSteps_ends precedes.fits there).bind evolution (.refl precedes.fits) ?_
      fun _ failed => failed
    intro command h₂ further found
    refine ends_log fun h₃ more => ends_change (fun l => { l with command := some command })
      (((precedes.trans further).trans more).placed _ _ _ placed) (fun _ => ⟨rfl, rfl⟩) ?_
      fun _ _ => found
    rintro _ _ - - ⟨⟩
    exact .inr found.symm

private theorem isAvailableSteps_ends {id : LocatorId} {path limit : Value}
    (placed : h.Placed id path limit) :
    (Locator.isAvailableSteps id).Ends (Host.Precedes tools files) (fun _ => True) h := by
  refine ends_locator placed fun l h₁ precedes _ _ _ => ?_
  cases l.available with
  | some answer => exact trivial
  | none =>
    have placed := precedes.placed _ _ _ placed
    refine (resolveSteps_ends placed).bind evolution (.refl precedes.fits) ?_ fun _ _ => trivial
    intro command h₂ further _
    refine (probeSteps_ends further.fits _ _).bind evolution (.refl further.fits) ?_
      fun _ _ => trivial
    intro answer h₃ more _
    refine ends_change (fun l => { l with available := some answer })
      ((further.trans more).placed _ _ _ placed) (fun _ => ⟨rfl, rfl⟩)
      (fun _ _ _ _ known => .inl known) fun _ _ => ?_
    cases answer with
    | true => exact trivial
    | false => exact ends_log fun _ _ => trivial

private theorem versionSteps_ends (fits : h.Fits tools files) {id : LocatorId}
    {path limit : Value} (placed : h.Placed id path limit) :
    (Locator.versionSteps id).Ends (Host.Precedes tools files) (fun _ => True) h := by
  refine Steps.Ends.tryCatch (P := fun _ => True) ?_ evolution (.refl fits) (fun _ _ => trivial) ?_
  · refine ends_locator placed fun l h₁ precedes _ _ _ => ?_
    refine (resolveSteps_ends (precedes.placed _ _ _ placed)).bind evolution
      (.refl precedes.fits) ?_ fun _ _ => trivial
    intro command h₂ further _
    exact (runSteps_ends _).bind evolution (.refl further.fits)
      (fun _ _ _ _ => trivial) fun _ _ => trivial
  · intro fault h₁ _ _
    cases fault <;> exact trivial

private theorem requireSteps_ends (fits : h.Fits tools files) {id : LocatorId}
    {path limit : Value} (placed : h.Placed id path limit) :
    (Locator.requireSteps id).Ends (Host.Precedes tools files) (fun _ => True) h := by
  refine (isAvailableSteps_ends placed).bind evolution (.refl fits) ?_ fun _ _ => trivial
  intro answer h₁ precedes _
  cases answer with
  | true => exact (resolveSteps_ends (precedes.placed _ _ _ placed)).imp fun _ _ => trivial
  | false => exact trivial

private theorem checkCommandSteps_ends (fits : h.Fits tools files) {id : LocatorId}
    {path limit : Value} (placed : h.Placed id path limit) (project : String) :
    (Locator.checkCommandSteps id project).Ends (Host.Precedes tools files)
      (· = Locator.checkCommandUnder tools files path limit project) h :=
  (resolveSteps_ends placed).bind_eq evolution (.refl fits) fun _ _ _ _ => rfl

private theorem report_ends (fits : h.Fits tools files) (limit : Value) (r : ToolResult) :
    Steps.Ends (Host.Precedes tools files) (· = Validator.findings limit r) (do
      let ds ← .atom (Validator.diagnosticsOf limit r)
      .atom (do
        (EmitLogger.ofName Validator.loggerName).validationResult (.int ds.length)
          (.int (Validator.errorCount ds)) (.float (← get).runTime))
      return ds) h := by
  have told : (Steps.atom (Validator.diagnosticsOf limit r)).Ends (Host.Precedes tools files)
      (· = Validator.findings limit r) h := by
    intro h₁ precedes
    obtain ⟨h₂, told, recorded⟩ := Validator.diagnosticsOf_on limit r h₁
    change Host.Precedes tools files h₁ (Run.on _ h₁).2 ∧ (Run.on _ h₁).1 = _
    rw [told]
    exact ⟨.recorded precedes.fits recorded, rfl⟩
  refine told.bind evolution (.refl fits) ?_ fun _ failed => failed
  intro ds h₁ _ found
  refine ends_action fun h₂ precedes => ?_
  obtain ⟨message, told⟩ := (EmitLogger.ofName Validator.loggerName).validationResult_on ds.length
    (Validator.errorCount ds) h₂.runTime h₂
  exact ⟨(), _, (Run.on_bind_ok (Run.on_get h₂) _).trans told, .logged precedes.fits .., found⟩

private theorem checkInSteps_ends (fits : h.Fits tools files) {v : Validator} {id : LocatorId}
    (located : v.locator = .good id) {path probeLimit : Value}
    (placed : h.Placed id path probeLimit) (name : String) (source : Value) :
    (v.checkInSteps name source).Ends (Host.Precedes tools files)
      (· = Validator.examined tools files path probeLimit v.limit name source) h := by
  unfold Validator.checkInSteps Validator.examined
  rw [located]
  cases Validator.codeOf source with
  | error fault => exact rfl
  | ok code =>
    refine (checkCommandSteps_ends fits placed _).bind_eq evolution (.refl fits) ?_
    intro command h₁ precedes _
    refine (runSteps_ends _).bind evolution (.refl precedes.fits) ?_ ?_
    · intro r h₂ further ran
      rw [outcome_of_ran ran]
      exact report_ends further.fits v.limit r
    · intro fault ran
      rw [outcome_of_ran ran]
      rfl

private theorem named_ends (fits : h.Fits tools files) {v : Validator} {id : LocatorId}
    (located : v.locator = .good id) {path probeLimit : Value}
    (placed : h.Placed id path probeLimit) (name : String) (source : Value) :
    Steps.Ends (Host.Precedes tools files)
      (· = .ok (Validator.verdict tools files path probeLimit v.limit name source))
      (tryCatch (v.checkInSteps name source) fun fault => .atom (Validator.complaint fault)) h := by
  refine (checkInSteps_ends fits located placed name source).tryCatch evolution (.refl fits) ?_ ?_
  · intro ds found
    rw [Validator.verdict, ← found]
  · intro fault h₁ _ failed h₂ further
    obtain ⟨h₃, told, recorded⟩ := Validator.complaint_on fault h₂
    change Host.Precedes tools files h₂ (Run.on _ h₂).2 ∧ (Run.on _ h₂).1 = _
    rw [told]
    refine ⟨.recorded further.fits recorded, ?_⟩
    rw [Validator.verdict, ← failed]

/-- Main lemma. A validation reports the verdict on the code in its directory, whoever acts in
between. -/
private theorem validateSteps_ends {v : Validator} {id : LocatorId}
    (located : v.locator = .good id) {path probeLimit : Value}
    (placed : h.Placed id path probeLimit) (source : Value) :
    (v.validateSteps source).Ends (Host.Precedes tools files)
      (fun outcome => ∃ name,
        outcome = .ok (Validator.verdict tools files path probeLimit v.limit name source)) h := by
  intro h₁ precedes
  have made := Host.Precedes.madeFolder precedes.fits
  have there := (precedes.trans made).placed _ _ _ placed
  exact ⟨made, (named_ends made.fits located there h₁.nextFolder source).imp
    fun _ told => ⟨h₁.nextFolder, told⟩⟩

end

/-! Everything that can be called while validations run. -/

/-- A call: a locator is asked something, or code is validated. -/
inductive Call where
  | inquire (id : LocatorId) (q : Inquiry)
  | validate (v : Validator) (source : Value)

def Inquiry.steps (id : LocatorId) : Inquiry → Steps Unit
  | .resolve => do let _ ← Locator.resolveSteps id
  | .isAvailable => do let _ ← Locator.isAvailableSteps id
  | .version => do let _ ← Locator.versionSteps id
  | .require => do let _ ← Locator.requireSteps id
  | .checkCommand project => do let _ ← Locator.checkCommandSteps id project

theorem Inquiry.steps_does (id : LocatorId) (q : Inquiry) : (q.steps id).Does (q.perform id) := by
  cases q with
  | resolve => exact .bind (Locator.resolveSteps_does id) fun _ => .pure _
  | isAvailable => exact .bind (Locator.isAvailableSteps_does id) fun _ => .pure _
  | version => exact .bind (Locator.versionSteps_does id) fun _ => .pure _
  | require => exact .bind (Locator.requireSteps_does id) fun _ => .pure _
  | checkCommand project =>
    exact .bind (Locator.checkCommandSteps_does id project) fun _ => .pure _

namespace Call

def steps : Call → Steps Unit
  | .inquire id q => q.steps id
  | .validate v source => do let _ ← v.validateSteps source

def Known (h : Host) : Call → Prop
  | .inquire id _ => ∃ path limit, h.Placed id path limit
  | .validate v _ => ∃ id, v.locator = .good id ∧ ∃ path limit, h.Placed id path limit

end Call

/-- The process goes on: a locator is asked for or made, something is called, a call that has begun
does an action, or the host changes in a way that concerns neither the answers of programs nor what
locators know and look at. -/
inductive Session (tools : Tools) (files : Files) : Pool Unit → Pool Unit → Prop where
  | shared {p : Pool Unit} (request : List Value) :
    p.host.Sees files (request.getLast?.getD .none) →
    Session tools files p ⟨((Locator.shared request).on p.host).2, p.tasks⟩
  | created {p : Pool Unit} (path limit : Value) :
    p.host.Sees files path →
    Session tools files p ⟨((Run.addLocator { path, probeLimit := limit }).on p.host).2, p.tasks⟩
  | called {p : Pool Unit} (c : Call) :
    c.Known p.host → Session tools files p ⟨p.host, .running c.steps :: p.tasks⟩
  | moved {p q : Pool Unit} :
    Task.MovesAmong True p.host p.tasks q.host q.tasks → Session tools files p q
  | aside {p : Pool Unit} {h : Host} :
    h.Under tools → (∀ l ∈ p.host.locators, h.Sees files l.path) →
    h.locators = p.host.locators → h.shared = p.host.shared →
    Session tools files p ⟨h, p.tasks⟩

section

variable {tools : Tools} {files : Files} {h : Host}

private theorem shared_on (fits : h.Fits tools files) (request : List Value)
    (sees : h.Sees files (request.getLast?.getD .none)) :
    ∃ outcome h', (Locator.shared request).on h = (outcome, h') ∧
      Host.Precedes tools files h h' ∧ ∀ id, outcome = .ok id → ∃ entry ∈ h'.shared,
        entry.2 = id ∧ (entry.1 = request ∨ Locator.sameRequest entry.1 request = true) := by
  unfold Locator.shared
  cases Value.itemFault? request with
  | some fault => exact ⟨.error fault, h, rfl, .refl fits, fun _ wrong => nomatch wrong⟩
  | none =>
    dsimp only
    rw [Run.on_bind_ok (Run.on_get h)]
    cases found : h.shared.find? fun entry => Locator.sameRequest entry.1 request with
    | some entry =>
      refine ⟨.ok entry.2, h, rfl, .refl fits, ?_⟩
      rintro _ ⟨⟩
      have same : Locator.sameRequest entry.1 request = true := by
        simpa using List.find?_some found
      exact ⟨entry, List.mem_of_find?_eq_some found, rfl, .inr same⟩
    | none =>
      have added := Host.Precedes.added fits sees defaultProbeLimit
      have placed : Host.Placed { h with locators := h.locators ++
          [{ path := request.getLast?.getD .none, probeLimit := defaultProbeLimit }] }
          ⟨h.locators.length⟩ (request.getLast?.getD .none) defaultProbeLimit :=
        ⟨_, List.getElem?_concat_length, rfl, rfl⟩
      refine ⟨.ok ⟨h.locators.length⟩, _, rfl,
        added.trans (.registered added.fits placed), ?_⟩
      rintro _ ⟨⟩
      exact ⟨_, List.mem_append_right _ List.mem_cons_self, rfl, .inl rfl⟩

private theorem call_ends (fits : h.Fits tools files) {c : Call} (known : c.Known h) :
    c.steps.Ends (Host.Precedes tools files) (fun _ => True) h := by
  cases c with
  | validate v source =>
    obtain ⟨id, located, path, limit, placed⟩ := known
    exact (validateSteps_ends located placed source).bind evolution (.refl fits)
      (fun _ _ _ _ => trivial) fun _ _ => trivial
  | inquire id q =>
    obtain ⟨path, limit, placed⟩ := known
    cases q with
    | resolve =>
      exact (resolveSteps_ends placed).bind evolution (.refl fits) (fun _ _ _ _ => trivial)
        fun _ _ => trivial
    | isAvailable =>
      exact (isAvailableSteps_ends placed).bind evolution (.refl fits) (fun _ _ _ _ => trivial)
        fun _ _ => trivial
    | version =>
      exact (versionSteps_ends fits placed).bind evolution (.refl fits) (fun _ _ _ _ => trivial)
        fun _ _ => trivial
    | require =>
      exact (requireSteps_ends fits placed).bind evolution (.refl fits) (fun _ _ _ _ => trivial)
        fun _ _ => trivial
    | checkCommand project =>
      exact (checkCommandSteps_ends fits placed project).bind evolution (.refl fits)
        (fun _ _ _ _ => trivial) fun _ _ => trivial

/-- What is true of a process at any time: its host fits, and the calls that have begun will leave
it so. -/
private def Going (tools : Tools) (files : Files) (p : Pool Unit) : Prop :=
  p.host.Fits tools files ∧
    ∃ Ps, List.Forall₂ (Task.Ends (Host.Precedes tools files) p.host) Ps p.tasks

private theorem session_step {p q : Pool Unit} (step : Session tools files p q)
    (going : Going tools files p) :
    Host.Precedes tools files p.host q.host ∧ Going tools files q := by
  obtain ⟨fits, Ps, ends⟩ := going
  -- Where the host changes but no call does, what the calls will do is the same as before.
  have others : ∀ {h : Host}, Host.Precedes tools files p.host h → Going tools files ⟨h, p.tasks⟩ :=
    fun precedes => ⟨precedes.fits, Ps, ends.imp fun _ _ ends => ends.later evolution precedes⟩
  cases step with
  | shared request sees =>
    obtain ⟨outcome, h₁, shared, precedes, _⟩ := shared_on fits request sees
    rw [shared]
    exact ⟨precedes, others precedes⟩
  | created path limit sees =>
    have precedes := Host.Precedes.added fits sees limit
    exact ⟨precedes, others precedes⟩
  | called c known =>
    exact ⟨.refl fits, fits, (fun _ => True) :: Ps, .cons (call_ends fits known) ends⟩
  | moved move =>
    obtain ⟨precedes, ends⟩ := move.keeps evolution (.refl fits) ends
    exact ⟨precedes, precedes.fits, Ps, ends⟩
  | aside under sees locators shared =>
    have precedes := Host.Precedes.aside fits under sees locators shared
    exact ⟨precedes, others precedes⟩

private theorem session_run {p q : Pool Unit}
    (run : Relation.ReflTransGen (Session tools files) p q) (going : Going tools files p) :
    Host.Precedes tools files p.host q.host ∧ Going tools files q := by
  induction run with
  | refl => exact ⟨.refl going.1, going⟩
  | tail _ step ih =>
    obtain ⟨precedes, going⟩ := ih
    obtain ⟨further, going⟩ := session_step step going
    exact ⟨precedes.trans further, going⟩

end

/-- Whoever has several texts checked on the host, by the checker or by the compiler if there is
none, gets the diagnostics `V` of each in a directory of some name, in the order of the texts. -/
def Checker.Decided (checker : Option (Supplied Checker)) (V : String → Value → List Diagnostic)
    (h : Host) : Prop :=
  ∀ sources items, sources.iterate = .ok items → ∀ workers : Int, 1 ≤ workers →
    ∃ reports, List.Forall₂ (fun source ds => ∃ name, ds = V name source) items reports ∧
      ((Checker.checkAll checker sources (.int workers)).on h).1 =
        .ok (reports.map fun ds => ds.map .good)

namespace Validator

/-- Everybody who has code checked by the validator on the host gets the diagnostics `V` of the code
in a directory of some name: who has it checked alone, where the name is the next one, who has
several texts checked one after the other, and who leaves them to a pool of workers that take them
up and go on in any order. -/
structure Decides (v : Validator) (V : String → Value → List Diagnostic) (h : Host) : Prop where
  alone : ∀ source, ((v.validate source).on h).1 = .ok (V h.nextFolder source)
  oneByOne : Checker.Decided (some (.good v.checker)) V h
  steps : ∀ source, (v.validateSteps source).Does (v.validate source)
  together : ∀ (sources : List Value) (workers : Nat), 1 ≤ workers →
    (Pool.start h (sources.map v.validateSteps)).Settles workers
      (sources.map fun source outcome => ∃ name, outcome = .ok (V name source))

section

variable {tools : Tools} {files : Files} {h : Host} {v : Validator} {id : LocatorId}
  {path probeLimit : Value}

private theorem validate_on (fits : h.Fits tools files) (located : v.locator = .good id)
    (placed : h.Placed id path probeLimit) (source : Value) :
    ∃ h', (v.validate source).on h =
        (.ok (verdict tools files path probeLimit v.limit h.nextFolder source), h') ∧
      Host.Precedes tools files h h' := by
  have made := Host.Precedes.madeFolder fits
  obtain ⟨outcome, precedes⟩ := (named_ends made.fits located (made.placed _ _ _ placed)
    h.nextFolder source).uninterrupted evolution (.refl made.fits)
  have does : (v.validateSteps source).on h = (v.validate source).on h :=
    validateSteps_does v source h
  exact ⟨_, does.symm.trans (Prod.ext outcome rfl), made.trans precedes⟩

private theorem each_on (fits : h.Fits tools files) (located : v.locator = .good id)
    (placed : h.Placed id path probeLimit) (sources : List Value) :
    ∃ reports, List.Forall₂ (fun source ds => ∃ name,
        ds = verdict tools files path probeLimit v.limit name source) sources reports ∧
      ((Checker.each v.checker sources).on h).1 = .ok (reports.map fun ds => ds.map .good) := by
  induction sources generalizing h with
  | nil => exact ⟨[], .nil, rfl⟩
  | cons source rest ih =>
    obtain ⟨h', validated, precedes⟩ := validate_on fits located placed source
    obtain ⟨reports, each, others⟩ := ih precedes.fits (precedes.placed _ _ _ placed)
    have checked : (v.checker source).on h = (.ok ((verdict tools files path probeLimit v.limit
        h.nextFolder source).map .good), h') := by
      unfold checker
      rw [Run.on_bind_ok validated]
      rfl
    refine ⟨_ :: reports, .cons ⟨h.nextFolder, rfl⟩ each, ?_⟩
    unfold Checker.each
    rw [Run.on_bind_ok checked, Run.on_bind]
    rcases more : (Checker.each v.checker rest).on h' with ⟨outcome, h₂⟩
    rw [more] at others
    cases others
    rfl

private theorem decided_placed (fits : h.Fits tools files) (located : v.locator = .good id)
    (placed : h.Placed id path probeLimit) :
    Checker.Decided (some (.good v.checker)) (verdict tools files path probeLimit v.limit) h := by
  intro sources items iterated workers staffed
  have enough : Checker.requireWorkers (.int workers) = .ok () := by
    change (if 0 < workers then _ else _) = _
    rw [if_pos (by omega)]
  obtain ⟨reports, told, checked⟩ := each_on fits located placed items
  refine ⟨reports, told, ?_⟩
  unfold Checker.checkAll
  simp only [pure_bind, iterated, Run.lift_ok, Value.isNone, enough, Supplied.need]
  cases items with
  | nil =>
    cases told
    rfl
  | cons source rest => exact checked

private theorem decides_placed (fits : h.Fits tools files) (located : v.locator = .good id)
    (placed : h.Placed id path probeLimit) :
    v.Decides (verdict tools files path probeLimit v.limit) h where
  alone := by
    intro source
    obtain ⟨h', validated, _⟩ := validate_on fits located placed source
    rw [validated]
  oneByOne := decided_placed fits located placed
  steps := validateSteps_does v
  together := by
    intro sources workers staffed
    refine Pool.settles_start evolution (.refl fits) staffed ?_
    rw [List.forall₂_map_left_iff, List.forall₂_map_right_iff, List.forall₂_same]
    exact fun source _ => validateSteps_ends located placed source

def IsPath : Value → Prop
  | .none => True
  | .text _ => True
  | _ => False

private theorem eq_of_sameKey {x path : Value} (isPath : IsPath path)
    (same : x.sameKey path = true) : x = path := by
  cases path with
  | none =>
    cases x with
    | none => rfl
    | _ => simp [Value.sameKey, Value.toInt?, Value.toDouble?] at same
  | text s =>
    cases x with
    | text t => rw [beq_iff_eq.mp same]
    | _ => simp [Value.sameKey, Value.toInt?, Value.toDouble?] at same
  | _ => exact isPath.elim

private theorem eq_of_sameRequest {request : List Value} (isPath : IsPath path)
    (same : Locator.sameRequest request [path] = true) : request = [path] := by
  unfold Locator.sameRequest at same
  match request with
  | [x] =>
    have equal : x.sameKey path = true := by simpa using same
    rw [eq_of_sameKey isPath equal]
  | [] => simp at same
  | _ :: _ :: _ => simp at same

private theorem shared_good (isPath : IsPath path) (h : Host) :
    ∃ id h', (Locator.shared [path]).on h = (.ok id, h') := by
  have hashable : Value.itemFault? [path] = none := by
    cases path with
    | none => rfl
    | text s => rfl
    | _ => exact isPath.elim
  unfold Locator.shared
  rw [hashable]
  dsimp only
  rw [Run.on_bind_ok (Run.on_get h)]
  cases h.shared.find? fun entry => Locator.sameRequest entry.1 [path] with
  | some entry => exact ⟨_, _, rfl⟩
  | none => exact ⟨_, _, rfl⟩

private theorem ofPath_on (fits : h.Fits tools files) (isPath : IsPath path)
    (sees : h.Sees files path) (limit : Value) :
    ∃ v id h', (ofPath path limit).on h = (.ok v, h') ∧ Host.Precedes tools files h h' ∧
      v.limit = limit ∧ v.locator = .good id ∧ h'.Placed id path defaultProbeLimit := by
  obtain ⟨outcome, h', shared, precedes, told⟩ := shared_on fits [path] sees
  obtain ⟨id, h₁, good⟩ := shared_good isPath h
  rw [good] at shared
  cases shared
  obtain ⟨entry, member, rfl, same⟩ := told id rfl
  have request : entry.1 = [path] := same.elim id (eq_of_sameRequest isPath)
  have placed := precedes.fits.shared entry member
  rw [request] at placed
  exact ⟨{ limit, locator := .good entry.2, isAvailable := Locator.isAvailable entry.2 }, entry.2,
    h', Run.on_bind_ok good _, precedes, rfl, rfl, placed⟩

private theorem checkAll_default (sources workers : Value) :
    Checker.checkAll none sources workers = (do
      let v ← ofPath .none defaultLimit
      Checker.checkAll (some (.good v.checker)) sources workers) := by
  unfold Checker.checkAll
  simp only [pure_bind]

/-- Main theorem. Suppose that programs answer a start by the command, the input and the files of
the working directory alone, and that there is a file at the path of the compiler always or never. A
validator that was made for the path at any time then gives the verdict on the code in the directory
of the validation: whatever has been called before and since, in this process and in whatever order,
and whichever calls are still on their way. So does the one that is used where none is given. If the
compiler overlooks the name of that directory, the verdict is one function of the code. -/
theorem ofPath_decides {h₀ h₁ h₂ h₃ : Host} {running later : List (Task Unit)}
    (fresh : h₀.Fresh tools)
    (before : Relation.ReflTransGen (Session tools files) ⟨h₀, []⟩ ⟨h₁, running⟩)
    (isPath : IsPath path) (sees : h₁.Sees files path) {limit : Value}
    (made : (ofPath path limit).on h₁ = (.ok v, h₂))
    (after : Relation.ReflTransGen (Session tools files) ⟨h₂, running⟩ ⟨h₃, later⟩) :
    (v.Decides (verdict tools files path defaultProbeLimit limit) h₃ ∧
      Checker.Decided none (verdict tools files .none defaultProbeLimit defaultLimit) h₃) ∧
    (tools.Overlook → ∀ name,
      v.Decides (fun _ => verdict tools files path defaultProbeLimit limit name) h₃ ∧
      Checker.Decided none (fun _ =>
        verdict tools files .none defaultProbeLimit defaultLimit name) h₃) := by
  obtain ⟨_, fits, Ps, ends⟩ := session_run before ⟨fresh.fits, [], .nil⟩
  obtain ⟨_, id, _, again, precedes, rfl, located, placed⟩ := ofPath_on fits isPath sees limit
  rw [made] at again
  cases again
  have going : Going tools files ⟨h₂, running⟩ :=
    ⟨precedes.fits, Ps, ends.imp fun _ _ ends => ends.later evolution precedes⟩
  obtain ⟨further, fits, _⟩ := session_run after going
  have decides := decides_placed fits located (further.placed _ _ _ placed)
  have byDefault : Checker.Decided none
      (verdict tools files .none defaultProbeLimit defaultLimit) h₃ := by
    intro sources items iterated workers staffed
    obtain ⟨v', _, h₄, made, precedes, limited, located, placed⟩ :=
      ofPath_on fits (show IsPath .none from trivial) nofun defaultLimit
    rw [checkAll_default, Run.on_bind_ok made, ← limited]
    exact decided_placed precedes.fits located placed sources items iterated workers staffed
  refine ⟨⟨decides, byDefault⟩, fun overlook name => ?_⟩
  have one (path limit : Value) : verdict tools files path defaultProbeLimit limit =
      fun _ => verdict tools files path defaultProbeLimit limit name :=
    funext fun name' => funext fun source =>
      verdict_overlooked overlook files path defaultProbeLimit limit name' name source
  rw [← one, ← one]
  exact ⟨decides, byDefault⟩

end

/-- The compiler runs through the package runner alone, and complains of a certain text. -/
private def sampleTools : Tools := fun command _ files =>
  if command.take 2 == ["npx", "tsc"] then
    if files == some (folder "let") then .exited 2 "emit.ts(1,4): error TS1123: Empty" ""
    else .exited 0 "Version 5.4.5" ""
  else .refused (.system (.noSuchFile (command.headD "")))

private theorem take_two_checking (command : List String) (last : String) :
    (command ++ Locator.checkFlags ++ [last]).take 2 = (command ++ Locator.checkFlags).take 2 :=
  List.take_append_of_le_length (by simp [Locator.checkFlags])

private theorem sampleTools_overlook : sampleTools.Overlook := by
  intro command name name' input files
  have head (last : String) : (command ++ Locator.checkFlags ++ [last]).headD "" =
      (command ++ Locator.checkFlags).headD "" := by
    cases command <;> rfl
  unfold sampleTools
  rw [take_two_checking, take_two_checking, head, head]

/-- A host with these programs, on which there is one locator, shared by those who name no path. -/
private def sampleHost : Host where
  respond := fun _ l => sampleTools.reply l
  locators := [{ probeLimit := defaultProbeLimit }]
  shared := [([.none], ⟨0⟩)]

private def sampleValidator : Validator where
  limit := defaultLimit
  locator := .good ⟨0⟩
  isAvailable := Locator.isAvailable ⟨0⟩

/-- The theorem at work: one validation has made its directory and has looked whether the compiler
is known, which it is not, when others begin. -/
theorem ofPath_decides_begun :
    sampleTools.Overlook ∧ ∃ (h : Host) (v : Validator) (V : Value → List Diagnostic),
      h.foldersMade = 1 ∧ h.locators.map Locator.command = [none] ∧
      v.Decides (fun _ => V) h ∧ V (.text "let x = 1;") = [] ∧
      (V (.text "let")).map Diagnostic.isError = [true] := by
  have fresh : Host.Fresh sampleTools { sampleHost with locators := [], shared := [] } :=
    ⟨⟨fun _ _ => rfl, by simp [sampleHost, LogSetup.initial]⟩, rfl, rfl⟩
  have made : (ofPath .none defaultLimit).on { sampleHost with locators := [], shared := [] } =
      (.ok sampleValidator, sampleHost) := rfl
  have begun : Session sampleTools {} ⟨sampleHost, []⟩
      ⟨sampleHost, [.running (Call.validate sampleValidator (.text "let")).steps]⟩ :=
    .called (.validate sampleValidator (.text "let")) ⟨⟨0⟩, rfl, .none, _, _, rfl, rfl, rfl⟩
  obtain ⟨makes, rest, looks, others, first, second, reached⟩ : ∃ makes rest looks others,
      (Call.validate sampleValidator (.text "let")).steps = .next makes rest ∧
      rest sampleHost = .next looks others ∧
      looks (makes sampleHost) = { sampleHost with foldersMade := 1 } :=
    ⟨_, _, _, _, rfl, rfl, rfl⟩
  rw [first] at begun
  have hasMade : Session sampleTools {} ⟨sampleHost, [.running (.next makes rest)]⟩
      ⟨makes sampleHost, [.running (rest sampleHost)]⟩ := .moved (.here .act)
  rw [second] at hasMade
  have hasLooked : Session sampleTools {} ⟨makes sampleHost, [.running (.next looks others)]⟩
      ⟨looks (makes sampleHost), [.running (others (makes sampleHost))]⟩ := .moved (.here .act)
  have sees : sampleHost.Sees {} .none := by
    intro s wrong
    cases wrong
  obtain ⟨_, decides⟩ := ofPath_decides fresh .refl (show IsPath .none from trivial) sees made
    (.tail (.tail (.tail .refl begun) hasMade) hasLooked)
  rw [reached] at decides
  exact ⟨sampleTools_overlook, _, sampleValidator, _, rfl, rfl,
    (decides sampleTools_overlook "tsemit-").1, by decide +kernel, by decide +kernel⟩

/-- A compiler that complains of every project by its path. -/
private def namingTools : Tools := fun command _ _ =>
  .exited 1 ("error TS5058: " ++ command.getLastD "") ""

/-- A compiler that is started by two words and accepts everything, while nothing else works. -/
private def spacedTools : Tools := fun command _ _ =>
  if command.take 2 == ["my", "tsc"] then .exited 0 "" "" else .exited 1 "error TS1: No" ""

private theorem spacedTools_overlook : spacedTools.Overlook := by
  intro command name name' input files
  unfold spacedTools
  rw [take_two_checking, take_two_checking]

private def hostOf (tools : Tools) : Host where
  respond _ l := tools.reply l

private def validatedTwice : Run (List Diagnostic × List Diagnostic) := do
  let v ← ofPath .none defaultLimit
  return (← v.validate "x", ← v.validate "x")

/-- One text, validated by two validators for one path. Between them a file appears there. -/
private def validatedAround : Run (List Diagnostic × List Diagnostic) := do
  let v ← ofPath "my tsc" defaultLimit
  let first ← v.validate "x"
  Run.changeFiles fun f => f.put ["my tsc"] (.text "")
  let id ← Locator.shared ["tsc_path", "my tsc"]
  return (first, ← Validator.validate { v with locator := .good id } "x")

private def messages? (x : Run (List Diagnostic × List Diagnostic)) (h : Host) :
    Option (List String × List String) :=
  (x.on h).1.toOption.map fun (first, second) =>
    (first.map fun d => d.message.textOf, second.map fun d => d.message.textOf)

/-- Neither the name of the directory nor a file at the path of the compiler can be left aside. A
compiler that tells the name has one text rejected in two ways. Where a file appears at the path,
validators that search for the compiler before and after do not agree, though it overlooks names. -/
theorem ofPath_undecided :
    ((hostOf namingTools).Fresh namingTools ∧
      messages? validatedTwice (hostOf namingTools) =
        some (["error TS5058: tsemit-0/tsconfig.json"],
          ["error TS5058: tsemit-1/tsconfig.json"])) ∧
    (hostOf spacedTools).Fresh spacedTools ∧ spacedTools.Overlook ∧
      messages? validatedAround (hostOf spacedTools) = some ([], ["error TS1: No"]) := by
  have fresh (tools : Tools) : (hostOf tools).Fresh tools :=
    ⟨⟨fun _ _ => rfl, by simp [hostOf, LogSetup.initial]⟩, rfl, rfl⟩
  exact ⟨⟨fresh _, by decide +kernel⟩, fresh _, spacedTools_overlook, by decide +kernel⟩

end Validator

end TypeScriptGen
