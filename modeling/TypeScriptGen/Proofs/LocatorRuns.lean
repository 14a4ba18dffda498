import TypeScriptGen.Proofs.Probing
import TypeScriptGen.Proofs.Steps

/-!
A locator as a state machine: any number of calls in any order, on a host whose programs answer each
start as they like. Main statement: what a call has found out stays so, and is told from then on
without starting a program; which command is found depends on the first two probes alone; and all
calls together start at most two programs to find the compiler, one to see whether it answers, and
one for each question about its version.
-/

set_option autoImplicit false
set_option relaxedAutoImplicit false

namespace TypeScriptGen

/-- Programs end, are stopped or are refused by the system, each time as they like. -/
def Host.Ordinary (h : Host) : Prop :=
  ∀ history l fault, h.respond history l = .refused fault → ∃ e, fault = .system e

def Host.Holds (h : Host) (id : LocatorId) (l : Locator) : Prop := h.locators[id.index]? = some l

/-- Between the two hosts exactly the given programs were started, the latest first, and on the
second one the locator with the number is the given one. -/
structure Host.Turns (id : LocatorId) (new : List Launch) (l : Locator) (h h' : Host) : Prop where
  respond : h'.respond = h.respond
  launches : h'.launches = new ++ h.launches
  holds : h'.Holds id l

namespace Host

theorem Ordinary.of_respond {h h' : Host} (ordinary : h.Ordinary)
    (respond : h'.respond = h.respond) : h'.Ordinary := by
  unfold Ordinary
  rw [respond]
  exact ordinary

namespace Turns

variable {id : LocatorId} {l l' : Locator} {new newer : List Launch} {h h₁ h₂ : Host}

theorem refl (holds : h.Holds id l) : Turns id [] l h h := ⟨rfl, rfl, holds⟩

theorem trans (first : Turns id new l h h₁) (second : Turns id newer l' h₁ h₂) :
    Turns id (newer ++ new) l' h h₂ where
  respond := second.respond.trans first.respond
  launches := by rw [second.launches, first.launches, List.append_assoc]
  holds := second.holds

theorem ofAdvances (holds : h.Holds id l) (advances : h.Advances new h₁) :
    Turns id new l h h₁ where
  respond := advances.respond
  launches := advances.launches
  holds := by
    unfold Holds
    rw [advances.locators]
    exact holds

theorem set (turns : Turns id new l h h₁) (l' : Locator) :
    Turns id new l' h { h₁ with locators := h₁.locators.set id.index l' } where
  respond := turns.respond
  launches := turns.launches
  holds := by
    obtain ⟨bound, _⟩ := List.getElem?_eq_some_iff.mp turns.holds
    exact List.getElem?_set_self bound

theorem logged (turns : Turns id new l h h₁) (severity : LogSeverity) (logger message : String) :
    Turns id new l h (h₁.logged severity logger message) where
  respond := (respond_logged ..).trans turns.respond
  launches := (launches_logged ..).trans turns.launches
  holds := by
    unfold Holds
    rw [locators_logged]
    exact turns.holds

end Turns

end Host

theorem Run.locator_on {id : LocatorId} {l : Locator} {h : Host} (holds : h.Holds id l) :
    (Run.locator id).on h = (.ok l, h) := by
  have same : h.locators.getD id.index default = l := by
    rw [List.getD_eq_getElem?_getD, holds]
    rfl
  rw [← same]
  rfl

inductive Inquiry where
  | resolve
  | isAvailable
  | version
  | require
  | checkCommand (project : String)
deriving DecidableEq, Repr

namespace Inquiry

/-- The call wants to know whether the compiler answers. -/
def asks : Inquiry → Bool
  | .isAvailable | .require => true
  | .resolve | .version | .checkCommand _ => false

def perform (id : LocatorId) : Inquiry → Run Unit
  | .resolve => do let _ ← Locator.resolve id
  | .isAvailable => do let _ ← Locator.isAvailable id
  | .version => do let _ ← Locator.version id
  | .require => do let _ ← Locator.require id
  | .checkCommand project => do let _ ← Locator.checkCommand id project

def performAll (id : LocatorId) : List Inquiry → Host → Host
  | [], h => h
  | q :: rest, h => performAll id rest ((q.perform id).on h).2

/-- The number of programs that calls start once the command is known: one for the first call that
asks whether the compiler answers, unless that has been asked before, and one for each question
about the version. -/
def expense (asked : Bool) (calls : List Inquiry) : Nat :=
  (if !asked && calls.any asks then 1 else 0) + calls.count .version

private theorem expense_cons (asked : Bool) (q : Inquiry) (rest : List Inquiry) :
    expense asked (q :: rest) = expense (asked || q.asks) rest + expense asked [q] := by
  unfold expense
  rw [List.any_cons, List.any_cons, List.count_cons, List.count_cons]
  cases asked <;> cases q.asks <;> simp <;> omega

end Inquiry

namespace Locator

def missing : Fault := .toolMissing compiler "install TypeScript or set TSEMIT_TSC_PATH"

def probing (l : Locator) (command : List String) : Launch where
  command := command ++ [versionFlag]
  limit := l.probeLimit

def firstReply (l : Locator) (h : Host) : Reply :=
  h.respond h.launches (l.probing [compiler])

/-- The reply of a host to the probe of the compiler through the package runner, behind the probe of
the compiler itself. -/
def secondReply (l : Locator) (h : Host) : Reply :=
  h.respond (l.probing [compiler] :: h.launches) (l.probing [packageRunner, compiler])

def found (l : Locator) (h : Host) : Except Fault (List String) :=
  if l.path.holds then commandOfPath h.files l.path
  else if (l.firstReply h).succeeds then .ok [compiler]
  else if (l.secondReply h).succeeds then .ok [packageRunner, compiler]
  else .ok [compiler]

/-- The programs that a search on a host starts, the latest first. -/
def searches (l : Locator) (h : Host) : List Launch :=
  if l.path.holds then []
  else if (l.firstReply h).succeeds then [l.probing [compiler]]
  else [l.probing [packageRunner, compiler], l.probing [compiler]]

end Locator

namespace Tool

private theorem outcome_ordinary {l : Launch} (filled : l.command ≠ [])
    (limited : Succeeds l.limit.toText) (elapsed : Binary64) {reply : Reply}
    (ordinary : ∀ fault, reply = .refused fault → ∃ e, fault = .system e) :
    (∃ r, outcome l elapsed reply = .ok r ∧ r.succeeded = reply.succeeds) ∨
      (∃ e, outcome l elapsed reply = .error (.system e)) ∧ reply.succeeds = false := by
  cases reply with
  | refused fault =>
    obtain ⟨e, rfl⟩ := ordinary fault rfl
    exact .inr ⟨⟨e, rfl⟩, rfl⟩
  | exited code out err =>
    refine .inl ⟨_, rfl, ?_⟩
    simp [ToolResult.succeeded, Reply.succeeds]
  | stopped out err =>
    obtain ⟨limit, shown⟩ := limited
    obtain ⟨program, rest, command⟩ := List.exists_cons_of_ne_nil filled
    refine .inl ⟨_, by simp [outcome, command, shown]; rfl, ?_⟩
    simp [ToolResult.succeeded, Reply.succeeds]

private theorem answerOf_ordinary {l : Launch} (filled : l.command ≠ [])
    (limited : Succeeds l.limit.toText) (elapsed : Binary64) {reply : Reply}
    (ordinary : ∀ fault, reply = .refused fault → ∃ e, fault = .system e) :
    answerOf (outcome l elapsed reply) = .ok reply.succeeds := by
  rcases outcome_ordinary filled limited elapsed ordinary with ⟨r, ran, same⟩ | ⟨⟨e, refused⟩, not⟩
  · rw [ran, answerOf, same]
  · rw [refused, answerOf, not]

end Tool

namespace Locator

variable {h : Host} {id : LocatorId} {l : Locator}

private theorem probing_on (ordinary : h.Ordinary) (limited : Succeeds l.probeLimit.toText)
    (command : List String) :
    ∃ h', (Tool.probe (command ++ [versionFlag]) l.probeLimit).on h =
        (.ok (h.respond h.launches (l.probing command)).succeeds, h') ∧
      h.Advances [l.probing command] h' := by
  obtain ⟨h', probed, advances⟩ := Tool.probe_on (command ++ [versionFlag]) l.probeLimit h
  refine ⟨h', ?_, advances⟩
  rw [probed]
  have answered := Tool.answerOf_ordinary (l := l.probing command) (by simp [probing]) limited
    h.runTime (ordinary h.launches (l.probing command))
  exact congrArg (·, h') answered

private theorem search_on (ordinary : h.Ordinary) (limited : Succeeds l.probeLimit.toText) :
    ∃ h', (search l).on h = (l.found h, h') ∧ h.Advances (l.searches h) h' := by
  unfold search found searches
  by_cases path : l.path.holds = true
  · rw [if_pos path, if_pos path, if_pos path, Run.on_bind_ok (Run.on_get h)]
    cases commandOfPath h.files l.path <;> exact ⟨h, rfl, .refl h⟩
  rw [if_neg path, if_neg path, if_neg path]
  obtain ⟨h₁, first, advances⟩ := probing_on ordinary limited [compiler]
  unfold candidates firstAnswering
  rw [Run.on_bind_ok first]
  change ∃ h', (if (l.firstReply h).succeeds = true then _ else _ : Run (List String)).on h₁ = _ ∧ _
  by_cases answers : (l.firstReply h).succeeds = true
  · rw [if_pos answers, if_pos answers, if_pos answers]
    exact ⟨h₁, rfl, advances⟩
  rw [if_neg answers, if_neg answers, if_neg answers]
  obtain ⟨h₂, second, advancesAgain⟩ :=
    probing_on (ordinary.of_respond advances.respond) limited [packageRunner, compiler]
  have reply : h₁.respond h₁.launches (l.probing [packageRunner, compiler]) = l.secondReply h := by
    rw [advances.respond, advances.launches]
    rfl
  rw [reply] at second
  unfold firstAnswering
  rw [Run.on_bind_ok second]
  refine ⟨h₂, ?_, advances.trans advancesAgain⟩
  by_cases answers : (l.secondReply h).succeeds = true
  · rw [if_pos answers, if_pos answers]
    rfl
  · rw [if_neg answers, if_neg answers]
    rfl

/-! The single calls. -/

private theorem resolve_known {command : List String} (holds : h.Holds id l)
    (known : l.command = some command) : (resolve id).on h = (.ok command, h) := by
  unfold resolve
  rw [Run.on_bind_ok (Run.locator_on holds), known]
  rfl

private theorem resolve_finds {command : List String} (holds : h.Holds id l)
    (unknown : l.command = none) (ordinary : h.Ordinary) (limited : Succeeds l.probeLimit.toText)
    (finds : l.found h = .ok command) :
    ∃ h', (resolve id).on h = (.ok command, h') ∧
      h.Turns id (l.searches h) { l with command := some command } h' := by
  obtain ⟨h₁, searched, advances⟩ := search_on ordinary limited
  rw [finds] at searched
  unfold resolve
  rw [Run.on_bind_ok (Run.locator_on holds), unknown]
  change ∃ h', Run.on (search l >>= _) h = _ ∧ _
  rw [Run.on_bind_ok searched]
  have turned := (Host.Turns.ofAdvances holds advances).logged .debug
    (EmitLogger.ofName Tool.loggerName).name
    ("Resolved " ++ compiler ++ " to '" ++ Tool.commandText command ++ "'")
  have told : ((EmitLogger.ofName Tool.loggerName).toolResolution compiler
      (Tool.commandText command)).on h₁ = (.ok (), h₁.logged .debug
        (EmitLogger.ofName Tool.loggerName).name
        ("Resolved " ++ compiler ++ " to '" ++ Tool.commandText command ++ "'")) := rfl
  rw [Run.on_bind_ok told, Run.on_bind_ok (Run.locator_on turned.holds)]
  exact ⟨_, rfl, turned.set _⟩

private theorem numberFault_ne_system (v : Value) (n : Int) (e : SystemError) :
    numberFault v n ≠ .system e := by
  intro same
  unfold numberFault at same
  split at same
  · cases same
  · split at same
    · cases same
    · split at same <;> cases same

private theorem commandOfPath_error {files : Files} {path : Value} {fault : Fault}
    (fails : commandOfPath files path = .error fault) (e : SystemError) : fault ≠ .system e := by
  rintro rfl
  unfold commandOfPath at fails
  split at fails
  · split at fails
    · cases fails
    · unfold wordsOf at fails
      split at fails <;> cases fails
  · split at fails
    · injection fails with same
      exact numberFault_ne_system _ _ e same
    · cases fails

private theorem resolve_fails {fault : Fault} (holds : h.Holds id l)
    (unknown : l.command = none) (fails : l.found h = .error fault) :
    (resolve id).on h = (.error fault, h) ∧ ∀ e, fault ≠ .system e := by
  unfold found at fails
  cases path : l.path.holds with
  | false =>
    rw [path, if_neg (by decide)] at fails
    split at fails
    · cases fails
    · split at fails <;> cases fails
  | true =>
  rw [path, if_pos rfl] at fails
  refine ⟨?_, commandOfPath_error fails⟩
  have searched : (search l).on h = (.error fault, h) := by
    unfold search
    rw [if_pos path, Run.on_bind_ok (Run.on_get h), fails]
    rfl
  unfold resolve
  rw [Run.on_bind_ok (Run.locator_on holds), unknown]
  exact Run.on_bind_error searched _

private theorem isAvailable_known {answer : Bool} (holds : h.Holds id l)
    (known : l.available = some answer) : (isAvailable id).on h = (.ok answer, h) := by
  unfold isAvailable
  rw [Run.on_bind_ok (Run.locator_on holds), known]
  rfl

private theorem isAvailable_asks {command : List String} (holds : h.Holds id l)
    (known : l.command = some command) (unknown : l.available = none) (ordinary : h.Ordinary)
    (limited : Succeeds l.probeLimit.toText) :
    ∃ answer h', (isAvailable id).on h = (.ok answer, h') ∧
      h.Turns id [l.probing command] { l with available := some answer } h' := by
  obtain ⟨h₁, probed, advances⟩ := probing_on ordinary limited command
  have turned := Host.Turns.ofAdvances holds advances
  have stored (answer : Bool) : (Run.setLocator id { l with available := some answer }).on h₁ =
      (.ok (), { h₁ with
        locators := h₁.locators.set id.index { l with available := some answer } }) := rfl
  unfold isAvailable
  rw [Run.on_bind_ok (Run.locator_on holds), unknown]
  change ∃ answer h', Run.on (resolve id >>= _) h = _ ∧ _
  rw [Run.on_bind_ok (resolve_known holds known), Run.on_bind_ok probed,
    Run.on_bind_ok (Run.locator_on turned.holds), Run.on_bind_ok (stored _)]
  cases (h.respond h.launches (l.probing command)).succeeds with
  | true => exact ⟨true, _, rfl, turned.set _⟩
  | false => exact ⟨false, _, rfl, (turned.set _).logged _ _ _⟩

private theorem version_known {command : List String} (holds : h.Holds id l)
    (known : l.command = some command) (ordinary : h.Ordinary)
    (limited : Succeeds l.probeLimit.toText) :
    ∃ text h', (version id).on h = (.ok text, h') ∧ h.Turns id [l.probing command] l h' := by
  obtain ⟨h₁, ran, advances⟩ :=
    Tool.run_on { command := command ++ [versionFlag], limit := l.probeLimit } h
  have turned := Host.Turns.ofAdvances holds advances
  unfold version
  rw [Run.on_tryCatch, Run.on_bind_ok (Run.locator_on holds),
    Run.on_bind_ok (resolve_known holds known), Run.on_bind, ran]
  rcases Tool.outcome_ordinary (l := l.probing command) (by simp [probing]) limited h.runTime
    (ordinary h.launches (l.probing command)) with ⟨r, same, _⟩ | ⟨⟨e, refused⟩, _⟩
  · unfold probing at same
    rw [same]
    exact ⟨_, h₁, rfl, turned⟩
  · unfold probing at refused
    rw [refused]
    exact ⟨none, h₁, rfl, turned⟩

private theorem require_known {command : List String} {answer : Bool} (holds : h.Holds id l)
    (known : l.command = some command) (asked : l.available = some answer) :
    (require id).on h = (if answer then .ok command else .error missing, h) := by
  unfold require
  rw [Run.on_bind_ok (isAvailable_known holds asked)]
  cases answer with
  | true => exact resolve_known holds known
  | false => rfl

private theorem checkCommand_known {command : List String} (holds : h.Holds id l)
    (known : l.command = some command) (project : String) :
    (checkCommand id project).on h = (.ok (command ++ checkFlags ++ [project]), h) := by
  unfold checkCommand
  rw [Run.on_bind_ok (resolve_known holds known)]
  rfl

end Locator

namespace Inquiry

open Locator

variable {h : Host} {id : LocatorId} {l : Locator}

private theorem after_discard {α : Type} (x : Run α) (h : Host) :
    (Run.on (do let _ ← x) h).2 = (x.on h).2 := by
  rw [Run.on_bind]
  rcases x.on h with ⟨_ | _, h'⟩ <;> rfl

private theorem expense_free (asked : Bool) {q : Inquiry} (quiet : q.asks = false)
    (other : q ≠ .version) : expense asked [q] = 0 := by
  simp [expense, quiet, other]

private theorem expense_version (asked : Bool) : expense asked [.version] = 1 := by
  simp [expense, asks]

private theorem expense_asks (asked : Bool) {q : Inquiry} (loud : q.asks = true) :
    expense asked [q] = if asked then 0 else 1 := by
  have other : q ≠ .version := by
    rintro rfl
    cases loud
  cases asked <;> simp [expense, loud, other]

private theorem isAvailable_cases {command : List String} (holds : h.Holds id l)
    (known : l.command = some command) (ordinary : h.Ordinary)
    (limited : Succeeds l.probeLimit.toText) :
    ∃ answer h', (Locator.isAvailable id).on h = (.ok answer, h') ∧
      h.Turns id (List.replicate (if l.available.isSome then 0 else 1) (l.probing command))
        { l with available := some answer } h' ∧
      ∀ before, l.available = some before → before = answer := by
  cases stored : l.available with
  | some answer =>
    have still : h.Holds id { l with available := some answer } := by
      rw [← stored]
      exact holds
    exact ⟨answer, h, isAvailable_known holds stored, .refl still, by simp⟩
  | none =>
    obtain ⟨answer, h', asked, turns⟩ := isAvailable_asks holds known stored ordinary limited
    exact ⟨answer, h', asked, turns, by simp⟩

private theorem perform_known {command : List String} (q : Inquiry) (holds : h.Holds id l)
    (known : l.command = some command) (ordinary : h.Ordinary)
    (limited : Succeeds l.probeLimit.toText) :
    ∃ available, h.Turns id (List.replicate (expense l.available.isSome [q]) (l.probing command))
        { l with available } ((q.perform id).on h).2 ∧
      (∀ answer, l.available = some answer → available = some answer) ∧
      available.isSome = (l.available.isSome || q.asks) := by
  obtain ⟨answer, h₁, answered, asking, same⟩ := isAvailable_cases holds known ordinary limited
  have keeps : ∀ before, l.available = some before → some answer = some before :=
    fun before stored => congrArg some (same before stored).symm
  cases q with
  | resolve =>
    refine ⟨l.available, ?_, fun _ stored => stored, by simp [asks]⟩
    rw [expense_free _ rfl (by decide), perform, after_discard, resolve_known holds known]
    exact .refl holds
  | checkCommand project =>
    refine ⟨l.available, ?_, fun _ stored => stored, by simp [asks]⟩
    rw [expense_free _ rfl (by simp), perform, after_discard, checkCommand_known holds known]
    exact .refl holds
  | version =>
    obtain ⟨text, h', told, turns⟩ := version_known holds known ordinary limited
    refine ⟨l.available, ?_, fun _ stored => stored, by simp [asks]⟩
    rw [expense_version, perform, after_discard, told]
    exact turns
  | isAvailable =>
    refine ⟨some answer, ?_, keeps, by simp [asks]⟩
    rw [expense_asks _ rfl, perform, after_discard, answered]
    exact asking
  | require =>
    refine ⟨some answer, ?_, keeps, by simp [asks]⟩
    have still : ((Locator.require id).on h).2 = h₁ := by
      unfold Locator.require
      rw [Run.on_bind_ok answered]
      cases answer with
      | true => exact congrArg Prod.snd (resolve_known asking.holds known)
      | false => rfl
    rw [expense_asks _ rfl, perform, after_discard, still]
    exact asking

private theorem performAll_known {command : List String} (calls : List Inquiry)
    (holds : h.Holds id l) (known : l.command = some command) (ordinary : h.Ordinary)
    (limited : Succeeds l.probeLimit.toText) :
    ∃ available, h.Turns id (List.replicate (expense l.available.isSome calls) (l.probing command))
        { l with available } (performAll id calls h) ∧
      (∀ answer, l.available = some answer → available = some answer) ∧
      available.isSome = (l.available.isSome || calls.any asks) := by
  induction calls generalizing h l with
  | nil => exact ⟨l.available, by simpa [expense] using .refl holds, by simp, by simp⟩
  | cons q rest ih =>
    obtain ⟨between, turns, keeps, isSome⟩ := perform_known q holds known ordinary limited
    obtain ⟨available, later, keepsOn, isSomeThen⟩ :=
      ih turns.holds known (ordinary.of_respond turns.respond) limited
    refine ⟨available, ?_, fun answer stored => keepsOn answer (keeps answer stored), ?_⟩
    · rw [expense_cons, ← List.replicate_append_replicate, ← isSome]
      exact turns.trans later
    · rw [isSomeThen, List.any_cons, ← Bool.or_assoc]
      exact congrArg (· || rest.any asks) isSome

private theorem isAvailable_resolving {command : List String} {h₁ : Host}
    (holds : h.Holds id l) (unasked : l.available = none)
    (resolved : (Locator.resolve id).on h = (.ok command, h₁))
    (after : h₁.Holds id { l with command := some command }) :
    (Locator.isAvailable id).on h = (Locator.isAvailable id).on h₁ := by
  have again : (Locator.resolve id).on h₁ = (.ok command, h₁) := resolve_known after rfl
  unfold Locator.isAvailable
  rw [Run.on_bind_ok (Run.locator_on holds), Run.on_bind_ok (Run.locator_on after), unasked]
  change Run.on (Locator.resolve id >>= _) h = Run.on (Locator.resolve id >>= _) h₁
  rw [Run.on_bind_ok resolved, Run.on_bind_ok again]

private theorem isAvailable_fails {fault : Fault} (holds : h.Holds id l)
    (unasked : l.available = none) (failed : (Locator.resolve id).on h = (.error fault, h)) :
    (Locator.isAvailable id).on h = (.error fault, h) := by
  unfold Locator.isAvailable
  rw [Run.on_bind_ok (Run.locator_on holds), unasked]
  exact Run.on_bind_error failed _

/-- Where nothing is known, every call looks for the command first. Afterwards it does what it would
do had it been asked then. -/
private theorem perform_resolving {command : List String} {h₁ : Host} (q : Inquiry)
    (holds : h.Holds id l) (unasked : l.available = none)
    (resolved : (Locator.resolve id).on h = (.ok command, h₁))
    (after : h₁.Holds id { l with command := some command }) :
    (q.perform id).on h = (q.perform id).on h₁ := by
  have again : (Locator.resolve id).on h₁ = (.ok command, h₁) := resolve_known after rfl
  have same : (Locator.resolve id).on h = (Locator.resolve id).on h₁ := resolved.trans again.symm
  have asking := isAvailable_resolving holds unasked resolved after
  cases q with
  | resolve => rw [perform, Run.on_bind, Run.on_bind, same]
  | isAvailable => rw [perform, Run.on_bind, Run.on_bind, asking]
  | version =>
    have telling : (Locator.version id).on h = (Locator.version id).on h₁ := by
      unfold Locator.version
      rw [Run.on_tryCatch, Run.on_tryCatch, Run.on_bind_ok (Run.locator_on holds),
        Run.on_bind_ok (Run.locator_on after), Run.on_bind_ok resolved, Run.on_bind_ok again]
    rw [perform, Run.on_bind, Run.on_bind, telling]
  | require =>
    have requiring : (Locator.require id).on h = (Locator.require id).on h₁ := by
      unfold Locator.require
      rw [Run.on_bind, Run.on_bind, asking]
    rw [perform, Run.on_bind, Run.on_bind, requiring]
  | checkCommand project =>
    have checking : (Locator.checkCommand id project).on h =
        (Locator.checkCommand id project).on h₁ := by
      unfold Locator.checkCommand
      rw [Run.on_bind, Run.on_bind, same]
    rw [perform, Run.on_bind, Run.on_bind, checking]

private theorem perform_fails {fault : Fault} (q : Inquiry) (holds : h.Holds id l)
    (unknown : l.command = none) (unasked : l.available = none)
    (fails : l.found h = .error fault) : (q.perform id).on h = (.error fault, h) := by
  obtain ⟨failed, other⟩ := resolve_fails holds unknown fails
  have asking := isAvailable_fails holds unasked failed
  cases q with
  | resolve => exact Run.on_bind_error failed _
  | isAvailable => exact Run.on_bind_error asking _
  | version =>
    have telling : (Locator.version id).on h = (.error fault, h) := by
      unfold Locator.version
      rw [Run.on_tryCatch, Run.on_bind_ok (Run.locator_on holds), Run.on_bind_error failed]
      cases fault with
      | system e => exact absurd rfl (other e)
      | _ => rfl
    exact Run.on_bind_error telling _
  | require => exact Run.on_bind_error (Run.on_bind_error asking _) _
  | checkCommand project => exact Run.on_bind_error (Run.on_bind_error failed _) _

/-- Calls of a locator that knows nothing yet. Either no command can be found, and nothing ever
happens; or the first call finds one, and all calls start what they have to. -/
private theorem performAll_fresh (calls : List Inquiry) (holds : h.Holds id l)
    (unknown : l.command = none) (unasked : l.available = none) (ordinary : h.Ordinary)
    (limited : Succeeds l.probeLimit.toText) :
    (performAll id calls h = h ∧ (calls = [] ∨ ∃ fault, l.found h = .error fault)) ∨
    ∃ command available, l.found h = .ok command ∧
      h.Turns id (List.replicate (expense false calls) (l.probing command) ++ l.searches h)
        { l with command := some command, available } (performAll id calls h) := by
  cases calls with
  | nil => exact .inl ⟨rfl, .inl rfl⟩
  | cons q rest =>
    cases finds : l.found h with
    | error fault =>
      refine .inl ⟨?_, .inr ⟨fault, rfl⟩⟩
      have still (calls : List Inquiry) : performAll id calls h = h := by
        induction calls with
        | nil => rfl
        | cons q rest ih => rw [performAll, perform_fails q holds unknown unasked finds, ih]
      exact still _
    | ok command =>
      obtain ⟨h₁, resolved, turns⟩ := resolve_finds holds unknown ordinary limited finds
      have same : performAll id (q :: rest) h = performAll id (q :: rest) h₁ := by
        unfold performAll
        rw [perform_resolving q holds unasked resolved turns.holds]
      obtain ⟨available, later, _⟩ := performAll_known (q :: rest) turns.holds rfl
        (ordinary.of_respond turns.respond) limited
      rw [unasked] at later
      rw [same]
      exact .inr ⟨command, available, rfl, turns.trans later⟩

/-- What calls of a locator `l` that knew nothing on a host `h` have come to, where `l'` is the
locator after them and `h'` the host. -/
structure Settles (id : LocatorId) (l : Locator) (calls : List Inquiry) (h : Host) (l' : Locator)
    (h' : Host) : Prop where
  holds : h'.Holds id l'
  command : ∀ command, l'.command = some command → ∀ later,
    (Locator.resolve id).on (performAll id later h') = (.ok command, performAll id later h') ∧
    ∀ project, (Locator.checkCommand id project).on (performAll id later h') =
      (.ok (command ++ checkFlags ++ [project]), performAll id later h')
  /-- An answer that is known stays the answer whatever is called later, and is told at once. -/
  available : ∀ answer, l'.available = some answer → ∃ command, l'.command = some command ∧
    ∀ later,
      (Locator.isAvailable id).on (performAll id later h') = (.ok answer, performAll id later h') ∧
      (Locator.require id).on (performAll id later h') =
        (if answer then .ok command else .error missing, performAll id later h')
  /-- An answer that is given is known from then on. -/
  answered : ∀ answer h₁, (Locator.isAvailable id).on h' = (.ok answer, h₁) →
    ∃ l₁, h₁.Holds id l₁ ∧ l₁.available = some answer
  searched : l.path.holds = false → calls ≠ [] → ∃ command, l'.command = some command ∧
    (command = [packageRunner, compiler] ↔
      (l.firstReply h).succeeds = false ∧ (l.secondReply h).succeeds = true) ∧
    (command ≠ [packageRunner, compiler] → command = [compiler])
  /-- Programs are started to find the compiler, at most two and none where there is a path, and
  then as many as the calls need. -/
  launches : ∃ searching,
    searching <:+ [l.probing [packageRunner, compiler], l.probing [compiler]] ∧
    (l.path.holds = true → searching = []) ∧
    h'.launches = (l'.command.elim [] fun command =>
      List.replicate (expense false calls) (l.probing command)) ++ searching ++ h.launches

private theorem searches_suffix (l : Locator) (h : Host) :
    l.searches h <:+ [l.probing [packageRunner, compiler], l.probing [compiler]] := by
  unfold searches
  split
  · exact List.nil_suffix
  · split
    · exact List.suffix_cons _ _
    · exact List.suffix_refl _

private theorem answered_fresh {answer : Bool} {h₁ : Host} (holds : h.Holds id l)
    (unknown : l.command = none) (unasked : l.available = none) (ordinary : h.Ordinary)
    (limited : Succeeds l.probeLimit.toText)
    (answers : (Locator.isAvailable id).on h = (.ok answer, h₁)) :
    ∃ l₁, h₁.Holds id l₁ ∧ l₁.available = some answer := by
  cases finds : l.found h with
  | error fault =>
    have failed := (resolve_fails holds unknown finds).1
    rw [isAvailable_fails holds unasked failed] at answers
    cases answers
  | ok command =>
    obtain ⟨h₂, resolved, turns⟩ := resolve_finds holds unknown ordinary limited finds
    obtain ⟨_, _, same, asking, _⟩ := isAvailable_cases turns.holds rfl
      (ordinary.of_respond turns.respond) limited
    rw [isAvailable_resolving holds unasked resolved turns.holds, same] at answers
    cases answers
    exact ⟨_, asking.holds, rfl⟩

private theorem found_searched {l : Locator} (path : l.path.holds = false) (h : Host) :
    ∃ command, l.found h = .ok command ∧
      (command = [packageRunner, compiler] ↔
        (l.firstReply h).succeeds = false ∧ (l.secondReply h).succeeds = true) ∧
      (command ≠ [packageRunner, compiler] → command = [compiler]) := by
  have differ : [compiler] ≠ [packageRunner, compiler] := by decide
  unfold found
  rw [path, if_neg (by decide)]
  cases (l.firstReply h).succeeds with
  | true => exact ⟨[compiler], rfl, by simp [differ], fun _ => rfl⟩
  | false =>
    cases (l.secondReply h).succeeds with
    | true => exact ⟨[packageRunner, compiler], rfl, by simp, fun wrong => absurd rfl wrong⟩
    | false => exact ⟨[compiler], rfl, by simp [differ], fun _ => rfl⟩

private theorem settles_nothing {calls : List Inquiry} (holds : h.Holds id l)
    (unknown : l.command = none) (unasked : l.available = none) (ordinary : h.Ordinary)
    (limited : Succeeds l.probeLimit.toText)
    (nothing : calls = [] ∨ ∃ fault, l.found h = .error fault) : Settles id l calls h l h where
  holds := holds
  command := by simp [unknown]
  available := by simp [unasked]
  answered := fun _ _ => answered_fresh holds unknown unasked ordinary limited
  searched := by
    intro path called
    obtain ⟨command, finds, _⟩ := found_searched path h
    rcases nothing with uncalled | ⟨fault, fails⟩
    · exact absurd uncalled called
    · rw [finds] at fails
      cases fails
  launches := ⟨[], List.nil_suffix, fun _ => rfl, by simp [unknown]⟩

/-- Main theorem. Whatever is called in whatever order, and however programs answer: what is known
of the compiler stays so and is told without starting a program, the first two probes alone decide
where to find it, and the number of programs that are started has a bound. -/
theorem performAll_settles (calls : List Inquiry) (holds : h.Holds id l)
    (unknown : l.command = none) (unasked : l.available = none) (ordinary : h.Ordinary)
    (limited : Succeeds l.probeLimit.toText) :
    ∃ l', Settles id l calls h l' (performAll id calls h) := by
  rcases performAll_fresh calls holds unknown unasked ordinary limited with
    ⟨still, nothing⟩ | ⟨command, available, finds, turns⟩
  · rw [still]
    exact ⟨l, settles_nothing holds unknown unasked ordinary limited nothing⟩
  have behaves := ordinary.of_respond turns.respond
  refine ⟨_, turns.holds, ?_, ?_, ?_, ?_, ?_⟩
  · rintro _ ⟨⟩ later
    obtain ⟨_, after, _⟩ := performAll_known later turns.holds rfl behaves limited
    exact ⟨resolve_known after.holds rfl, checkCommand_known after.holds rfl⟩
  · intro answer stored
    refine ⟨command, rfl, fun later => ?_⟩
    obtain ⟨_, after, keeps, _⟩ := performAll_known later turns.holds rfl behaves limited
    have known := keeps answer stored
    exact ⟨isAvailable_known after.holds known, require_known after.holds rfl known⟩
  · intro answer h₁ answers
    obtain ⟨_, _, same, asking, _⟩ := isAvailable_cases turns.holds rfl behaves limited
    rw [same] at answers
    cases answers
    exact ⟨_, asking.holds, rfl⟩
  · intro path _
    obtain ⟨_, same, decided⟩ := found_searched path h
    rw [finds] at same
    cases same
    exact ⟨command, rfl, decided⟩
  · refine ⟨l.searches h, searches_suffix l h, ?_, turns.launches⟩
    intro path
    rw [searches, if_pos path]

/-- Programs that answer differently each time: the compiler is not there, the package runner is,
and says its version once before it fails. -/
private def fickle (history : List Launch) (_ : Launch) : Reply :=
  match history.length with
  | 0 => .refused (.system (.noSuchFile compiler))
  | 1 | 2 => .exited 0 "Version 5.4.5" ""
  | _ => .exited 1 "" ""

/-- A locator without a path on a host with such programs. -/
private def unsteady : Host where
  respond := fickle
  locators := [{ probeLimit := defaultProbeLimit }]

private theorem ordinary_unsteady : unsteady.Ordinary := by
  intro history launch fault refused
  change fickle history launch = _ at refused
  unfold fickle at refused
  split at refused
  · cases refused
    exact ⟨_, rfl⟩
  · cases refused
  · cases refused
  · cases refused

private def fourCalls : List Inquiry :=
  [.version, .require, .isAvailable, .checkCommand "tsconfig.json"]

/-- The theorem at work: four calls of a fresh locator start four programs, and the command stays
the one that was found although it has stopped to answer. -/
theorem performAll_settles_fickle :
    ∃ (h : Host) (l l' : Locator) (calls : List Inquiry), calls.length = 4 ∧
      h.Holds ⟨0⟩ l ∧ l.command = none ∧ l.available = none ∧ h.Ordinary ∧
      Succeeds l.probeLimit.toText ∧ Settles ⟨0⟩ l calls h l' (performAll ⟨0⟩ calls h) ∧
      l'.command = some ["npx", "tsc"] ∧ l'.available = some false ∧
      (performAll ⟨0⟩ calls h).launches.length = 4 := by
  obtain ⟨l', settles⟩ :=
    performAll_settles fourCalls (rfl : unsteady.Holds ⟨0⟩ _) rfl rfl ordinary_unsteady ⟨_, rfl⟩
  have known : (performAll ⟨0⟩ fourCalls unsteady).locators.map
      (fun l => (l.command, l.available)) = [(some ["npx", "tsc"], some false)] := by
    decide +kernel
  have started : (performAll ⟨0⟩ fourCalls unsteady).launches.length = 4 := by decide +kernel
  have held : (performAll ⟨0⟩ fourCalls unsteady).locators[0]? = some l' := settles.holds
  have first := congrArg (·[0]?) known
  simp only [List.getElem?_map, held, Option.map_some, List.getElem?_cons_zero,
    Option.some.injEq, Prod.mk.injEq] at first
  exact ⟨unsteady, _, l', fourCalls, rfl, rfl, rfl, rfl, ordinary_unsteady, ⟨_, rfl⟩, settles,
    first.1, first.2, started⟩

end Inquiry

end TypeScriptGen
