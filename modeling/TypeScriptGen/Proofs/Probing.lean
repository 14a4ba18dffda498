import TypeScriptGen.Compiler.Locator
import TypeScriptGen.Proofs.HostRuns

/-!
What a run of an external program comes to, as a function of the reply to its start, and what that
means for a probe. A run starts one program and leaves the locators of the host as they are.
-/

set_option autoImplicit false
set_option relaxedAutoImplicit false

namespace TypeScriptGen

namespace Tool

/-- The outcome of a run, told by the reply to its start and the seconds that it took. -/
def outcome (l : Launch) (elapsed : Binary64) : Reply → Except Fault ToolResult
  | .refused fault => .error fault
  | .stopped out err =>
    if l.command.isEmpty then .error (.beyondEnd "tuple")
    else do
      let _ ← l.limit.toText
      return {
        command := l.command
        exitCode := Option.none
        output := CompilerOutput.joinChannels out.shown err.shown
        elapsed
        timedOut := true
        out := out.shown }
  | .exited code out err =>
    .ok {
      command := l.command
      exitCode := some code
      output := CompilerOutput.joinChannels out err
      elapsed
      out }

/-- What a probe makes of the outcome of a run: a refusal of the system counts as an answer. -/
def answerOf : Except Fault ToolResult → Except Fault Bool
  | .ok r => .ok r.succeeded
  | .error (.system _) => .ok false
  | .error fault => .error fault

end Tool

/-- A program that ends by itself with exit code zero. -/
def Reply.succeeds : Reply → Bool
  | .exited code _ _ => code == 0
  | .stopped _ _ => false
  | .refused _ => false

namespace Host

/-- Between the two hosts exactly the given programs were started, the latest first; the locators
and the way in which programs respond are the same. -/
structure Advances (new : List Launch) (h h' : Host) : Prop where
  respond : h'.respond = h.respond
  launches : h'.launches = new ++ h.launches
  locators : h'.locators = h.locators

namespace Advances

theorem refl (h : Host) : Advances [] h h := ⟨rfl, rfl, rfl⟩

theorem logged (h : Host) (severity : LogSeverity) (logger message : String) :
    Advances [] h (h.logged severity logger message) :=
  ⟨respond_logged .., launches_logged .., locators_logged ..⟩

theorem trans {new newer : List Launch} {h₁ h₂ h₃ : Host} (first : Advances new h₁ h₂)
    (second : Advances newer h₂ h₃) : Advances (newer ++ new) h₁ h₃ where
  respond := second.respond.trans first.respond
  launches := by rw [second.launches, first.launches, List.append_assoc]
  locators := second.locators.trans first.locators

end Advances

end Host

namespace Tool

private theorem launch_on (l : Launch) (h : Host) :
    ∃ h', (Run.launch l).on h = (.ok (h.respond h.launches l), h') ∧ h.Advances [l] h' :=
  ⟨_, Run.on_launch l h, rfl, rfl, rfl⟩

theorem run_on (l : Launch) (h : Host) :
    ∃ h', (run l).on h = (outcome l h.runTime (h.respond h.launches l), h') ∧
      h.Advances [l] h' := by
  have begun := Host.Advances.logged h .debug loggerName ("Running: " ++ commandText l.command)
  obtain ⟨h₁, launched, launching⟩ := launch_on l
    (h.logged .debug loggerName ("Running: " ++ commandText l.command))
  have started : h.Advances [l] h₁ := begun.trans launching
  rw [begun.respond, begun.launches, List.nil_append] at launched
  unfold run
  rw [Run.on_bind_ok (Run.on_log ..), Run.on_bind_ok (Run.on_get _), Run.on_bind_ok launched,
    Host.runTime_logged]
  cases h.respond h.launches l with
  | refused fault => exact ⟨h₁, rfl, started⟩
  | exited code out err => exact ⟨h₁, rfl, started⟩
  | stopped out err =>
    unfold outcome
    cases l.command with
    | nil => exact ⟨h₁, rfl, started⟩
    | cons program rest =>
      cases l.limit.toText with
      | error fault => exact ⟨h₁, rfl, started⟩
      | ok limit => exact ⟨_, rfl, started.trans (.logged ..)⟩

theorem probe_on (command : List String) (limit : Value) (h : Host) :
    ∃ h', (probe command limit).on h =
        (answerOf (outcome { command, limit } h.runTime
          (h.respond h.launches { command, limit })), h') ∧
      h.Advances [{ command, limit }] h' := by
  obtain ⟨h₁, ran, advances⟩ := run_on { command, limit } h
  unfold probe
  rw [Run.on_tryCatch, Run.on_bind, ran]
  cases outcome { command, limit } h.runTime (h.respond h.launches { command, limit }) with
  | ok r => exact ⟨h₁, rfl, advances⟩
  | error fault =>
    cases fault with
    | system e => exact ⟨_, rfl, advances.trans (.logged ..)⟩
    | _ => exact ⟨h₁, rfl, advances⟩

end Tool

end TypeScriptGen
