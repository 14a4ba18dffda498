import TypeScriptGen.Host.Logging

/-!
Runs on a host, opened one step at a time: what each way of putting runs together comes to, given a
host to start on. A run can start programs and can change what the host knows, but how programs
respond is not up to it; `Host.Continues` says so, together with what was started.
-/

set_option autoImplicit false
set_option relaxedAutoImplicit false

namespace TypeScriptGen

namespace Run

variable {α β : Type}

def on (x : Run α) (h : Host) : Except Fault α × Host := (ExceptT.run x).run h

@[simp] theorem on_pure (a : α) (h : Host) : on (pure a) h = (.ok a, h) := rfl

@[simp] theorem on_get (h : Host) : on get h = (.ok h, h) := rfl

@[simp] theorem on_lift_ok (a : α) (h : Host) : on (lift (.ok a)) h = (.ok a, h) := rfl

@[simp] theorem on_log (severity : LogSeverity) (logger message : String) (h : Host) :
    on (log severity logger message) h = (.ok (), h.logged severity logger message) := rfl

@[simp] theorem on_launch (l : Launch) (h : Host) :
    on (launch l) h = (.ok (h.respond h.launches l),
      { h with launches := l :: h.launches, events := h.events ++ [.launched l] }) := rfl

@[simp] theorem on_makeFolder (h : Host) :
    on makeFolder h = (.ok h.nextFolder, { h with foldersMade := h.foldersMade + 1 }) := rfl

theorem lift_ok (a : α) : (lift (.ok a) : Run α) = pure a := rfl

theorem on_bind (x : Run α) (f : α → Run β) (h : Host) :
    on (x >>= f) h =
      match on x h with
      | (.ok a, h') => on (f a) h'
      | (.error fault, h') => (.error fault, h') := by
  unfold on ExceptT.run StateT.run
  simp only [bind, ExceptT.bind, ExceptT.mk, StateT.bind]
  cases x h with
  | mk outcome h' => cases outcome <;> rfl

theorem on_tryCatch (x : Run α) (handler : Fault → Run α) (h : Host) :
    on (tryCatch x handler) h =
      match on x h with
      | (.ok a, h') => (.ok a, h')
      | (.error fault, h') => on (handler fault) h' := by
  unfold on ExceptT.run StateT.run
  simp only [tryCatch, tryCatchThe, MonadExceptOf.tryCatch, ExceptT.tryCatch, ExceptT.mk, bind,
    StateT.bind]
  cases x h with
  | mk outcome h' => cases outcome <;> rfl

theorem on_bind_ok {x : Run α} {a : α} {h h' : Host} (done : on x h = (.ok a, h'))
    (f : α → Run β) : on (x >>= f) h = on (f a) h' := by
  rw [on_bind, done]

theorem on_bind_error {x : Run α} {fault : Fault} {h h' : Host}
    (failed : on x h = (.error fault, h')) (f : α → Run β) :
    on (x >>= f) h = (.error fault, h') := by
  rw [on_bind, failed]

theorem on_bind_eq_ok {x : Run α} {f : α → Run β} {b : β} {h h' : Host}
    (done : on (x >>= f) h = (.ok b, h')) :
    ∃ a h₁, on x h = (.ok a, h₁) ∧ on (f a) h₁ = (.ok b, h') := by
  rw [on_bind] at done
  rcases first : on x h with ⟨_ | a, h₁⟩
  · rw [first] at done
    cases done
  · rw [first] at done
    exact ⟨a, h₁, rfl, done⟩

theorem on_outcome (x : Run α) (h : Host) : on (outcome x) h = (.ok (on x h).1, (on x h).2) := by
  unfold outcome
  rw [on_tryCatch, on_bind]
  rcases on x h with ⟨_ | _, h'⟩ <;> rfl

end Run

namespace Host

/-- Programs respond on the second host as they do on the first one, the next directory has the same
name, and the programs started in between all satisfy `P`. -/
structure Continues (P : Launch → Prop) (h h' : Host) : Prop where
  respond : h'.respond = h.respond
  folder : h'.nextFolder = h.nextFolder
  launches : ∃ new, h'.launches = new ++ h.launches ∧ ∀ l ∈ new, P l

@[simp] theorem respond_logged (h : Host) (severity : LogSeverity) (logger message : String) :
    (h.logged severity logger message).respond = h.respond := by
  unfold logged
  split <;> rfl

@[simp] theorem nextFolder_logged (h : Host) (severity : LogSeverity) (logger message : String) :
    (h.logged severity logger message).nextFolder = h.nextFolder := by
  unfold logged
  split <;> rfl

@[simp] theorem launches_logged (h : Host) (severity : LogSeverity) (logger message : String) :
    (h.logged severity logger message).launches = h.launches := by
  unfold logged
  split <;> rfl

@[simp] theorem logging_logged (h : Host) (severity : LogSeverity) (logger message : String) :
    (h.logged severity logger message).logging = h.logging := by
  unfold logged
  split <;> rfl

@[simp] theorem runTime_logged (h : Host) (severity : LogSeverity) (logger message : String) :
    (h.logged severity logger message).runTime = h.runTime := by
  unfold logged
  split <;> rfl

@[simp] theorem environment_logged (h : Host) (severity : LogSeverity) (logger message : String) :
    (h.logged severity logger message).environment = h.environment := by
  unfold logged
  split <;> rfl

@[simp] theorem configs_logged (h : Host) (severity : LogSeverity) (logger message : String) :
    (h.logged severity logger message).configs = h.configs := by
  unfold logged
  split <;> rfl

@[simp] theorem locators_logged (h : Host) (severity : LogSeverity) (logger message : String) :
    (h.logged severity logger message).locators = h.locators := by
  unfold logged
  split <;> rfl

@[simp] theorem shared_logged (h : Host) (severity : LogSeverity) (logger message : String) :
    (h.logged severity logger message).shared = h.shared := by
  unfold logged
  split <;> rfl

/-- The second host is the first one, or has one log record more. -/
inductive Recorded (h : Host) : Host → Prop
  | same : Recorded h h
  | logged (severity : LogSeverity) (logger message : String) :
    Recorded h (h.logged severity logger message)

theorem Recorded.environment {h k : Host} (recorded : h.Recorded k) :
    k.environment = h.environment := by
  cases recorded with
  | same => rfl
  | logged => exact environment_logged ..

theorem Recorded.configs {h k : Host} (recorded : h.Recorded k) : k.configs = h.configs := by
  cases recorded with
  | same => rfl
  | logged => exact configs_logged ..

namespace Continues

variable {P : Launch → Prop}

theorem ofSame {h h' : Host} (respond : h'.respond = h.respond)
    (folder : h'.nextFolder = h.nextFolder) (launches : h'.launches = h.launches) :
    Continues P h h' :=
  ⟨respond, folder, [], by simpa using launches, by simp⟩

theorem refl (h : Host) : Continues P h h := ofSame rfl rfl rfl

theorem trans {h₁ h₂ h₃ : Host} (first : Continues P h₁ h₂) (second : Continues P h₂ h₃) :
    Continues P h₁ h₃ := by
  obtain ⟨new, grown, all⟩ := first.launches
  obtain ⟨newer, grownAgain, allAgain⟩ := second.launches
  refine ⟨second.respond.trans first.respond, second.folder.trans first.folder, newer ++ new,
    ?_, ?_⟩
  · rw [grownAgain, grown, List.append_assoc]
  · intro l member
    rcases List.mem_append.mp member with member | member
    · exact allAgain l member
    · exact all l member

theorem unchanged {h h' : Host} (quiet : Continues (fun _ => False) h h') :
    h'.respond = h.respond ∧ h'.launches = h.launches := by
  obtain ⟨new, grown, absent⟩ := quiet.launches
  have empty : new = [] := List.eq_nil_iff_forall_not_mem.mpr absent
  rw [empty, List.nil_append] at grown
  exact ⟨quiet.respond, grown⟩

end Continues

end Host

namespace Run

variable {α β : Type} {P : Launch → Prop}

/-- Whatever host the run starts on, it starts only programs that satisfy `P`. -/
def Starts (P : Launch → Prop) (x : Run α) : Prop := ∀ h, Host.Continues P h (on x h).2

namespace Starts

theorem pure (a : α) : Starts P (pure a : Run α) := fun h => .refl h

theorem throw (fault : Fault) : Starts P (throw fault : Run α) := fun h => .refl h

theorem get : Starts P (get : Run Host) := fun h => .refl h

theorem locator (id : LocatorId) : Starts P (Run.locator id) := fun h => .refl h

theorem lift (x : Except Fault α) : Starts P (Run.lift x) := by
  intro h
  cases x <;> exact .refl h

theorem setLocator (id : LocatorId) (l : Locator) : Starts P (Run.setLocator id l) :=
  fun _ => .ofSame rfl rfl rfl

theorem log (severity : LogSeverity) (logger message : String) :
    Starts P (Run.log severity logger message) := by
  intro h
  rw [on_log]
  exact .ofSame (Host.respond_logged ..) (Host.nextFolder_logged ..) (Host.launches_logged ..)

theorem launch {l : Launch} (holds : P l) : Starts P (Run.launch l) := by
  intro h
  refine ⟨rfl, rfl, [l], rfl, ?_⟩
  intro other member
  rw [List.mem_singleton.mp member]
  exact holds

theorem bind {x : Run α} {f : α → Run β} (first : Starts P x) (rest : ∀ a, Starts P (f a)) :
    Starts P (x >>= f) := by
  intro h
  have before := first h
  rw [on_bind]
  rcases done : on x h with ⟨_ | a, h'⟩
  · rw [done] at before
    exact before
  · rw [done] at before
    exact before.trans (rest a h')

theorem tryCatch {x : Run α} {handler : Fault → Run α} (body : Starts P x)
    (handled : ∀ fault, Starts P (handler fault)) :
    Starts P (MonadExcept.tryCatch x handler) := by
  intro h
  have before := body h
  rw [on_tryCatch]
  rcases done : on x h with ⟨fault | _, h'⟩
  · rw [done] at before
    exact before.trans (handled fault h')
  · rw [done] at before
    exact before

end Starts

end Run

namespace EmitLogger

private def secondsLayout : Layout := { align := '>', precision := some 3, code := some 'f' }

private theorem read_seconds : Layout.read "float" Option.none '>' ".3f" = .ok secondsLayout := by
  rfl

private theorem format_seconds (x : Binary64) : ∃ s, (Value.float x).format ".3f" = .ok s := by
  have layout : ".3f".isEmpty = false := by decide
  unfold Value.format
  rw [layout, if_neg (by decide)]
  change ∃ s, Value.formatReal x ".3f" = .ok s
  unfold Value.formatReal
  rw [read_seconds]
  cases x with
  | nan => exact ⟨_, rfl⟩
  | infinite negative => exact ⟨_, rfl⟩
  | finite negative m e => exact ⟨_, rfl⟩

theorem validationResult_on (l : EmitLogger) (count errors : Int) (x : Binary64) (h : Host) :
    ∃ message, (l.validationResult (.int count) (.int errors) (.float x)).on h =
      (.ok (), h.logged .info l.name message) := by
  obtain ⟨seconds, shown⟩ := format_seconds x
  unfold validationResult
  rw [shown]
  exact ⟨_, rfl⟩

end EmitLogger

end TypeScriptGen
