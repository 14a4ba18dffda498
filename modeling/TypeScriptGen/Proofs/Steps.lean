import TypeScriptGen.Value

/-!
Steps that a fault can stop: how two of them in a row come to their outcome, when they give a value,
and when the outcomes of two computations differ by a change of the result only.
-/

set_option autoImplicit false
set_option relaxedAutoImplicit false

namespace TypeScriptGen

namespace Step

variable {α β γ δ : Type}

theorem ok_bind (a : α) (k : α → Except Fault β) : (Except.ok a >>= k) = k a := rfl

theorem error_bind (fault : Fault) (k : α → Except Fault β) :
    (Except.error fault >>= k) = .error fault := rfl

theorem bind_eq_ok {x : Except Fault α} {k : α → Except Fault β} {b : β} :
    (x >>= k) = .ok b ↔ ∃ a, x = .ok a ∧ k a = .ok b := by
  cases x with
  | error fault => simp [error_bind]
  | ok a => simp [ok_bind]

theorem bind_error (x : Except Fault α) {k : α → Except Fault β}
    (rest : ∀ a, ∃ fault, k a = .error fault) : ∃ fault, (x >>= k) = .error fault := by
  cases x with
  | error fault => exact ⟨fault, rfl⟩
  | ok a => exact rest a

theorem bind_shift {x : Except Fault β} {y : Except Fault α} {g : α → β} {k : β → Except Fault δ}
    {l : α → Except Fault γ} {f : γ → δ} (first : x = y.map g)
    (rest : ∀ a, k (g a) = (l a).map f) : (x >>= k) = (y >>= l).map f := by
  rw [first]
  cases y with
  | error fault => rfl
  | ok a => exact rest a

theorem bind_same (x : Except Fault α) {k : α → Except Fault δ} {l : α → Except Fault γ}
    {f : γ → δ} (rest : ∀ a, k a = (l a).map f) : (x >>= k) = (x >>= l).map f := by
  cases x with
  | error fault => rfl
  | ok a => exact rest a

theorem return_shift {a : δ} {b : γ} {f : γ → δ} (same : a = f b) :
    (pure a : Except Fault δ) = (pure b : Except Fault γ).map f := by
  rw [same]
  rfl

end Step

/-- The step gives a value. -/
def Succeeds {α : Type} (x : Except Fault α) : Prop := ∃ a, x = .ok a

namespace Succeeds

variable {α β : Type}

theorem pure (a : α) : Succeeds (pure a) := ⟨a, rfl⟩

theorem bind {x : Except Fault α} {k : α → Except Fault β} (first : Succeeds x)
    (rest : ∀ a, Succeeds (k a)) : Succeeds (x >>= k) := by
  obtain ⟨a, done⟩ := first
  rw [done]
  exact rest a

theorem pure_iff {a : α} : Succeeds (Pure.pure a) ↔ True := ⟨fun _ => trivial, fun _ => pure a⟩

theorem bind_iff {x : Except Fault α} {k : α → Except Fault β} {P : Prop}
    (rest : ∀ a, Succeeds (k a) ↔ P) : Succeeds (x >>= k) ↔ Succeeds x ∧ P := by
  constructor
  · rintro ⟨b, done⟩
    obtain ⟨a, first, last⟩ := Step.bind_eq_ok.mp done
    exact ⟨⟨a, first⟩, (rest a).mp ⟨b, last⟩⟩
  · rintro ⟨first, holds⟩
    exact bind first fun a => (rest a).mpr holds

theorem map_iff {x : Except Fault α} {f : α → β} : Succeeds (x.map f) ↔ Succeeds x := by
  cases x with
  | error fault =>
    constructor
    · rintro ⟨_, wrong⟩
      cases wrong
    · rintro ⟨_, wrong⟩
      cases wrong
  | ok a => exact ⟨fun _ => ⟨a, rfl⟩, fun _ => ⟨f a, rfl⟩⟩

end Succeeds

/-- Whatever the step gives satisfies `P`. -/
def Ensures {α : Type} (P : α → Prop) (x : Except Fault α) : Prop := ∀ a, x = .ok a → P a

namespace Ensures

variable {α β : Type} {P Q : α → Prop} {R : β → Prop}

theorem pure {a : α} (holds : P a) : Ensures P (pure a) := by
  intro b given
  cases given
  exact holds

theorem error (fault : Fault) : Ensures P (.error fault) := by
  intro a given
  cases given

theorem bind {x : Except Fault α} {k : α → Except Fault β} (first : Ensures P x)
    (rest : ∀ a, P a → Ensures R (k a)) : Ensures R (x >>= k) := by
  intro b given
  obtain ⟨a, done, last⟩ := Step.bind_eq_ok.mp given
  exact rest a (first a done) b last

theorem map {x : Except Fault α} {f : α → β} (first : Ensures P x) (image : ∀ a, P a → R (f a)) :
    Ensures R (x.map f) := by
  cases x with
  | error fault => exact error fault
  | ok a => exact pure (image a (first a rfl))

theorem any (x : Except Fault α) : Ensures (fun _ => True) x := fun _ _ => trivial

theorem after {x : Except Fault α} {k : α → Except Fault β} (rest : ∀ a, Ensures R (k a)) :
    Ensures R (x >>= k) :=
  bind (any x) fun a _ => rest a

theorem lift {x : Except Fault α} (first : Ensures P x) :
    Ensures P (Fault.lift x : Except Fault α) := by
  cases x with
  | error fault => exact error fault
  | ok a => exact first

end Ensures

/-- Both steps end with the same fault, or both give a value and the two values are related. -/
inductive Agree {α β : Type} (R : α → β → Prop) : Except Fault α → Except Fault β → Prop where
  | fault (fault : Fault) : Agree R (.error fault) (.error fault)
  | value {a : α} {b : β} (related : R a b) : Agree R (.ok a) (.ok b)

namespace Agree

variable {α β γ δ : Type} {R : α → β → Prop} {S : γ → δ → Prop}

theorem pure {a : α} {b : β} (related : R a b) : Agree R (pure a) (pure b) := value related

theorem bind {x : Except Fault α} {y : Except Fault β} {k : α → Except Fault γ}
    {l : β → Except Fault δ} (first : Agree R x y) (rest : ∀ a b, R a b → Agree S (k a) (l b)) :
    Agree S (x >>= k) (y >>= l) := by
  cases first with
  | fault wrong => exact fault wrong
  | value related => exact rest _ _ related

theorem ensured {x : Except Fault α} {k : α → Except Fault γ} {l : α → Except Fault δ}
    {P : α → Prop} (first : Ensures P x) (rest : ∀ a, P a → Agree S (k a) (l a)) :
    Agree S (x >>= k) (x >>= l) := by
  cases x with
  | error wrong => exact fault wrong
  | ok a => exact rest a (first a rfl)

theorem same (x : Except Fault α) {k : α → Except Fault γ} {l : α → Except Fault δ}
    (rest : ∀ a, Agree S (k a) (l a)) : Agree S (x >>= k) (x >>= l) :=
  ensured (.any x) fun a _ => rest a

theorem map (x : Except Fault α) {f : α → γ} {g : α → δ} (related : ∀ a, S (f a) (g a)) :
    Agree S (x.map f) (x.map g) := by
  cases x with
  | error wrong => exact fault wrong
  | ok a => exact value (related a)

theorem refl {R : α → α → Prop} {x : Except Fault α} (related : Ensures (fun a => R a a) x) :
    Agree R x x := by
  cases x with
  | error wrong => exact fault wrong
  | ok a => exact value (related a rfl)

end Agree

end TypeScriptGen
