import Mathlib.Data.List.Forall2
import Mathlib.Logic.Relation
import TypeScriptGen.Proofs.HostRuns

/-!
Runs that are interrupted. A run is cut into actions on the host, between which other runs may act;
several of them make up a pool, in which a limited number of workers takes up one after the other in
any order. Two results on pools: if every action of every run keeps to a relation between hosts,
then what each run relies on of the others is that relation alone; and every schedule comes to an
end, at which all runs are finished.
-/

set_option autoImplicit false
set_option relaxedAutoImplicit false

namespace TypeScriptGen

/-- A run, cut into actions. What follows an action depends on the host that it found. -/
inductive Steps (α : Type) where
  | done (outcome : Except Fault α)
  | next (change : Host → Host) (rest : Host → Steps α)

namespace Steps

variable {α β : Type}

protected def bind (s : Steps α) (f : α → Steps β) : Steps β :=
  match s with
  | .done (.ok a) => f a
  | .done (.error fault) => .done (.error fault)
  | .next change rest => .next change fun h => (rest h).bind f

protected def tryCatch (s : Steps α) (handler : Fault → Steps α) : Steps α :=
  match s with
  | .done (.ok a) => .done (.ok a)
  | .done (.error fault) => handler fault
  | .next change rest => .next change fun h => (rest h).tryCatch handler

instance : Monad Steps where
  pure a := .done (.ok a)
  bind := Steps.bind

instance : MonadExceptOf Fault Steps where
  throw fault := .done (.error fault)
  tryCatch := Steps.tryCatch

def lift (x : Except Fault α) : Steps α := .done x

def atom (x : Run α) : Steps α := .next (fun h => (x.on h).2) fun h => .done (x.on h).1

/-- The outcome of a run that nothing interrupts, and the host after it. -/
def on : Steps α → Host → Except Fault α × Host
  | .done outcome, h => (outcome, h)
  | .next change rest, h => (rest h).on (change h)

/-- Uninterrupted, the run is the given one. -/
def Does (s : Steps α) (x : Run α) : Prop := ∀ h, s.on h = x.on h

namespace Does

private theorem on_bind (s : Steps α) (f : α → Steps β) (h : Host) :
    (s >>= f).on h =
      match s.on h with
      | (.ok a, h') => (f a).on h'
      | (.error fault, h') => (.error fault, h') := by
  induction s generalizing h with
  | done outcome => cases outcome <;> rfl
  | next change rest ih => exact ih h (change h)

private theorem on_tryCatch (s : Steps α) (handler : Fault → Steps α) (h : Host) :
    (tryCatch s handler).on h =
      match s.on h with
      | (.ok a, h') => (.ok a, h')
      | (.error fault, h') => (handler fault).on h' := by
  induction s generalizing h with
  | done outcome => cases outcome <;> rfl
  | next change rest ih => exact ih h (change h)

theorem pure (a : α) : Does (pure a) (pure a) := fun _ => rfl

theorem throw (fault : Fault) : Does (throw fault : Steps α) (throw fault) := fun _ => rfl

theorem lift (x : Except Fault α) : Does (.lift x) (Run.lift x) := by
  cases x <;> exact fun _ => rfl

theorem atom (x : Run α) : Does (.atom x) x := fun _ => rfl

theorem bind {s : Steps α} {x : Run α} {f : α → Steps β} {g : α → Run β} (first : s.Does x)
    (rest : ∀ a, (f a).Does (g a)) : (s >>= f).Does (x >>= g) := by
  intro h
  rw [on_bind, Run.on_bind, first h]
  rcases x.on h with ⟨_ | a, h'⟩
  · rfl
  · exact rest a h'

theorem tryCatch {s : Steps α} {x : Run α} {handler : Fault → Steps α} {treat : Fault → Run α}
    (body : s.Does x) (handled : ∀ fault, (handler fault).Does (treat fault)) :
    (MonadExcept.tryCatch s handler).Does (MonadExcept.tryCatch x treat) := by
  intro h
  rw [on_tryCatch, Run.on_tryCatch, body h]
  rcases x.on h with ⟨fault | _, h'⟩
  · exact handled fault h'
  · rfl

theorem joined {γ : Type} {x : Run α} {y : α → Run β} {f : β → Steps γ} {g : β → Run γ}
    (rest : ∀ b, (f b).Does (g b)) :
    (.atom (x >>= y) >>= f : Steps γ).Does (x >>= fun a => y a >>= g) := by
  rw [← bind_assoc]
  exact .bind (.atom _) rest

end Does

end Steps

/-- The relation can stand for what is done to a host by several runs: it goes on, and whatever it
leads to can stay as it is. -/
structure Host.Evolution (R : Host → Host → Prop) : Prop where
  trans : ∀ {h₁ h₂ h₃}, R h₁ h₂ → R h₂ h₃ → R h₁ h₃
  still : ∀ {h₁ h₂}, R h₁ h₂ → R h₂ h₂

namespace Steps

variable {α β : Type} {R : Host → Host → Prop} {P Q : Except Fault α → Prop}
  {h h' : Host}

/-- From the host on, the run has an outcome that satisfies `P` and acts within the relation,
provided that others do as well whenever it is interrupted. -/
def Ends (R : Host → Host → Prop) (P : Except Fault α → Prop) : Steps α → Host → Prop
  | .done outcome, _ => P outcome
  | .next change rest, h => ∀ h', R h h' → R h' (change h') ∧ (rest h').Ends R P (change h')

namespace Ends

theorem imp {s : Steps α} (ends : s.Ends R P h) (weaker : ∀ outcome, P outcome → Q outcome) :
    s.Ends R Q h := by
  induction s generalizing h with
  | done outcome => exact weaker outcome ends
  | next change rest ih =>
    intro h' related
    obtain ⟨acts, later⟩ := ends h' related
    exact ⟨acts, ih h' later⟩

theorem later {s : Steps α} (ends : s.Ends R P h) (evolution : Host.Evolution R)
    (related : R h h') : s.Ends R P h' := by
  cases s with
  | done outcome => exact ends
  | next change rest => exact fun h₂ further => ends h₂ (evolution.trans related further)

theorem bind {s : Steps α} {f : α → Steps β} {Q : Except Fault β → Prop} (first : s.Ends R P h)
    (evolution : Host.Evolution R) (still : R h h)
    (rest : ∀ a h', R h h' → P (.ok a) → (f a).Ends R Q h')
    (failed : ∀ fault, P (.error fault) → Q (.error fault)) : (s >>= f).Ends R Q h := by
  induction s generalizing h with
  | done outcome =>
    cases outcome with
    | ok a => exact rest a h still first
    | error fault => exact failed fault first
  | next change more ih =>
    intro h' related
    obtain ⟨acts, later⟩ := first h' related
    have reached := evolution.trans related acts
    exact ⟨acts, ih h' later (evolution.still acts) fun a h₂ further =>
      rest a h₂ (evolution.trans reached further)⟩

theorem bind_eq {s : Steps α} {f : α → Steps β} {x : Except Fault α} {y : α → Except Fault β}
    (first : s.Ends R (· = x) h) (evolution : Host.Evolution R) (still : R h h)
    (rest : ∀ a h', R h h' → x = .ok a → (f a).Ends R (· = y a) h') :
    (s >>= f).Ends R (· = x >>= y) h := by
  refine first.bind evolution still ?_ ?_
  · rintro a h' related rfl
    exact rest a h' related rfl
  · rintro fault rfl
    rfl

theorem tryCatch {s : Steps α} {handler : Fault → Steps α} (body : s.Ends R P h)
    (evolution : Host.Evolution R) (still : R h h) (done : ∀ a, P (.ok a) → Q (.ok a))
    (handled : ∀ fault h', R h h' → P (.error fault) → (handler fault).Ends R Q h') :
    (MonadExcept.tryCatch s handler).Ends R Q h := by
  induction s generalizing h with
  | done outcome =>
    cases outcome with
    | ok a => exact done a body
    | error fault => exact handled fault h still body
  | next change more ih =>
    intro h' related
    obtain ⟨acts, later⟩ := body h' related
    have reached := evolution.trans related acts
    exact ⟨acts, ih h' later (evolution.still acts) fun fault h₂ further =>
      handled fault h₂ (evolution.trans reached further)⟩

theorem uninterrupted {s : Steps α} (ends : s.Ends R P h) (evolution : Host.Evolution R)
    (still : R h h) : P (s.on h).1 ∧ R h (s.on h).2 := by
  induction s generalizing h with
  | done outcome => exact ⟨ends, still⟩
  | next change rest ih =>
    obtain ⟨acts, later⟩ := ends h still
    obtain ⟨outcome, after⟩ := ih h later (evolution.still acts)
    exact ⟨outcome, evolution.trans acts after⟩

end Ends

end Steps

inductive Task (α : Type) where
  | waiting (s : Steps α)
  | running (s : Steps α)
  | finished (outcome : Except Fault α)

namespace Task

variable {α : Type}

def isRunning : Task α → Bool
  | .running _ => true
  | .waiting _ | .finished _ => false

/-- One move of a task on a host: a worker takes it up, which needs a free one, does an action of
it, or leaves it. -/
inductive Moves (free : Prop) : Host → Task α → Host → Task α → Prop where
  | begin {h : Host} {s : Steps α} : free → Moves free h (.waiting s) h (.running s)
  | act {h : Host} {change : Host → Host} {rest : Host → Steps α} :
    Moves free h (.running (.next change rest)) (change h) (.running (rest h))
  | leave {h : Host} {outcome : Except Fault α} :
    Moves free h (.running (.done outcome)) h (.finished outcome)

inductive MovesAmong (free : Prop) :
    Host → List (Task α) → Host → List (Task α) → Prop where
  | here {h h' : Host} {t t' : Task α} {rest : List (Task α)} :
    t.Moves free h h' t' → MovesAmong free h (t :: rest) h' (t' :: rest)
  | there {h h' : Host} {t : Task α} {rest rest' : List (Task α)} :
    MovesAmong free h rest h' rest' → MovesAmong free h (t :: rest) h' (t :: rest')

def Ends (R : Host → Host → Prop) (h : Host) (P : Except Fault α → Prop) : Task α → Prop
  | .waiting s => s.Ends R P h
  | .running s => s.Ends R P h
  | .finished outcome => P outcome

variable {R : Host → Host → Prop} {P : Except Fault α → Prop} {free : Prop} {h h' : Host}
  {t t' : Task α} {ts ts' : List (Task α)} {Ps : List (Except Fault α → Prop)}

theorem Ends.later (ends : t.Ends R h P) (evolution : Host.Evolution R) (related : R h h') :
    t.Ends R h' P := by
  cases t with
  | waiting s => exact Steps.Ends.later ends evolution related
  | running s => exact Steps.Ends.later ends evolution related
  | finished outcome => exact ends

theorem Moves.keeps (move : t.Moves free h h' t') (still : R h h) (ends : t.Ends R h P) :
    R h h' ∧ t'.Ends R h' P := by
  cases move with
  | begin _ => exact ⟨still, ends⟩
  | act => exact ends h still
  | leave => exact ⟨still, ends⟩

theorem MovesAmong.keeps (evolution : Host.Evolution R) (move : MovesAmong free h ts h' ts')
    (still : R h h) (ends : List.Forall₂ (Ends R h) Ps ts) :
    R h h' ∧ List.Forall₂ (Ends R h') Ps ts' := by
  induction move generalizing Ps with
  | here move =>
    cases ends with
    | cons first others =>
      obtain ⟨related, first⟩ := move.keeps still first
      exact ⟨related, .cons first (others.imp fun _ _ ends => ends.later evolution related)⟩
  | there _ ih =>
    cases ends with
    | cons first others =>
      obtain ⟨related, others⟩ := ih others
      exact ⟨related, .cons (first.later evolution related) others⟩

private theorem MovesAmong.of_mem (member : t ∈ ts) (move : t.Moves free h h' t') :
    ∃ ts', MovesAmong free h ts h' ts' := by
  induction member with
  | head rest => exact ⟨_, .here move⟩
  | tail _ _ ih =>
    obtain ⟨ts', later⟩ := ih
    exact ⟨_, .there later⟩

private theorem Moves.of_isRunning (running : t.isRunning = true) (h : Host) :
    ∃ h' t', t.Moves free h h' t' := by
  cases t with
  | waiting s => cases running
  | finished outcome => cases running
  | running s =>
    cases s with
    | done outcome => exact ⟨_, _, .leave⟩
    | next change rest => exact ⟨_, _, .act⟩

private theorem MovesAmong.weaken {free' : Prop} (weaker : free → free')
    (move : MovesAmong free h ts h' ts') : MovesAmong free' h ts h' ts' := by
  induction move with
  | here move =>
    refine .here ?_
    cases move with
    | begin holds => exact .begin (weaker holds)
    | act => exact .act
    | leave => exact .leave
  | there _ ih => exact .there ih

/-! Termination: a task that moves becomes smaller, whatever the hosts are. -/

private def Follows (t' t : Task α) : Prop := ∃ h h', t.Moves True h h' t'

private def FollowsAmong (ts' ts : List (Task α)) : Prop := ∃ h h', MovesAmong True h ts h' ts'

private theorem acc_finished (outcome : Except Fault α) : Acc Follows (.finished outcome) :=
  .intro _ fun _ ⟨_, _, move⟩ => nomatch move

private theorem acc_running (s : Steps α) : Acc Follows (.running s) := by
  induction s with
  | done outcome =>
    refine .intro _ ?_
    rintro _ ⟨_, _, move⟩
    cases move
    exact acc_finished outcome
  | next change rest ih =>
    refine .intro _ ?_
    rintro _ ⟨h, _, move⟩
    cases move
    exact ih h

private theorem acc_task (t : Task α) : Acc Follows t := by
  cases t with
  | finished outcome => exact acc_finished outcome
  | running s => exact acc_running s
  | waiting s =>
    refine .intro _ ?_
    rintro _ ⟨_, _, move⟩
    cases move
    exact acc_running s

private theorem acc_cons (first : Acc Follows t) (others : Acc FollowsAmong ts) :
    Acc FollowsAmong (t :: ts) := by
  induction first generalizing ts with
  | intro t _ smaller =>
    induction others with
    | intro ts others smallerAmong =>
      refine .intro _ ?_
      rintro _ ⟨h, h', move⟩
      cases move with
      | here move => exact smaller _ ⟨h, h', move⟩ (.intro ts others)
      | there move => exact smallerAmong _ ⟨h, h', move⟩

private theorem acc_tasks (ts : List (Task α)) : Acc FollowsAmong ts := by
  induction ts with
  | nil => exact .intro _ fun _ ⟨_, _, move⟩ => nomatch move
  | cons t rest ih => exact acc_cons (acc_task t) ih

end Task

/-- Tasks and the host that they act on. -/
structure Pool (α : Type) where
  host : Host
  tasks : List (Task α)

namespace Pool

variable {α : Type} {R : Host → Host → Prop} {p q : Pool α} {workers : Nat}

/-- Some runs that nobody has taken up yet. -/
def start (h : Host) (runs : List (Steps α)) : Pool α := ⟨h, runs.map .waiting⟩

/-- One move of a pool with a number of workers. Any task may move; one that waits can be taken up
while a worker is free. -/
def Step (workers : Nat) (p q : Pool α) : Prop :=
  Task.MovesAmong (p.tasks.countP Task.isRunning < workers) p.host p.tasks q.host q.tasks

/-- However the moves of a pool are ordered, they come to an end, at which every run is finished;
its outcome is as the list says at its place. -/
structure Settles (workers : Nat) (p : Pool α) (Ps : List (Except Fault α → Prop)) : Prop where
  ends : Acc (fun q' q => Step workers q q') p
  finished : ∀ q, Relation.ReflTransGen (Step workers) p q → (∀ q', ¬ Step workers q q') →
    List.Forall₂ (fun P t => ∃ outcome, t = .finished outcome ∧ P outcome) Ps q.tasks

theorem Settles.imp {Ps Qs : List (Except Fault α → Prop)} (settles : Settles workers p Ps)
    (weaker : List.Forall₂ (fun P Q : Except Fault α → Prop => ∀ outcome, P outcome → Q outcome)
      Ps Qs) : Settles workers p Qs := by
  refine ⟨settles.ends, fun q moves stuck => ?_⟩
  have finished := settles.finished q moves stuck
  generalize q.tasks = ts at finished
  clear settles
  induction finished generalizing Qs with
  | nil =>
    cases weaker
    exact .nil
  | cons first _ ih =>
    obtain ⟨outcome, same, holds⟩ := first
    cases weaker with
    | cons one others => exact .cons ⟨outcome, same, one outcome holds⟩ (ih others)

theorem keeps (evolution : Host.Evolution R) {Ps : List (Except Fault α → Prop)}
    (moves : Relation.ReflTransGen (Step workers) p q) (still : R p.host p.host)
    (ends : List.Forall₂ (Task.Ends R p.host) Ps p.tasks) :
    R p.host q.host ∧ List.Forall₂ (Task.Ends R q.host) Ps q.tasks := by
  induction moves with
  | refl => exact ⟨still, ends⟩
  | tail _ move ih =>
    obtain ⟨related, ends⟩ := ih
    obtain ⟨further, ends⟩ := move.keeps evolution (evolution.still related) ends
    exact ⟨evolution.trans related further, ends⟩

theorem exists_step (staffed : 1 ≤ workers) {t : Task α} (member : t ∈ p.tasks)
    (unfinished : ∀ outcome, t ≠ .finished outcome) : ∃ q, Step workers p q := by
  by_cases running : ∃ t ∈ p.tasks, t.isRunning = true
  · obtain ⟨t, member, running⟩ := running
    obtain ⟨h', _, move⟩ := Task.Moves.of_isRunning running p.host
    obtain ⟨ts', among⟩ := Task.MovesAmong.of_mem member move
    exact ⟨⟨h', ts'⟩, among⟩
  · have free : p.tasks.countP Task.isRunning < workers := by
      have idle : p.tasks.countP Task.isRunning = 0 := by
        rw [List.countP_eq_zero]
        exact fun t member isRunning => running ⟨t, member, isRunning⟩
      omega
    cases t with
    | finished outcome => exact absurd rfl (unfinished outcome)
    | running s => exact absurd ⟨_, member, rfl⟩ running
    | waiting s =>
      obtain ⟨ts', among⟩ := Task.MovesAmong.of_mem member (.begin free)
      exact ⟨⟨p.host, ts'⟩, among⟩

private theorem acc_step (p : Pool α) : Acc (fun q' q : Pool α => Step workers q q') p := by
  have tasks : Acc (InvImage Task.FollowsAmong Pool.tasks) p :=
    InvImage.accessible Pool.tasks (Task.acc_tasks p.tasks)
  refine Subrelation.accessible ?_ tasks
  intro q' q move
  exact ⟨q.host, q'.host, Task.MovesAmong.weaken (fun _ => trivial) move⟩

private theorem finished_of_ends {h : Host} {Ps : List (Except Fault α → Prop)}
    {ts : List (Task α)} (ends : List.Forall₂ (Task.Ends R h) Ps ts)
    (complete : ∀ t ∈ ts, ∃ outcome, t = .finished outcome) :
    List.Forall₂ (fun P t => ∃ outcome, t = .finished outcome ∧ P outcome) Ps ts := by
  induction ends with
  | nil => exact .nil
  | cons first _ ih =>
    obtain ⟨outcome, rfl⟩ := complete _ List.mem_cons_self
    exact .cons ⟨outcome, rfl, first⟩
      (ih fun t member => complete t (List.mem_cons_of_mem _ member))

/-- Main result on pools. Runs that act within a relation, and whose outcomes are then as said, have
such outcomes in every schedule. -/
theorem settles_start (evolution : Host.Evolution R) {h : Host} (still : R h h)
    {runs : List (Steps α)} {Ps : List (Except Fault α → Prop)} (staffed : 1 ≤ workers)
    (ends : List.Forall₂ (fun P s => Steps.Ends R P s h) Ps runs) :
    Settles workers (start h runs) Ps := by
  refine ⟨acc_step _, ?_⟩
  intro q moves stuck
  have waiting : List.Forall₂ (Task.Ends R h) Ps (runs.map .waiting) := by
    rw [List.forall₂_map_right_iff]
    exact ends
  obtain ⟨_, reached⟩ := keeps evolution moves still waiting
  refine finished_of_ends reached fun t member => ?_
  by_cases finished : ∃ outcome, t = .finished outcome
  · exact finished
  · obtain ⟨q', move⟩ := exists_step staffed member fun outcome same => finished ⟨outcome, same⟩
    exact absurd move (stuck q')

end Pool

end TypeScriptGen
