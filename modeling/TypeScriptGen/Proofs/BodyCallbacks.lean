import TypeScriptGen.Declaration.Rendering
import TypeScriptGen.Proofs.Steps

/-!
Callbacks that fill bodies. A callback may remember things from one call to the next, may be stopped
by a fault, and may answer with anything at all. Main statement: the operations that add control
flow hand each callback an empty body and take nothing but a body from it; the operations that give
a member a body hand out an empty body as well, but keep whatever comes back. They do what a check
would do unless something else than a body comes back.
-/

set_option autoImplicit false
set_option relaxedAutoImplicit false

namespace TypeScriptGen

/-- A computation that may remember things and may be stopped by a fault. -/
abbrev Working (σ α : Type) : Type := ExceptT Fault (StateM σ) α

namespace Working

variable {σ α β : Type}

def outcome (x : Working σ α) (memory : σ) : Except Fault α × σ := (x.run.run memory).run

theorem outcome_pure (a : α) (memory : σ) :
    (pure a : Working σ α).outcome memory = (.ok a, memory) := rfl

theorem outcome_lift (x : Except Fault α) (memory : σ) :
    (Fault.lift x : Working σ α).outcome memory = (x, memory) := by
  cases x <;> rfl

section

variable {x : Working σ α} {memory next : σ} (k : α → Working σ β)

theorem outcome_bind_ok {a : α} (done : x.outcome memory = (.ok a, next)) :
    (x >>= k).outcome memory = (k a).outcome next := by
  have first : x.run.run memory = pure (.ok a, next) := done
  unfold outcome
  rw [ExceptT.run_bind, StateT.run_bind, first]
  rfl

theorem outcome_bind_error {fault : Fault} (stopped : x.outcome memory = (.error fault, next)) :
    (x >>= k).outcome memory = (.error fault, next) := by
  have first : x.run.run memory = pure (.error fault, next) := stopped
  unfold outcome
  rw [ExceptT.run_bind, StateT.run_bind, first]
  rfl

end

end Working

abbrev Filler (σ : Type) : Type := Body → Working σ (Supplied Body)

def Filler.answer {σ : Type} (fill : Filler σ) (memory : σ) : Except Fault (Supplied Body) × σ :=
  (fill Body.empty).outcome memory

/-- The fault of a callback that answers with something else than a body. -/
def Fault.noBody : Fault := refuse "Body callback must return a BodyBuilder." "configure"

section Checks

variable {σ α : Type}

/-- The callbacks are handed empty bodies, one after the other, and return bodies. -/
inductive Returned : List (Filler σ) → σ → List Body → σ → Prop where
  | nil (memory : σ) : Returned [] memory [] memory
  | cons {fill : Filler σ} {fills : List (Filler σ)} {memory next last : σ} {b : Body}
      {bs : List Body} (here : fill.answer memory = (.ok (.good b), next))
      (later : Returned fills next bs last) : Returned (fill :: fills) memory (b :: bs) last

/-- The callbacks are handed empty bodies, one after the other; after some that return bodies, one
is stopped by a fault or returns something else, and no further one is called. -/
inductive Stopped : List (Filler σ) → σ → Fault → σ → Prop where
  | fault {fill : Filler σ} {fills : List (Filler σ)} {memory next : σ} {fault : Fault}
      (here : fill.answer memory = (.error fault, next)) :
      Stopped (fill :: fills) memory fault next
  | stray {fill : Filler σ} {fills : List (Filler σ)} {memory next : σ} {v : Value}
      (here : fill.answer memory = (.ok (.stray v), next)) :
      Stopped (fill :: fills) memory Fault.noBody next
  | later {fill : Filler σ} {fills : List (Filler σ)} {memory next last : σ} {b : Body}
      {fault : Fault} (here : fill.answer memory = (.ok (.good b), next))
      (rest : Stopped fills next fault last) : Stopped (fill :: fills) memory fault last

/-- The outcome is that of an operation that checks its callbacks: it goes on with the bodies if
they all return one, otherwise it fails. -/
inductive Checked (fills : List (Filler σ)) (finish : List Body → Except Fault α) (memory : σ) :
    Except Fault α × σ → Prop where
  | returned {bodies : List Body} {after : σ} (answered : Returned fills memory bodies after) :
      Checked fills finish memory (finish bodies, after)
  | stopped {fault : Fault} {after : σ} (ended : Stopped fills memory fault after) :
      Checked fills finish memory (.error fault, after)

theorem Stopped.not_returned {fills : List (Filler σ)} {memory after last : σ} {fault : Fault}
    {bodies : List Body} (ended : Stopped fills memory fault after) :
    ¬ Returned fills memory bodies last := by
  intro answered
  induction ended generalizing bodies with
  | fault here | stray here =>
    cases answered with
    | cons there _ =>
      rw [here] at there
      cases there
  | later here _ ih =>
    cases answered with
    | cons there others =>
      rw [here] at there
      cases there
      exact ih others

theorem Stopped.unique {fills : List (Filler σ)} {memory after last : σ} {fault other : Fault}
    (ended : Stopped fills memory fault after) (again : Stopped fills memory other last) :
    other = fault ∧ last = after := by
  induction ended with
  | fault here =>
    cases again with
    | fault there =>
      rw [here] at there
      cases there
      exact ⟨rfl, rfl⟩
    | stray there | later there _ =>
      rw [here] at there
      cases there
  | stray here =>
    cases again with
    | stray there =>
      rw [here] at there
      cases there
      exact ⟨rfl, rfl⟩
    | fault there | later there _ =>
      rw [here] at there
      cases there
  | later here _ ih =>
    cases again with
    | fault there | stray there =>
      rw [here] at there
      cases there
    | later there rest =>
      rw [here] at there
      cases there
      exact ih rest

theorem Checked.eq_of_stopped {fills : List (Filler σ)} {memory after : σ} {fault : Fault}
    {finish : List Body → Except Fault α} {result : Except Fault α × σ}
    (checked : Checked fills finish memory result) (ended : Stopped fills memory fault after) :
    result = (.error fault, after) := by
  cases checked with
  | returned answered => exact absurd answered ended.not_returned
  | stopped again =>
    obtain ⟨rfl, rfl⟩ := ended.unique again
    rfl

theorem Checked.returned_of_ok {fills : List (Filler σ)} {memory after : σ}
    {finish : List Body → Except Fault α} {result : Except Fault α × σ} {a : α}
    (checked : Checked fills finish memory result) (done : result = (.ok a, after)) :
    ∃ bodies, Returned fills memory bodies after ∧ finish bodies = .ok a := by
  cases checked with
  | returned answered =>
    obtain ⟨finished, rfl⟩ := Prod.mk.inj done
    exact ⟨_, answered, finished⟩
  | stopped ended => cases (Prod.mk.inj done).1

theorem Returned.length {fills : List (Filler σ)} {memory after : σ} {bodies : List Body}
    (answered : Returned fills memory bodies after) : bodies.length = fills.length := by
  induction answered with
  | nil memory => rfl
  | cons here later ih => rw [List.length_cons, List.length_cons, ih]

theorem Checked.done {finish : List Body → Except Fault α} {memory : σ} {a : α}
    (same : finish [] = .ok a) :
    Checked [] finish memory ((pure a : Working σ α).outcome memory) := by
  rw [Working.outcome_pure, ← same]
  exact .returned (.nil memory)

theorem Checked.reading {finish : List Body → Except Fault α} {memory : σ}
    {x : Except Fault String} {k : String → Working σ α}
    (stopped : ∀ fault, x = .error fault → finish [] = .error fault)
    (rest : ∀ t, x = .ok t → Checked [] finish memory ((k t).outcome memory)) :
    Checked [] finish memory ((Fault.lift x >>= k).outcome memory) := by
  cases x with
  | error fault =>
    rw [Working.outcome_bind_error k (Working.outcome_lift _ memory), ← stopped fault rfl]
    exact .returned (.nil memory)
  | ok t =>
    rw [Working.outcome_bind_ok k (Working.outcome_lift _ memory)]
    exact rest t rfl

theorem Checked.behind {fill : Filler σ} {fills : List (Filler σ)} {memory next : σ} {b : Body}
    {finish : List Body → Except Fault α} {result : Except Fault α × σ}
    (here : fill.answer memory = (.ok (.good b), next))
    (checked : Checked fills (fun bs => finish (b :: bs)) next result) :
    Checked (fill :: fills) finish memory result := by
  cases checked with
  | returned answered => exact .returned (.cons here answered)
  | stopped ended => exact .stopped (.later here ended)

theorem Checked.filledBlock {fill : Filler σ} {fills : List (Filler σ)} {memory : σ}
    {finish : List Body → Except Fault α} {k : String → Working σ α}
    (rest : ∀ b next, Checked fills (fun bs => finish (b :: bs)) next ((k b.block).outcome next)) :
    Checked (fill :: fills) finish memory ((Body.filledBlock fill >>= k).outcome memory) := by
  unfold Body.filledBlock
  rw [bind_assoc]
  cases given : fill.answer memory with
  | mk answer next =>
    cases answer with
    | error fault =>
      rw [Working.outcome_bind_error _ given]
      exact .stopped (.fault given)
    | ok supplied =>
      rw [Working.outcome_bind_ok _ given]
      cases supplied with
      | stray v => exact .stopped (.stray given)
      | good b =>
        change Checked _ _ _ ((k b.block).outcome next)
        exact .behind given (rest b next)

end Checks

/-- An operation that adds control flow to a body, with its operands and its callbacks. -/
inductive Construct (σ : Type) where
  | branch (condition : Value) (yes : Filler σ)
  | branches (condition : Value) (yes no : Filler σ)
  | forOf (name collection : Value) (each : Filler σ)
  | forIn (name collection : Value) (each : Filler σ)
  | counting (first condition step : Value) (each : Filler σ)
  | looping (condition : Value) (each : Filler σ)
  | attempt (tried : Filler σ) (name : Value) (handler : Filler σ)
  | attemptFinally (tried : Filler σ) (name : Value) (handler last : Filler σ)

namespace Construct

variable {σ : Type}

def apply : Construct σ → Body → Working σ Body
  | branch condition yes, b => b.addIf condition yes
  | branches condition yes no, b => b.addIfElse condition yes no
  | forOf name collection each, b => b.addForOf name collection each
  | forIn name collection each, b => b.addForIn name collection each
  | counting first condition step each, b => b.addFor first condition step each
  | looping condition each, b => b.addWhile condition each
  | attempt tried name handler, b => b.addTryCatch tried name handler
  | attemptFinally tried name handler last, b => b.addTryCatchFinally tried name handler last

def fills : Construct σ → List (Filler σ)
  | branch _ yes => [yes]
  | branches _ yes no => [yes, no]
  | forOf _ _ each | forIn _ _ each | counting _ _ _ each | looping _ each => [each]
  | attempt tried _ handler => [tried, handler]
  | attemptFinally tried _ handler last => [tried, handler, last]

/-- What stands in front of the blocks, which takes the texts of the operands. -/
def heads : Construct σ → Except Fault (List String)
  | branch condition _ => do return ["if (" ++ (← condition.toText) ++ ") "]
  | branches condition _ _ => do return ["if (" ++ (← condition.toText) ++ ") ", " else "]
  | forOf name collection _ => do
    return ["for (const " ++ (← name.toText) ++ " of " ++ (← collection.toText) ++ ") "]
  | forIn name collection _ => do
    return ["for (const " ++ (← name.toText) ++ " in " ++ (← collection.toText) ++ ") "]
  | counting first condition step _ => do
    return ["for (" ++ (← first.toText) ++ "; " ++ (← condition.toText) ++ "; " ++
      (← step.toText) ++ ") "]
  | looping condition _ => do return ["while (" ++ (← condition.toText) ++ ") "]
  | attempt _ name _ => do return ["try ", " catch (" ++ (← name.toText) ++ ") "]
  | attemptFinally _ name _ _ => do
    return ["try ", " catch (" ++ (← name.toText) ++ ") ", " finally "]

/-- The body with the statement in which each head stands in front of the block of a body. -/
def finish (o : Construct σ) (b : Body) (bodies : List Body) : Except Fault Body := do
  let heads ← o.heads
  return b.append (String.join (List.zipWith (fun head inner => head ++ inner.block) heads bodies))

theorem checked_apply (o : Construct σ) (b : Body) (memory : σ) :
    Checked o.fills (o.finish b) memory ((o.apply b).outcome memory) := by
  cases o with
  | branch condition yes | looping condition yes =>
    refine .filledBlock fun _ _ => .reading ?_ fun c read => .done ?_
    · intro fault wrong
      rw [finish, heads, wrong]
      rfl
    · rw [finish, heads, read]
      rfl
  | branches condition yes no =>
    refine .filledBlock fun _ _ => .filledBlock fun _ _ => .reading ?_ fun c read => .done ?_
    · intro fault wrong
      rw [finish, heads, wrong]
      rfl
    · rw [finish, heads, read, String.append_assoc]
      rfl
  | forOf name collection each | forIn name collection each =>
    refine .filledBlock fun _ _ => .reading ?_ fun n named => .reading ?_ fun c read => .done ?_
    · intro fault wrong
      rw [finish, heads, wrong]
      rfl
    · intro fault wrong
      rw [finish, heads, named, wrong]
      rfl
    · simp [finish, heads, named, read, Step.ok_bind, String.join, pure, Except.pure,
        String.append_assoc]
  | counting first condition step each =>
    refine .filledBlock fun _ _ => .reading ?_ fun f started => .reading ?_ fun c read =>
      .reading ?_ fun s stepped => .done ?_
    · intro fault wrong
      rw [finish, heads, wrong]
      rfl
    · intro fault wrong
      rw [finish, heads, started, wrong]
      rfl
    · intro fault wrong
      rw [finish, heads, started, read, wrong]
      rfl
    · rw [finish, heads, started, read, stepped]
      rfl
  | attempt tried name handler =>
    refine .filledBlock fun _ _ => .filledBlock fun _ _ => .reading ?_ fun n named => .done ?_
    · intro fault wrong
      rw [finish, heads, wrong]
      rfl
    · simp [finish, heads, named, Step.ok_bind, String.join, pure, Except.pure,
        String.append_assoc]
  | attemptFinally tried name handler last =>
    refine .filledBlock fun _ _ => .filledBlock fun _ _ => .filledBlock fun _ _ =>
      .reading ?_ fun n named => .done ?_
    · intro fault wrong
      rw [finish, heads, wrong]
      rfl
    · simp [finish, heads, named, Step.ok_bind, String.join, pure, Except.pure,
        String.append_assoc]

end Construct

/-- What holds a body that a callback has filled. -/
inductive Holder where
  | method
  | constructor
  | arrow
  | property

abbrev Holder.Built : Holder → Type
  | method => Method
  | constructor => Constructor
  | arrow => Arrow
  | property => Property

inductive Slot : Holder → Type where
  | method : Slot .method
  | constructor : Slot .constructor
  | arrow : Slot .arrow
  | getter : Slot .property
  | setter : Slot .property

namespace Slot

variable {σ : Type} {holder : Holder}

def get : {holder : Holder} → Slot holder → holder.Built → Option (Supplied Body)
  | _, method, d => d.body
  | _, constructor, c => c.body
  | _, arrow, a => a.body
  | _, getter, p => p.getterBody
  | _, setter, p => p.setterBody

def put : {holder : Holder} → Slot holder → holder.Built → Option (Supplied Body) → holder.Built
  | _, method, d, body => { d with body }
  | _, constructor, c, body => { c with body }
  | _, arrow, a, body => { a with body }
  | _, getter, p, getterBody => { p with getterBody }
  | _, setter, p, setterBody => { p with setterBody }

def fill : {holder : Holder} → Slot holder → holder.Built → Filler σ → Working σ holder.Built
  | _, method, d, f => d.withBody f
  | _, constructor, c, f => c.withBody f
  | _, arrow, a, f => a.withBody f
  | _, getter, p, f => p.withGetterBody f
  | _, setter, p, f => p.withSetter f

@[simp] theorem get_put (slot : Slot holder) (x : holder.Built) (body : Option (Supplied Body)) :
    slot.get (slot.put x body) = body := by
  cases slot <;> rfl

theorem get_put_other {slot other : Slot holder} (apart : other ≠ slot) (x : holder.Built)
    (body : Option (Supplied Body)) : other.get (slot.put x body) = other.get x := by
  cases slot <;> cases other <;> first | rfl | exact absurd rfl apart

theorem fill_eq (slot : Slot holder) (x : holder.Built) (f : Filler σ) :
    slot.fill x f = f Body.empty >>= fun v => pure (slot.put x v.present) := by
  have kept : slot.fill x f = bodyFrom f >>= fun body => pure (slot.put x body) := by
    cases slot <;> rfl
  rw [kept, bodyFrom, bind_assoc]
  rfl

section

variable {slot : Slot holder} {x : holder.Built} {f : Filler σ} {memory next : σ}

theorem fill_answered {v : Supplied Body} (given : f.answer memory = (.ok v, next)) :
    (slot.fill x f).outcome memory = (.ok (slot.put x v.present), next) := by
  rw [fill_eq, Working.outcome_bind_ok _ given, Working.outcome_pure]

theorem fill_stopped {fault : Fault} (given : f.answer memory = (.error fault, next)) :
    (slot.fill x f).outcome memory = (.error fault, next) := by
  rw [fill_eq, Working.outcome_bind_error _ given]

end

/-- The builder that a checked operation gives for the body that a callback returns. -/
def finish (slot : Slot holder) (x : holder.Built) (bodies : List Body) :
    Except Fault holder.Built := .ok (slot.put x (bodies.head?.map .good))

theorem checked_fill_iff (slot : Slot holder) (x : holder.Built) (f : Filler σ) (memory : σ) :
    Checked [f] (slot.finish x) memory ((slot.fill x f).outcome memory) ↔
      ∀ v next, f.answer memory ≠ (.ok (.stray v), next) := by
  constructor
  · intro checked v next given
    have failed := checked.eq_of_stopped (.stray given)
    rw [fill_answered given] at failed
    cases failed
  · intro body
    cases given : f.answer memory with
    | mk answer next =>
      cases answer with
      | error fault =>
        rw [fill_stopped given]
        exact .stopped (.fault given)
      | ok supplied =>
        rw [fill_answered given]
        cases supplied with
        | good b => exact .returned (.cons given (.nil next))
        | stray v => exact absurd given (body v next)

def fillAll (fillings : List (Slot holder × Filler σ)) (x : holder.Built) :
    Working σ holder.Built :=
  fillings.foldlM (fun y filling => filling.1.fill y filling.2) x

theorem origin_of_fillAll {fillings : List (Slot holder × Filler σ)} {x y : holder.Built}
    {memory last : σ} (done : (fillAll fillings x).outcome memory = (.ok y, last))
    (slot : Slot holder) :
    slot.get y = slot.get x ∧ slot ∉ fillings.map Prod.fst ∨
      ∃ f v before after, (slot, f) ∈ fillings ∧ f.answer before = (.ok v, after) ∧
        slot.get y = v.present := by
  induction fillings generalizing x memory with
  | nil =>
    cases done
    exact .inl ⟨rfl, List.not_mem_nil⟩
  | cons filling rest ih =>
    obtain ⟨filled, f⟩ := filling
    unfold fillAll at done
    rw [List.foldlM_cons] at done
    cases given : f.answer memory with
    | mk answer next =>
      cases answer with
      | error fault =>
        rw [Working.outcome_bind_error _ (fill_stopped given)] at done
        cases done
      | ok v =>
        rw [Working.outcome_bind_ok _ (fill_answered given)] at done
        rcases ih done with ⟨same, unfilled⟩ | ⟨g, w, before, after, member, told, same⟩
        · by_cases here : slot = filled
          · subst here
            refine .inr ⟨f, v, memory, next, List.mem_cons_self, given, ?_⟩
            rw [same, get_put]
          · rw [get_put_other here] at same
            exact .inl ⟨same, by simp [here, unfilled]⟩
        · exact .inr ⟨g, w, before, after, List.mem_cons_of_mem _ member, told, same⟩

end Slot

/-- Main theorem. The operations that add control flow check their callbacks, whatever these do and
remember: each is handed an empty body, and anything but a body stops the operation. The operations
that give a member or an arrow function a body do the same unless something else than a body comes
back. Then they succeed all the same: nothing at all empties the slot, and any other value is
stored. So what a builder holds after any number of them is what some callback made of an empty
body, but it need not be a body. -/
theorem body_callbacks (σ : Type) :
    (∀ (o : Construct σ) (b : Body) (memory : σ),
      Checked o.fills (o.finish b) memory ((o.apply b).outcome memory) ∧
      ∀ fault after, Stopped o.fills memory fault after →
        (o.apply b).outcome memory = (.error fault, after)) ∧
    (∀ {holder : Holder} (slot : Slot holder) (x : holder.Built) (f : Filler σ) (memory : σ),
      (Checked [f] (slot.finish x) memory ((slot.fill x f).outcome memory) ↔
        ∀ v next, f.answer memory ≠ (.ok (.stray v), next)) ∧
      ∀ v next, f.answer memory = (.ok (.stray v), next) → (slot.fill x f).outcome memory =
        (.ok (slot.put x (Supplied.stray v).present), next)) ∧
    ∀ {holder : Holder} (fillings : List (Slot holder × Filler σ)) (x y : holder.Built)
      (memory last : σ), (Slot.fillAll fillings x).outcome memory = (.ok y, last) →
      ∀ slot : Slot holder, slot.get y = slot.get x ∧ slot ∉ fillings.map Prod.fst ∨
        ∃ f v before after, (slot, f) ∈ fillings ∧ f.answer before = (.ok v, after) ∧
          slot.get y = v.present := by
  refine ⟨fun o b memory => ⟨o.checked_apply b memory, ?_⟩,
    fun slot x f memory => ⟨slot.checked_fill_iff x f memory, ?_⟩,
    fun _ _ _ _ _ done => Slot.origin_of_fillAll done⟩
  · intro fault after ended
    exact (o.checked_apply b memory).eq_of_stopped ended
  · intro v next given
    exact Slot.fill_answered given

/-- A callback that returns its body when it is first called, and nothing from then on. -/
def once : Filler Nat := fun b => do
  let calls ← get
  set (calls + 1)
  return if calls = 0 then .good b else .stray .none

/-- The theorem at work: the second branch is asked for, and its missing body stops the
operation. -/
theorem body_callbacks_once :
    let o := Construct.branches "ready" once once
    Stopped o.fills 0 Fault.noBody 2 ∧ (o.apply {}).outcome 0 = (.error Fault.noBody, 2) := by
  have first : once.answer 0 = (.ok (.good Body.empty), 1) := rfl
  have second : once.answer 1 = (.ok (.stray .none), 2) := rfl
  have ended : Stopped [once, once] 0 Fault.noBody 2 := .later first (.stray second)
  exact ⟨ended, ((body_callbacks Nat).1 (.branches "ready" once once) {} 0).2 _ _ ended⟩

/-- A callback that adds a statement and forgets to return the body. -/
def forgetful : Filler Unit := fun b => do
  let _ ← Fault.lift (b.addReturn "1")
  return .stray .none

/-- The operation succeeds, and the method has no body. -/
theorem forgetful_method :
    forgetful.answer () = (.ok (.stray .none), ()) ∧
    (Slot.method.fill { name := "run" } forgetful).outcome () = (.ok { name := "run" }, ()) ∧
    ¬ Checked [forgetful] (Slot.method.finish { name := "run" }) ()
      ((Slot.method.fill { name := "run" } forgetful).outcome ()) ∧
    Declaration.file { header := .none } { name := "Job", methods := [.good { name := "run" }] } =
      .ok "class Job \x7b\n  run() \x7b\x7d\n\x7d\n" :=
  ⟨rfl, rfl, fun checked => (Slot.checked_fill_iff _ _ _ _).mp checked .none () rfl, rfl⟩

end TypeScriptGen
