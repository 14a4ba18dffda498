import TypeScriptGen.Proofs.LineAlgebra
import TypeScriptGen.Proofs.Typed

/-!
Calls of the base class. A constructor is made by a sequence of calls, some of which ask for a call
of the base class; the last such request holds. Main statement: the constructor opens its body with
a call of the base class, in front of all lines of the body, exactly if the last request has
arguments. A request without arguments leaves no trace: it makes the constructor that is made
without any request.
-/

set_option autoImplicit false
set_option relaxedAutoImplicit false

namespace TypeScriptGen

open Rendering Step

/-- A call that changes a constructor. A parameter is handed over as it is, or made from what a
callback does with a fresh one. -/
inductive ConstructorCall where
  | access (a : Supplied Access)
  | parameter (p : Parameter)
  | newParameter (name type : Value)
      (configure : Option (Parameter → Except Fault (Supplied Parameter)))
  | body (fill : Body → Except Fault (Supplied Body))
  | callsSuper (arguments : List Value)
  | overload (v : Value)

def Constructor.withoutSuper (c : Constructor) : Constructor := { c with superArguments := [] }

namespace ConstructorCall

def apply : ConstructorCall → Constructor → Except Fault Constructor
  | .access a, c => .ok { c with access := a }
  | .parameter p, c => .ok (c.addParameter (.good p))
  | .newParameter name type configure, c => do
    return c.addParameter (← Parameter.configured name type configure)
  | .body fill, c => c.withBody fill
  | .callsSuper arguments, c => c.callsSuper arguments
  | .overload v, c => .ok (c.addOverload v)

def applyAll : List ConstructorCall → Constructor → Except Fault Constructor
  | [], c => .ok c
  | call :: rest, c => do applyAll rest (← call.apply c)

def asksForSuper : ConstructorCall → Bool
  | .callsSuper _ => true
  | _ => false

/-- The request that holds after a call, given the one before it. -/
def request (before : Option (List Value)) : ConstructorCall → Option (List Value)
  | .callsSuper arguments => some arguments
  | _ => before

/-- The arguments of the last request for a call of the base class, if there is one. -/
def lastRequest (calls : List ConstructorCall) : Option (List Value) := calls.foldl request none

/-! One call. -/

/-- The constructor has the texts of the arguments that are requested, and none without request. -/
def Serves (c : Constructor) (request : Option (List Value)) : Prop :=
  Value.toTexts (request.getD []) = .ok c.superArguments

variable {c c' : Constructor}

private theorem apply_serves {call : ConstructorCall} {before : Option (List Value)}
    (served : Serves c before) (done : call.apply c = .ok c') :
    Serves c' (call.request before) := by
  cases call with
  | callsSuper arguments =>
    obtain ⟨texts, made, same⟩ := bind_eq_ok.mp done
    cases same
    exact made
  | newParameter | body =>
    obtain ⟨_, _, same⟩ := bind_eq_ok.mp done
    cases same
    exact served
  | access | parameter | overload =>
    cases done
    exact served

private theorem apply_withoutSuper {call : ConstructorCall} (silent : call.asksForSuper = false)
    (done : call.apply c = .ok c') : call.apply c.withoutSuper = .ok c'.withoutSuper := by
  cases call with
  | callsSuper arguments => cases silent
  | newParameter | body =>
    obtain ⟨made, given, same⟩ := bind_eq_ok.mp done
    cases same
    exact bind_eq_ok.mpr ⟨made, given, rfl⟩
  | access | parameter | overload =>
    cases done
    rfl

private theorem withoutSuper_of_asks {call : ConstructorCall} (asks : call.asksForSuper = true)
    (done : call.apply c = .ok c') : c'.withoutSuper = c.withoutSuper := by
  cases call with
  | callsSuper arguments =>
    obtain ⟨texts, _, same⟩ := bind_eq_ok.mp done
    cases same
    rfl
  | _ => cases asks

/-! Sequences of calls. -/

variable {calls : List ConstructorCall}

private theorem applyAll_serves {before : Option (List Value)} (served : Serves c before)
    (done : applyAll calls c = .ok c') : Serves c' (calls.foldl request before) := by
  -- The induction carries the request that holds so far, and that the constructor serves it.
  induction calls generalizing c before with
  | nil =>
    cases done
    exact served
  | cons call rest ih =>
    obtain ⟨between, first, others⟩ := bind_eq_ok.mp done
    exact ih (apply_serves served first) others

private theorem applyAll_withoutSuper (done : applyAll calls c = .ok c') :
    applyAll (calls.filter fun call => !call.asksForSuper) c.withoutSuper =
      .ok c'.withoutSuper := by
  induction calls generalizing c with
  | nil =>
    cases done
    rfl
  | cons call rest ih =>
    obtain ⟨between, first, others⟩ := bind_eq_ok.mp done
    cases asks : call.asksForSuper with
    | true =>
      rw [List.filter_cons_of_neg (by simp [asks]), ← withoutSuper_of_asks asks first]
      exact ih others
    | false =>
      rw [List.filter_cons_of_pos (by simp [asks])]
      exact bind_eq_ok.mpr ⟨_, apply_withoutSuper asks first, ih others⟩

end ConstructorCall

namespace Rendering

/-- The opening line of a constructor, up to its body. -/
def constructorHead (indent : String) (c : Constructor) : Except Fault String := do
  let access ← Access.lead c.access
  let parameters ← Parameter.renderAll true c.parameters
  return indent ++ access ++ "constructor(" ++ parameters ++ ")"

def superLine (s : Settings) (inner : String) (arguments : List String) : String :=
  inner ++ "super(" ++ ", ".intercalate arguments ++ ")" ++ s.semicolon

def statementLines : Option (Supplied Body) → List String
  | some (.good b) => b.statements.flatMap Text.lines
  | _ => []

private theorem optionalBodyLines_eq_ok {inner : String} {body : Option (Supplied Body)}
    {ls : List String} (shown : optionalBodyLines inner body = .ok ls) :
    ls = (statementLines body).map (inner ++ ·) := by
  cases body with
  | none =>
    cases shown
    rfl
  | some b =>
    cases b with
    | stray v => cases shown
    | good b =>
      cases shown
      exact Text.flatMap_leadLines inner b.statements

theorem constructorLines_eq_ok {s : Settings} {indent : String} {c : Constructor}
    {ls : List String} (shown : constructorLines s indent (.good c) = .ok ls) :
    ∃ inner overloads head, s.deeper indent = .ok inner ∧
      signatureLines s indent c.overloads = .ok overloads ∧ constructorHead indent c = .ok head ∧
      ls = overloads ++ if c.body.isNone && c.superArguments.isEmpty then [head ++ " \x7b\x7d"] else
        [head ++ " \x7b"] ++
          (if c.superArguments.isEmpty then [] else [superLine s inner c.superArguments]) ++
          (statementLines c.body).map (inner ++ ·) ++ [indent ++ "\x7d"] := by
  obtain ⟨inner, deeper, shown⟩ := bind_eq_ok.mp shown
  obtain ⟨overloads, signed, shown⟩ := bind_eq_ok.mp shown
  obtain ⟨access, led, shown⟩ := bind_eq_ok.mp shown
  obtain ⟨parameters, listed, shown⟩ := bind_eq_ok.mp shown
  have head : constructorHead indent c =
      .ok (indent ++ access ++ "constructor(" ++ parameters ++ ")") :=
    bind_eq_ok.mpr ⟨access, led, bind_eq_ok.mpr ⟨parameters, listed, rfl⟩⟩
  refine ⟨inner, overloads, _, deeper, signed, head, ?_⟩
  by_cases bare : (c.body.isNone && c.superArguments.isEmpty) = true
  · rw [if_pos bare] at shown ⊢
    exact (Except.ok.inj shown).symm
  · rw [if_neg bare] at shown ⊢
    obtain ⟨body, filled, same⟩ := bind_eq_ok.mp shown
    rw [optionalBodyLines_eq_ok filled] at same
    have lines := (Except.ok.inj same).symm
    simpa only [List.append_assoc, superLine] using lines

end Rendering

namespace ConstructorCall

variable {c : Constructor} {calls : List ConstructorCall}

/-- Main theorem. If the last request has arguments, then the constructor is a block whose first
line calls the base class with their texts, followed by the lines of the body. If there is no
request or the last one has no arguments, then there is no such line: the constructor is a block of
the lines of its body, or nothing at all between braces if it has no body, and it is the constructor
that the calls make without any request. -/
theorem superLine_leads (done : applyAll calls {} = .ok c) (s : Settings) (indent : String) :
    (c.Typed → s.indentation.IsText → Succeeds (constructorLines s indent (.good c))) ∧
    ((lastRequest calls).getD [] = [] →
      applyAll (calls.filter fun call => !call.asksForSuper) {} = .ok c) ∧
    ∀ ls, constructorLines s indent (.good c) = .ok ls →
      ∃ inner overloads head, s.deeper indent = .ok inner ∧
        signatureLines s indent c.overloads = .ok overloads ∧ constructorHead indent c = .ok head ∧
        (∀ v vs, lastRequest calls = some (v :: vs) →
          ∃ arguments, Value.toTexts (v :: vs) = .ok arguments ∧
            ls = overloads ++ [head ++ " \x7b", superLine s inner arguments] ++
              (statementLines c.body).map (inner ++ ·) ++ [indent ++ "\x7d"]) ∧
        ((lastRequest calls).getD [] = [] → ls = overloads ++
          if c.body.isNone then [head ++ " \x7b\x7d"]
          else [head ++ " \x7b"] ++ (statementLines c.body).map (inner ++ ·) ++
            [indent ++ "\x7d"]) := by
  have fresh : Serves {} none := rfl
  have served : Serves c (lastRequest calls) := applyAll_serves fresh done
  have unserved : (lastRequest calls).getD [] = [] → c.superArguments = [] := by
    intro empty
    unfold Serves at served
    rw [empty] at served
    exact (Except.ok.inj served).symm
  have typed : c.Typed → Supplied.Fits Constructor.Typed (.good c) := id
  refine ⟨fun slots text => succeeds_constructorLines (typed slots) text indent, fun empty => ?_,
    fun ls shown => ?_⟩
  · have same : c.withoutSuper = c := by
      unfold Constructor.withoutSuper
      rw [← unserved empty]
    exact same ▸ applyAll_withoutSuper done
  · obtain ⟨inner, overloads, head, deeper, signed, headed, lines⟩ := constructorLines_eq_ok shown
    refine ⟨inner, overloads, head, deeper, signed, headed, fun v vs asked => ?_, fun empty => ?_⟩
    · rw [Serves, asked, Option.getD_some] at served
      refine ⟨c.superArguments, served, ?_⟩
      have filled : c.superArguments.isEmpty = false := by
        obtain ⟨t, _, rest⟩ := bind_eq_ok.mp served
        obtain ⟨ts, _, same⟩ := bind_eq_ok.mp rest
        rw [← Except.ok.inj same]
        rfl
      rw [lines, filled, Bool.and_false]
      simp
    · rw [lines, unserved empty]
      simp

/-- Calls that ask for a call of the base class twice, with a body in between. -/
def asking : List ConstructorCall :=
  [.callsSuper ["old"], .body fun b => (b.addStatement "run()").map .good,
    .callsSuper ["name", "size"]]

/-- The theorem at work: the later of two requests, in front of the body. -/
theorem superLine_leads_asking :
    ∃ c, applyAll asking {} = .ok c ∧ lastRequest asking = some [.text "name", .text "size"] ∧
      ∃ head, constructorHead "  " c = .ok head ∧ constructorLines {} "  " (.good c) =
        .ok [head ++ " \x7b", "    super(name, size);", "    run();", "  \x7d"] := by
  have done : applyAll asking {} = .ok _ := rfl
  refine ⟨_, done, rfl, ?_⟩
  obtain ⟨_, _, lines⟩ := superLine_leads done {} "  "
  obtain ⟨inner, overloads, head, deeper, signed, headed, requested, _⟩ := lines _ rfl
  obtain ⟨arguments, texts, same⟩ := requested _ _ rfl
  cases deeper
  cases signed
  cases texts
  exact ⟨head, headed, congrArg Except.ok same⟩

/-- A request without arguments is lost: the class has no call of its base class. -/
theorem superLine_lost :
    ∃ c, applyAll [.callsSuper []] {} = .ok c ∧ lastRequest [.callsSuper []] = some [] ∧
      Declaration.file { header := .none }
          { name := "Child", bases := ["Base"], constructors := [.good c] } =
        .ok "class Child extends Base \x7b\n  constructor() \x7b\x7d\n\x7d\n" :=
  ⟨_, rfl, rfl, rfl⟩

end ConstructorCall

end TypeScriptGen
