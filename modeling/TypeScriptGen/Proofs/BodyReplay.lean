import Mathlib.Data.List.DropRight
import TypeScriptGen.Proofs.BodyCallbacks
import TypeScriptGen.Proofs.BodyPrinting

/-!
A body can be replayed from its statements. Whatever operations built it, whatever the callbacks of
its blocks did, every statement but a comment is settled: it is not blank, and closing it changes
nothing. Main statement: the statements of a body without comments, added one by one to an empty
body, give the body again; and no operation touches a statement that is there.
-/

set_option autoImplicit false
set_option relaxedAutoImplicit false

namespace TypeScriptGen

namespace Text

theorem trimEnd_trimEnd (s : String) : trimEnd (trimEnd s) = trimEnd s := by
  have twice := List.rdropWhile_idempotent isBlankChar s.toList
  unfold trimEnd
  rw [String.toList_ofList]
  exact congrArg String.ofList twice

theorem trimEnd_of_last {s : String} {c : Char} (last : s.toList.getLast? = some c)
    (seen : isBlankChar c = false) : trimEnd s = s := by
  obtain ⟨front, whole⟩ := List.getLast?_eq_some_iff.mp last
  have kept : (front ++ [c]).rdropWhile isBlankChar = front ++ [c] :=
    List.rdropWhile_concat_neg _ _ _ (by simp [seen])
  unfold trimEnd
  rw [whole]
  refine (congrArg String.ofList kept).trans ?_
  rw [← whole, String.ofList_toList]

/-- The text is not blank, and closing it as a statement changes nothing. -/
def Settled (t : String) : Prop := isBlank t = false ∧ closeStatement t = t

theorem settled_of_last {t : String} {c : Char} (last : t.toList.getLast? = some c)
    (closes : closesStatement c = true) : Settled t := by
  have seen : isBlankChar c = false := by
    have signs : c = ';' ∨ c = '\x7d' ∨ c = '\x7b' := by
      simpa [closesStatement, or_assoc] using closes
    rcases signs with rfl | rfl | rfl <;> decide
  constructor
  · unfold isBlank
    rw [List.all_eq_false]
    exact ⟨c, List.mem_of_getLast? last, by simp [seen]⟩
  · unfold closeStatement
    dsimp only
    rw [trimEnd_of_last last seen, last]
    exact if_pos closes

theorem settled_ended (s : String) : Settled (s ++ ";") :=
  settled_of_last (c := ';') (by simp) (by decide)

theorem settled_closeStatement (s : String) : Settled (closeStatement s) := by
  unfold closeStatement
  dsimp only
  split
  case h_1 c last =>
    split
    case isTrue closes => exact settled_of_last last closes
    case isFalse => exact settled_ended (trimEnd s)
  case h_2 => exact settled_ended ""

theorem splitAtChar_of_joined {t : String} (joined : "\n".intercalate (lines t) = t) :
    splitAtChar '\n' t = lines t := by
  have noReturns := toList_intercalate_lines t
  rw [joined] at noReturns
  unfold lines splitAtChar
  rw [← noReturns]

theorem beginsWith_comment (line : String) : beginsWith "//" (trimEnd ("// " ++ line)) = true := by
  have mark : "//".toList = ['/', '/'] := rfl
  have spaced : "// ".toList = ['/', '/', ' '] := rfl
  have trimmed : ['/', '/', ' '].reverse.dropWhile isBlankChar = ['/', '/'] := by decide
  unfold beginsWith trimEnd dropEndWhile
  rw [mark, List.isPrefixOf_iff_prefix, String.toList_ofList, String.toList_append, spaced,
    List.reverse_append, List.dropWhile_append, trimmed]
  split
  case isTrue => exact List.prefix_refl _
  case isFalse =>
    rw [List.reverse_append, List.reverse_reverse]
    exact ⟨' ' :: _, rfl⟩

end Text

theorem Value.isBlank_cases (v : Value) : v.isBlank = .ok true ∨
    (∃ fault, v.toText = .error fault ∧ v.isBlank = .error fault) ∨
    (∃ s, v.toText = .ok s ∧ v.isBlank = .ok false) := by
  unfold isBlank
  split
  case isTrue => exact .inl rfl
  case isFalse =>
    cases v.toText with
    | error fault => exact .inr (.inl ⟨fault, rfl, rfl⟩)
    | ok s =>
      cases blank : Text.isBlank s with
      | true => exact .inl (congrArg Except.ok blank)
      | false => exact .inr (.inr ⟨s, rfl, congrArg Except.ok blank⟩)

namespace Body

open Step

def blankStatement : Fault := .refuse "Statement cannot be empty or whitespace." "statement"

/-- The body has grown at its end, by so many statements that all satisfy `P`. -/
def GrownBy (count : Nat) (P : String → Prop) (b b' : Body) : Prop :=
  ∃ added, b'.statements = b.statements ++ added ∧ added.length = count ∧ ∀ t ∈ added, P t

namespace GrownBy

variable {m n : Nat} {P Q : String → Prop} {b b₁ b₂ : Body}

theorem refl : GrownBy 0 P b b := ⟨[], by simp, rfl, by simp⟩

theorem append {t : String} (holds : P t) : GrownBy 1 P b (b.append t) :=
  ⟨[t], rfl, rfl, by simpa using holds⟩

theorem mono (image : ∀ t, P t → Q t) (grown : GrownBy n P b b₁) : GrownBy n Q b b₁ := by
  obtain ⟨added, same, count, all⟩ := grown
  exact ⟨added, same, count, fun t member => image t (all t member)⟩

theorem trans (first : GrownBy m P b b₁) (second : GrownBy n P b₁ b₂) :
    GrownBy (m + n) P b b₂ := by
  obtain ⟨added, same, count, all⟩ := first
  obtain ⟨more, sameToo, countToo, allToo⟩ := second
  refine ⟨added ++ more, ?_, ?_, ?_⟩
  · rw [sameToo, same, List.append_assoc]
  · rw [List.length_append, count, countToo]
  · exact List.forall_mem_append.mpr ⟨all, allToo⟩

end GrownBy

theorem getLast?_block (b : Body) : b.block.toList.getLast? = some '\x7d' := by
  unfold block
  split
  case isTrue => decide
  case isFalse =>
    obtain ⟨before, whole⟩ := Text.intercalate_concat "\n"
      ("\x7b" :: b.statements.flatMap (Text.leadLines blockIndent)) "\x7d"
    rw [blockLines, whole, String.toList_append, List.getLast?_append]
    rfl

theorem getLast?_blocks {heads : List String} {bodies : List Body} (filled : bodies ≠ [])
    (same : heads.length = bodies.length) :
    (String.join (List.zipWith (fun head inner => head ++ inner.block) heads
      bodies)).toList.getLast? = some '\x7d' := by
  induction heads generalizing bodies with
  | nil => exact absurd (List.length_eq_zero_iff.mp same.symm) filled
  | cons head heads ih =>
    cases bodies with
    | nil => exact absurd rfl filled
    | cons inner bodies =>
      rw [List.zipWith_cons_cons, String.join_cons, String.toList_append, List.getLast?_append]
      -- Only the last block counts, so the induction is asked for one body at least.
      cases bodies with
      | nil =>
        have block := inner.getLast?_block
        rw [List.zipWith_nil_right]
        simp [block]
      | cons next bodies =>
        rw [ih (List.cons_ne_nil _ _) (Nat.succ.inj same)]
        rfl

def AddsSettled (b : Body) (x : Except Fault Body) : Prop :=
  ∀ b', x = .ok b' → ∃ t, b' = b.append t ∧ Text.Settled t

section Statements

variable {b b' : Body} {v : Value}

theorem addStatement_of_blank (b : Body) (blank : v.isBlank = .ok true) :
    b.addStatement v = .error blankStatement := by
  unfold addStatement
  rw [blank]
  rfl

theorem addStatement_of_text (b : Body) {s : String} (text : v.toText = .ok s)
    (spoken : v.isBlank = .ok false) :
    b.addStatement v = .ok (b.append (Text.closeStatement s)) := by
  unfold addStatement
  rw [spoken, ok_bind, if_neg (by decide), text]
  rfl

theorem addStatement_of_settled (b : Body) {t : String} (settled : Text.Settled t) :
    b.addStatement (.text t) = .ok (b.append t) := by
  have spoken : (Value.text t).isBlank = .ok false := congrArg Except.ok settled.1
  rw [addStatement_of_text b rfl spoken, settled.2]

theorem addsSettled_addStatement (b : Body) (v : Value) : b.AddsSettled (b.addStatement v) := by
  intro b' done
  obtain ⟨blank, _, done⟩ := bind_eq_ok.mp done
  cases blank with
  | true => cases done
  | false =>
    obtain ⟨s, _, done⟩ := bind_eq_ok.mp done
    cases done
    exact ⟨_, rfl, Text.settled_closeStatement s⟩

theorem addStatements_of_settled {ts : List String} (settled : ∀ t ∈ ts, Text.Settled t)
    (b : Body) : b.addStatements (ts.map .text) = .ok { statements := b.statements ++ ts } := by
  induction ts generalizing b with
  | nil => rw [List.append_nil]; rfl
  | cons t rest ih =>
    have others := ih (fun u member => settled u (List.mem_cons_of_mem t member)) (b.append t)
    rw [List.map_cons, addStatements, addStatement_of_settled b (settled t List.mem_cons_self),
      ok_bind, others, append, List.append_assoc, List.singleton_append]

theorem settled_of_addStatements {vs : List Value} (done : b.addStatements vs = .ok b') :
    GrownBy vs.length Text.Settled b b' := by
  induction vs generalizing b with
  | nil =>
    cases done
    exact .refl
  | cons v rest ih =>
    obtain ⟨b₁, first, done⟩ := bind_eq_ok.mp done
    obtain ⟨t, rfl, settled⟩ := b.addsSettled_addStatement v b₁ first
    rw [List.length_cons, Nat.add_comm]
    exact (GrownBy.append settled).trans (ih done)

theorem addStatements_of_blank (b : Body) (front : List Value) (blank : v.isBlank = .ok true)
    (rest : List Value) :
    b.addStatements (front ++ v :: rest) = .error blankStatement ∨
      ∃ u ∈ front, ∃ fault, u.toText = .error fault ∧
        b.addStatements (front ++ v :: rest) = .error fault := by
  induction front generalizing b with
  | nil =>
    left
    rw [List.nil_append, addStatements, addStatement_of_blank b blank]
    rfl
  | cons u front ih =>
    rw [List.cons_append, addStatements]
    -- Whatever stops the call, it stops it at the first statement that is not added.
    rcases u.isBlank_cases with refused | ⟨fault, wrong, unread⟩ | ⟨s, text, spoken⟩
    · left
      rw [addStatement_of_blank b refused]
      rfl
    · refine .inr ⟨u, List.mem_cons_self, fault, wrong, ?_⟩
      unfold addStatement
      rw [unread]
      rfl
    · rw [addStatement_of_text b text spoken, ok_bind]
      rcases ih (b.append (Text.closeStatement s)) with refused | ⟨w, member, fault, wrong, stopped⟩
      · exact .inl refused
      · exact .inr ⟨w, List.mem_cons_of_mem u member, fault, wrong, stopped⟩

theorem addsSettled_addReturn (b : Body) (v : Value) : b.AddsSettled (b.addReturn v) := by
  intro b' done
  obtain ⟨text, _, done⟩ := bind_eq_ok.mp done
  cases text with
  | none =>
    cases done
    exact ⟨_, rfl, Text.settled_ended "return"⟩
  | some e =>
    cases done
    exact ⟨_, rfl, Text.settled_ended _⟩

theorem addsSettled_addThrow (b : Body) (v : Value) : b.AddsSettled (b.addThrow v) := by
  intro b' done
  obtain ⟨text, _, done⟩ := bind_eq_ok.mp done
  cases done
  exact ⟨_, rfl, Text.settled_ended _⟩

theorem addsSettled_addVariable (b : Body) (keyword : String) (name expression type : Value) :
    b.AddsSettled (b.addVariable keyword name expression type) := by
  intro b' done
  obtain ⟨blank, _, done⟩ := bind_eq_ok.mp done
  cases blank with
  | true => cases done
  | false =>
    obtain ⟨_, _, done⟩ := bind_eq_ok.mp done
    obtain ⟨_, _, done⟩ := bind_eq_ok.mp done
    obtain ⟨_, _, done⟩ := bind_eq_ok.mp done
    cases done
    exact ⟨_, rfl, Text.settled_ended _⟩

end Statements

theorem addComment_text (b : Body) (s : String) :
    ∃ t, b.addComment (.text s) = .ok (b.append t) ∧
      Text.splitAtChar '\n' t = (Text.lines s).map fun line => Text.trimEnd ("// " ++ line) := by
  refine ⟨_, rfl, ?_⟩
  have cut := Operation.lines_comment s
  rw [Text.splitAtChar_of_joined (by rw [cut]), cut]

end Body

namespace Construct

open Step

variable {σ : Type}

theorem length_heads {o : Construct σ} {heads : List String} (read : o.heads = .ok heads) :
    heads.length = o.fills.length := by
  cases o with
  | branch condition yes | branches condition yes no | looping condition yes
  | attempt tried condition handler | attemptFinally tried condition handler last =>
    obtain ⟨_, _, done⟩ := bind_eq_ok.mp read
    cases done
    rfl
  | forOf name collection each | forIn name collection each =>
    obtain ⟨_, _, done⟩ := bind_eq_ok.mp read
    obtain ⟨_, _, done⟩ := bind_eq_ok.mp done
    cases done
    rfl
  | counting first condition step each =>
    obtain ⟨_, _, done⟩ := bind_eq_ok.mp read
    obtain ⟨_, _, done⟩ := bind_eq_ok.mp done
    obtain ⟨_, _, done⟩ := bind_eq_ok.mp done
    cases done
    rfl

theorem fills_ne_nil (o : Construct σ) : o.fills ≠ [] := by
  cases o <;> exact List.cons_ne_nil _ _

theorem settled_of_apply {o : Construct σ} {b b' : Body} {memory next : σ}
    (done : (o.apply b).outcome memory = (.ok b', next)) :
    ∃ t, b' = b.append t ∧ Text.Settled t := by
  obtain ⟨bodies, answered, finished⟩ := (o.checked_apply b memory).returned_of_ok done
  obtain ⟨heads, read, made⟩ := bind_eq_ok.mp finished
  cases made
  -- The callbacks matter only by the number of bodies they leave, one behind each head.
  have count : heads.length = bodies.length := (length_heads read).trans answered.length.symm
  have filled : bodies ≠ [] := by
    intro nothing
    have empty := answered.length
    rw [nothing] at empty
    exact o.fills_ne_nil (List.length_eq_zero_iff.mp empty.symm)
  exact ⟨_, rfl, Text.settled_of_last (Body.getLast?_blocks filled count) (by decide)⟩

end Construct

/-- A call of an operation on a body. The callbacks of control flow are computations of any kind. -/
inductive BodyCall (σ : Type) where
  | statement (v : Value)
  | statements (vs : List Value)
  | returning (v : Value)
  | throwing (v : Value)
  | constant (name expression type : Value)
  | variable (name expression type : Value)
  | comment (v : Value)
  | construct (o : Construct σ)

namespace BodyCall

variable {σ : Type}

def apply : BodyCall σ → Body → Working σ Body
  | .statement v, b => Fault.lift (b.addStatement v)
  | .statements vs, b => Fault.lift (b.addStatements vs)
  | .returning v, b => Fault.lift (b.addReturn v)
  | .throwing v, b => Fault.lift (b.addThrow v)
  | .constant name expression type, b => Fault.lift (b.addConst name expression type)
  | .variable name expression type, b => Fault.lift (b.addLet name expression type)
  | .comment v, b => Fault.lift (b.addComment v)
  | .construct o, b => o.apply b

def count : BodyCall σ → Nat
  | .statements vs => vs.length
  | _ => 1

def applyAll : List (BodyCall σ) → Body → Working σ Body
  | [], b => pure b
  | call :: rest, b => do applyAll rest (← call.apply b)

def NoComment (call : BodyCall σ) : Prop := ∀ v, call ≠ comment v

theorem grownBy_of_apply {call : BodyCall σ} {b b' : Body} {memory next : σ}
    (done : (call.apply b).outcome memory = (.ok b', next)) :
    Body.GrownBy call.count (fun t => call.NoComment → Text.Settled t) b b' := by
  have lifted : ∀ {x : Except Fault Body},
      (Fault.lift x : Working σ Body).outcome memory = (.ok b', next) → x = .ok b' := by
    intro x given
    rw [Working.outcome_lift] at given
    exact (Prod.mk.inj given).1
  have one : ∀ {x : Except Fault Body}, b.AddsSettled x → x = .ok b' →
      Body.GrownBy 1 (fun t => call.NoComment → Text.Settled t) b b' := by
    intro x adds given
    obtain ⟨t, rfl, settled⟩ := adds b' given
    exact .append fun _ => settled
  cases call with
  | statement v => exact one (b.addsSettled_addStatement v) (lifted done)
  | statements vs =>
    exact (Body.settled_of_addStatements (lifted done)).mono fun t settled _ => settled
  | returning v => exact one (b.addsSettled_addReturn v) (lifted done)
  | throwing v => exact one (b.addsSettled_addThrow v) (lifted done)
  | constant name expression type =>
    exact one (b.addsSettled_addVariable "const" name expression type) (lifted done)
  | «variable» name expression type =>
    exact one (b.addsSettled_addVariable "let" name expression type) (lifted done)
  | comment v =>
    -- A comment is not settled, as no sign of a statement closes it.
    obtain ⟨s, _, made⟩ := Step.bind_eq_ok.mp (lifted done)
    cases made
    exact .append fun other => absurd rfl (other v)
  | construct o =>
    obtain ⟨t, rfl, settled⟩ := Construct.settled_of_apply done
    exact .append fun _ => settled

theorem grownBy_of_applyAll {calls : List (BodyCall σ)} {b b' : Body} {memory next : σ}
    (done : (applyAll calls b).outcome memory = (.ok b', next)) :
    Body.GrownBy (calls.map count).sum
      (fun t => (∀ call ∈ calls, call.NoComment) → Text.Settled t) b b' := by
  induction calls generalizing b memory with
  | nil =>
    cases done
    exact .refl
  | cons call rest ih =>
    unfold applyAll at done
    rcases first : (call.apply b).outcome memory with ⟨_ | b₁, next₁⟩
    · rw [Working.outcome_bind_error _ first] at done
      cases done
    · rw [Working.outcome_bind_ok _ first] at done
      refine ((grownBy_of_apply first).mono ?_).trans ((ih done).mono ?_)
      · exact fun t settled uncommented => settled (uncommented call List.mem_cons_self)
      · exact fun t settled uncommented =>
          settled fun other member => uncommented other (List.mem_cons_of_mem call member)

end BodyCall

/-- Main theorem. The statements of a body that was built by any calls but those for a comment,
around callbacks of any kind, are settled, and added one by one to an empty body they give the body
again. A comment is one statement of lines that begin with the mark and end without blanks. Every
call leaves the statements that are there and adds its own at the end. A blank statement is refused
among others, unless one in front of it has no text and stops the call. -/
theorem body_replays (σ : Type) :
    (∀ (calls : List (BodyCall σ)) (b : Body) (memory next : σ),
      (∀ call ∈ calls, call.NoComment) →
      (BodyCall.applyAll calls Body.empty).outcome memory = (.ok b, next) →
        (∀ t ∈ b.statements, Text.isBlank t = false ∧ Text.closeStatement t = t) ∧
        Body.empty.addStatements (b.statements.map .text) = .ok b) ∧
    (∀ (b : Body) (s : String), ∃ t, b.addComment (.text s) = .ok (b.append t) ∧
      ∀ line ∈ Text.splitAtChar '\n' t,
        Text.beginsWith "//" line = true ∧ Text.trimEnd line = line) ∧
    (∀ (call : BodyCall σ) (b b' : Body) (memory next : σ),
      (call.apply b).outcome memory = (.ok b', next) →
        ∃ added, b'.statements = b.statements ++ added ∧ added.length = call.count) ∧
    ∀ (b : Body) (front rest : List Value) (v : Value), v.isBlank = .ok true →
      b.addStatements (front ++ v :: rest) = .error Body.blankStatement ∨
        ∃ u ∈ front, ∃ fault, u.toText = .error fault ∧
          b.addStatements (front ++ v :: rest) = .error fault := by
  refine ⟨?_, ?_, ?_, ?_⟩
  · intro calls b memory next uncommented done
    obtain ⟨added, grown, _, settled⟩ := BodyCall.grownBy_of_applyAll done
    have whole : b.statements = added := grown
    rw [whole]
    refine ⟨fun t member => settled t member uncommented, ?_⟩
    rw [Body.addStatements_of_settled fun t member => settled t member uncommented, ← grown]
  · intro b s
    obtain ⟨t, done, cut⟩ := b.addComment_text s
    refine ⟨t, done, ?_⟩
    rw [cut]
    intro line member
    obtain ⟨text, _, rfl⟩ := List.mem_map.mp member
    exact ⟨Text.beginsWith_comment text, Text.trimEnd_trimEnd _⟩
  · intro call b b' memory next done
    obtain ⟨added, grown, count, _⟩ := BodyCall.grownBy_of_apply done
    exact ⟨added, grown, count⟩
  · intro b front rest v blank
    exact b.addStatements_of_blank front blank rest

/-- A callback that counts its calls and leaves a comment. -/
def noted : Filler Nat := fun b => do
  modify (· + 1)
  return .good (← Fault.lift (b.addComment "later\n"))

/-- The theorem at work: a statement with blanks behind it, and a construct with a comment inside
and an empty block. -/
theorem body_replays_noted :
    let calls : List (BodyCall Nat) := [.statement "n += 1  ",
      .construct (.branches "n > 9" noted fun b => pure (.good b)), .returning .none]
    let b : Body := ⟨["n += 1;", "if (n > 9) \x7b\n  // later\n  //\n\x7d else \x7b \x7d",
      "return;"]⟩
    (∀ call ∈ calls, call.NoComment) ∧
      (BodyCall.applyAll calls Body.empty).outcome 0 = (.ok b, 1) ∧
      Body.empty.addStatements (b.statements.map .text) = .ok b := by
  intro calls b
  have uncommented : ∀ call ∈ calls, call.NoComment := by
    simp [calls, BodyCall.NoComment]
  have done : (BodyCall.applyAll calls Body.empty).outcome 0 = (.ok b, 1) := rfl
  exact ⟨uncommented, done, ((body_replays Nat).1 calls b 0 1 uncommented done).2⟩

end TypeScriptGen
