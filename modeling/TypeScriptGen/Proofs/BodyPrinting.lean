import TypeScriptGen.Expression.ObjectLiteral
import TypeScriptGen.Declaration.Rendering
import TypeScriptGen.Proofs.LineAlgebra
import TypeScriptGen.Proofs.Typed

/-!
Bodies as trees of operations. A body is built bottom-up: a block becomes text as soon as its
callback returns, and that text is cut and led again at every level further out. The reference
printer works top-down and knows lines only. Main statement: both give the same lines, in a block,
in every kind of member and in a method of an object literal.
-/

set_option autoImplicit false
set_option relaxedAutoImplicit false

namespace TypeScriptGen

/-- An operation on a body; the operations that enclose blocks hold what their callbacks do. -/
inductive Operation where
  | statement (v : Value)
  | returning (v : Value)
  | throwing (v : Value)
  | constant (name expression type : Value)
  | variable (name expression type : Value)
  | comment (v : Value)
  | branch (condition : Value) (yes : List Operation)
  | branches (condition : Value) (yes no : List Operation)
  | forOf (name collection : Value) (each : List Operation)
  | forIn (name collection : Value) (each : List Operation)
  | counting (first condition step : Value) (each : List Operation)
  | looping (condition : Value) (each : List Operation)
  | attempt (tried : List Operation) (name : Value) (handler : List Operation)
  | attemptFinally (tried : List Operation) (name : Value) (handler last : List Operation)

namespace Operation

mutual

def apply : Operation → Body → Except Fault Body
  | .statement v, b => b.addStatement v
  | .returning v, b => b.addReturn v
  | .throwing v, b => b.addThrow v
  | .constant name expression type, b => b.addConst name expression type
  | .variable name expression type, b => b.addLet name expression type
  | .comment v, b => b.addComment v
  | .branch condition yes, b => b.addIf condition (fun c => (applyAll yes c).map .good)
  | .branches condition yes no, b =>
    b.addIfElse condition (fun c => (applyAll yes c).map .good)
      (fun c => (applyAll no c).map .good)
  | .forOf name collection each, b =>
    b.addForOf name collection (fun c => (applyAll each c).map .good)
  | .forIn name collection each, b =>
    b.addForIn name collection (fun c => (applyAll each c).map .good)
  | .counting first condition step each, b =>
    b.addFor first condition step (fun c => (applyAll each c).map .good)
  | .looping condition each, b => b.addWhile condition (fun c => (applyAll each c).map .good)
  | .attempt tried name handler, b =>
    b.addTryCatch (fun c => (applyAll tried c).map .good) name
      (fun c => (applyAll handler c).map .good)
  | .attemptFinally tried name handler last, b =>
    b.addTryCatchFinally (fun c => (applyAll tried c).map .good) name
      (fun c => (applyAll handler c).map .good) (fun c => (applyAll last c).map .good)

def applyAll : List Operation → Body → Except Fault Body
  | [], b => .ok b
  | o :: rest, b => do applyAll rest (← o.apply b)

end

def build (operations : List Operation) : Except Fault Body := applyAll operations Body.empty

end Operation

def Value.shown (v : Value) : String :=
  match v.toText with
  | .ok s => s
  | .error _ => ""

namespace Operation

/-- The lines of a construct made of clauses, each a head and the lines of its block. What a clause
leaves open stands in front of the next: the closing brace of its block, or the whole clause if its
block is empty. -/
def printClauses (lead : String) : List (String × List String) → List String
  | [] => Text.lines lead
  | (head, []) :: rest => printClauses (lead ++ head ++ "\x7b \x7d") rest
  | (head, block) :: rest =>
    Text.lines (lead ++ head ++ "\x7b") ++ block.map ("  " ++ ·) ++ printClauses "\x7d" rest

def declaring (keyword : String) (name expression type : Value) : String :=
  keyword ++ " " ++ name.shown ++ (if type.isNone then "" else ": " ++ type.shown) ++ " = " ++
    expression.shown ++ ";"

mutual

def print : Operation → List String
  | .statement v => Text.lines (Text.closeStatement v.shown)
  | .returning v => Text.lines (if v.isNone then "return;" else "return " ++ v.shown ++ ";")
  | .throwing v => Text.lines ("throw " ++ v.shown ++ ";")
  | .constant name expression type => Text.lines (declaring "const" name expression type)
  | .variable name expression type => Text.lines (declaring "let" name expression type)
  | .comment v => (Text.lines v.shown).map fun line => Text.trimEnd ("// " ++ line)
  | .branch condition yes => printClauses "" [("if (" ++ condition.shown ++ ") ", printAll yes)]
  | .branches condition yes no =>
    printClauses "" [("if (" ++ condition.shown ++ ") ", printAll yes), (" else ", printAll no)]
  | .forOf name collection each =>
    printClauses ""
      [("for (const " ++ name.shown ++ " of " ++ collection.shown ++ ") ", printAll each)]
  | .forIn name collection each =>
    printClauses ""
      [("for (const " ++ name.shown ++ " in " ++ collection.shown ++ ") ", printAll each)]
  | .counting first condition step each =>
    printClauses "" [("for (" ++ first.shown ++ "; " ++ condition.shown ++ "; " ++ step.shown ++
      ") ", printAll each)]
  | .looping condition each =>
    printClauses "" [("while (" ++ condition.shown ++ ") ", printAll each)]
  | .attempt tried name handler =>
    printClauses ""
      [("try ", printAll tried), (" catch (" ++ name.shown ++ ") ", printAll handler)]
  | .attemptFinally tried name handler last =>
    printClauses ""
      [("try ", printAll tried), (" catch (" ++ name.shown ++ ") ", printAll handler),
        (" finally ", printAll last)]

def printAll : List Operation → List String
  | [] => []
  | o :: rest => o.print ++ printAll rest

end

mutual

/-- The operation is accepted: its blocks are, its operands have texts, a statement or a name is not
blank, and a comment is a text. -/
def Accepted : Operation → Prop
  | .statement v => v.isBlank = .ok false
  | .returning v => Succeeds v.optionalText
  | .throwing v => Succeeds v.toText
  | .constant name expression type =>
    name.isBlank = .ok false ∧ Succeeds type.optionalText ∧ Succeeds expression.toText
  | .variable name expression type =>
    name.isBlank = .ok false ∧ Succeeds type.optionalText ∧ Succeeds expression.toText
  | .comment v => v.IsText
  | .branch condition yes => AllAccepted yes ∧ Succeeds condition.toText
  | .branches condition yes no => AllAccepted yes ∧ AllAccepted no ∧ Succeeds condition.toText
  | .forOf name collection each =>
    AllAccepted each ∧ Succeeds name.toText ∧ Succeeds collection.toText
  | .forIn name collection each =>
    AllAccepted each ∧ Succeeds name.toText ∧ Succeeds collection.toText
  | .counting first condition step each =>
    AllAccepted each ∧ Succeeds first.toText ∧ Succeeds condition.toText ∧ Succeeds step.toText
  | .looping condition each => AllAccepted each ∧ Succeeds condition.toText
  | .attempt tried name handler => AllAccepted tried ∧ AllAccepted handler ∧ Succeeds name.toText
  | .attemptFinally tried name handler last =>
    AllAccepted tried ∧ AllAccepted handler ∧ AllAccepted last ∧ Succeeds name.toText

def AllAccepted : List Operation → Prop
  | [] => True
  | o :: rest => o.Accepted ∧ AllAccepted rest

end

open Step

/-! The text of a block, cut into lines again. -/

private theorem flatMap_lines_ne_nil {ts : List String} (filled : ts ≠ []) :
    ts.flatMap Text.lines ≠ [] := by
  cases ts with
  | nil => exact absurd rfl filled
  | cons t rest =>
    intro empty
    rw [List.flatMap_cons, List.append_eq_nil_iff] at empty
    exact Text.lines_ne_nil t empty.1

private theorem block_of_ne_nil {b : Body} (present : b.statements ≠ []) :
    b.block = "\x7b" ++ "\n" ++
      "\n".intercalate ((b.statements.flatMap Text.lines).map ("  " ++ ·)) ++ "\n" ++ "\x7d" := by
  have lines : (b.statements.flatMap Text.lines).map ("  " ++ ·) ≠ [] := by
    simpa using flatMap_lines_ne_nil present
  have filled : b.isEmpty = false := by
    simpa [Body.isEmpty] using present
  unfold Body.block Body.blockLines Body.blockIndent
  rw [filled, if_neg (by decide), Text.flatMap_leadLines, List.cons_append,
    String.intercalate_cons_of_ne_nil (by simp),
    String.intercalate_append_of_ne_nil lines (by simp)]
  simp [String.append_assoc]

private def clausesText : List (String × Body) → String
  | [] => ""
  | (head, b) :: rest => head ++ b.block ++ clausesText rest

private theorem printClauses_filled (lead head : String) {block : List String} (filled : block ≠ [])
    (rest : List (String × List String)) :
    printClauses lead ((head, block) :: rest) =
      Text.lines (lead ++ head ++ "\x7b") ++ block.map ("  " ++ ·) ++ printClauses "\x7d" rest := by
  cases block with
  | nil => exact absurd rfl filled
  | cons line lines => rfl

private theorem plain_led {ts : List String} :
    ∀ line ∈ (ts.flatMap Text.lines).map ("  " ++ ·), Text.Plain line := by
  intro line member
  obtain ⟨cut, found, rfl⟩ := List.mem_map.mp member
  obtain ⟨t, _, found⟩ := List.mem_flatMap.mp found
  exact .append (by decide) (Text.plain_of_mem_lines found)

/-- The text of clauses is cut into the lines of the clauses. The induction carries what the clauses
before have left on the current line. -/
private theorem lines_clausesText (clauses : List (String × Body)) (lead : String) :
    Text.lines (lead ++ clausesText clauses) =
      printClauses lead
        (clauses.map fun clause => (clause.1, clause.2.statements.flatMap Text.lines)) := by
  induction clauses generalizing lead with
  | nil =>
    rw [clausesText, String.append_empty]
    rfl
  | cons clause rest ih =>
    obtain ⟨head, b⟩ := clause
    by_cases empty : b.statements = []
    · have bare : b.block = "\x7b \x7d" := by
        unfold Body.block Body.isEmpty
        rw [empty]
        rfl
      have cut : b.statements.flatMap Text.lines = [] := by rw [empty]; rfl
      rw [clausesText, bare, ← String.append_assoc, ← String.append_assoc, ih, List.map_cons, cut]
      rfl
    · have filled := flatMap_lines_ne_nil empty
      have whole : lead ++ clausesText ((head, b) :: rest) = (lead ++ head ++ "\x7b") ++ "\n" ++
          ("\n".intercalate ((b.statements.flatMap Text.lines).map ("  " ++ ·)) ++ "\n" ++
            ("\x7d" ++ clausesText rest)) := by
        rw [clausesText, block_of_ne_nil empty]
        simp only [String.append_assoc]
      rw [whole, Text.lines_feed, Text.lines_feed,
        Text.lines_intercalate_plain (by simpa using filled) plain_led, ih, List.map_cons,
        printClauses_filled _ _ filled, List.append_assoc]

/-! One operation adds one statement, whose lines are those that the printer gives. -/

private theorem shown_of_toText {v : Value} {s : String} (text : v.toText = .ok s) :
    v.shown = s := by
  unfold Value.shown
  rw [text]

private theorem shown_of_lift {v : Value} {s : String}
    (text : (Fault.lift v.toText : Except Fault String) = .ok s) : v.shown = s := by
  apply shown_of_toText
  cases found : v.toText with
  | error fault =>
    rw [found] at text
    cases text
  | ok t =>
    rw [found] at text
    cases text
    rfl

private theorem filledBlock_applyAll (operations : List Operation) :
    Body.filledBlock (fun c => (applyAll operations c).map Supplied.good) =
      (build operations).map Body.block := by
  unfold Body.filledBlock build
  dsimp only
  cases applyAll operations Body.empty <;> rfl

private theorem filledBlock_eq_ok {operations : List Operation} {block : String}
    (filled : Body.filledBlock (fun c => (applyAll operations c).map Supplied.good) =
      .ok block) : ∃ b, build operations = .ok b ∧ block = b.block := by
  rw [filledBlock_applyAll] at filled
  cases built : build operations with
  | error fault =>
    rw [built] at filled
    cases filled
  | ok b =>
    rw [built] at filled
    cases filled
    exact ⟨b, rfl, rfl⟩

private def Adds (b b' : Body) (lines : List String) : Prop :=
  ∃ text, b' = b.append text ∧ Text.lines text = lines

private theorem adds_clauses {b : Body} {text : String} (clauses : List (String × Body))
    {printed : List (String × List String)} (whole : text = clausesText clauses)
    (same : clauses.map (fun clause => (clause.1, clause.2.statements.flatMap Text.lines)) =
      printed) : Adds b (b.append text) (printClauses "" printed) := by
  refine ⟨text, rfl, ?_⟩
  rw [← same, ← lines_clausesText, String.empty_append, whole]

private theorem plain_trimEnd {s : String} (plain : Text.Plain s) :
    Text.Plain (Text.trimEnd s) := by
  have kept : ∀ c ∈ (Text.trimEnd s).toList, c ∈ s.toList := by
    intro c member
    unfold Text.trimEnd Text.dropEndWhile at member
    rw [String.toList_ofList, List.mem_reverse] at member
    exact List.mem_reverse.mp ((List.dropWhile_suffix _).subset member)
  exact ⟨fun wrong => plain.1 (kept _ wrong), fun wrong => plain.2 (kept _ wrong)⟩

theorem lines_comment (s : String) :
    Text.lines ("\n".intercalate ((Text.lines s).map fun line => Text.trimEnd ("// " ++ line))) =
      (Text.lines s).map fun line => Text.trimEnd ("// " ++ line) := by
  apply Text.lines_intercalate_plain
  · simpa using Text.lines_ne_nil s
  · intro l member
    obtain ⟨line, found, rfl⟩ := List.mem_map.mp member
    exact plain_trimEnd (.append (by decide) (Text.plain_of_mem_lines found))

private theorem optional_shown {v : Value} {text : Option String}
    (given : v.optionalText = .ok text) (absent : String) (present : String → String) :
    text.elim absent present = if v.isNone then absent else present v.shown := by
  unfold Value.optionalText at given
  split at given
  case isTrue nothing =>
    cases given
    rw [if_pos nothing]
    rfl
  case isFalse something =>
    rw [if_neg something]
    cases found : v.toText with
    | error fault =>
      rw [found] at given
      cases given
    | ok s =>
      rw [found] at given
      cases given
      rw [shown_of_toText found]
      rfl

private theorem addVariable_adds {keyword : String} {name expression type : Value} {b b' : Body}
    (done : b.addVariable keyword name expression type = .ok b') :
    Adds b b' (Text.lines (declaring keyword name expression type)) := by
  obtain ⟨blank, _, done⟩ := bind_eq_ok.mp done
  cases blank with
  | true => cases done
  | false =>
    obtain ⟨n, nameText, done⟩ := bind_eq_ok.mp done
    obtain ⟨t, typeText, done⟩ := bind_eq_ok.mp done
    obtain ⟨e, expressionText, same⟩ := bind_eq_ok.mp done
    cases same
    refine ⟨_, rfl, ?_⟩
    have annotation := optional_shown typeText "" (": " ++ ·)
    unfold declaring
    rw [shown_of_toText nameText, shown_of_toText expressionText, ← annotation]
    cases t <;> rfl

private theorem lines_of_built {b : Body} {printed : List String} {count : Nat}
    (grown : ∃ texts, b.statements = Body.empty.statements ++ texts ∧
      texts.flatMap Text.lines = printed ∧ texts.length = count) :
    b.statements.flatMap Text.lines = printed := by
  obtain ⟨texts, statements, lines, _⟩ := grown
  rw [statements, ← lines]
  rfl

mutual

private theorem adds_of_apply : (o : Operation) → {b b' : Body} → o.apply b = .ok b' →
    Adds b b' o.print
  | .statement v, b, b', done => by
    obtain ⟨blank, _, done⟩ := bind_eq_ok.mp done
    cases blank with
    | true => cases done
    | false =>
      obtain ⟨s, text, same⟩ := bind_eq_ok.mp done
      cases same
      refine ⟨_, rfl, ?_⟩
      rw [print, shown_of_toText text]
  | .returning v, b, b', done => by
    obtain ⟨s, text, same⟩ := bind_eq_ok.mp done
    have whole := optional_shown text "return;" fun e => "return " ++ e ++ ";"
    refine ⟨s.elim "return;" fun e => "return " ++ e ++ ";", ?_, ?_⟩
    · cases s <;> cases same <;> rfl
    · rw [print, whole]
  | .throwing v, b, b', done => by
    obtain ⟨s, text, same⟩ := bind_eq_ok.mp done
    cases same
    refine ⟨_, rfl, ?_⟩
    rw [print, shown_of_toText text]
  | .constant name expression type, b, b', done => addVariable_adds done
  | .variable name expression type, b, b', done => addVariable_adds done
  | .comment v, b, b', done => by
    obtain ⟨s, text, same⟩ := bind_eq_ok.mp done
    cases same
    refine ⟨_, rfl, ?_⟩
    cases v with
    | text t =>
      cases text
      exact lines_comment _
    | _ => cases text
  | .branch condition yes, b, b', done => by
    obtain ⟨_, blockFilled, done⟩ := bind_eq_ok.mp done
    obtain ⟨_, conditionText, same⟩ := bind_eq_ok.mp done
    cases same
    obtain ⟨block, blockBuilt, rfl⟩ := filledBlock_eq_ok blockFilled
    rw [print, shown_of_lift conditionText, ← lines_of_built (lines_of_applyAll yes blockBuilt)]
    exact adds_clauses [(_, block)] (by simp [clausesText, String.append_assoc]) rfl
  | .branches condition yes no, b, b', done => by
    obtain ⟨_, firstFilled, done⟩ := bind_eq_ok.mp done
    obtain ⟨_, secondFilled, done⟩ := bind_eq_ok.mp done
    obtain ⟨_, conditionText, same⟩ := bind_eq_ok.mp done
    cases same
    obtain ⟨first, firstBuilt, rfl⟩ := filledBlock_eq_ok firstFilled
    obtain ⟨second, secondBuilt, rfl⟩ := filledBlock_eq_ok secondFilled
    have yesLines := lines_of_built (lines_of_applyAll yes firstBuilt)
    have noLines := lines_of_built (lines_of_applyAll no secondBuilt)
    rw [print, shown_of_lift conditionText, ← yesLines, ← noLines]
    exact adds_clauses [(_, first), (_, second)] (by simp [clausesText, String.append_assoc]) rfl
  | .forOf name collection each, b, b', done => by
    obtain ⟨_, blockFilled, done⟩ := bind_eq_ok.mp done
    obtain ⟨_, nameText, done⟩ := bind_eq_ok.mp done
    obtain ⟨_, collectionText, same⟩ := bind_eq_ok.mp done
    cases same
    obtain ⟨block, blockBuilt, rfl⟩ := filledBlock_eq_ok blockFilled
    have lines := lines_of_built (lines_of_applyAll each blockBuilt)
    rw [print, shown_of_lift nameText, shown_of_lift collectionText, ← lines]
    exact adds_clauses [(_, block)] (by simp [clausesText, String.append_assoc]) rfl
  | .forIn name collection each, b, b', done => by
    obtain ⟨_, blockFilled, done⟩ := bind_eq_ok.mp done
    obtain ⟨_, nameText, done⟩ := bind_eq_ok.mp done
    obtain ⟨_, collectionText, same⟩ := bind_eq_ok.mp done
    cases same
    obtain ⟨block, blockBuilt, rfl⟩ := filledBlock_eq_ok blockFilled
    have lines := lines_of_built (lines_of_applyAll each blockBuilt)
    rw [print, shown_of_lift nameText, shown_of_lift collectionText, ← lines]
    exact adds_clauses [(_, block)] (by simp [clausesText, String.append_assoc]) rfl
  | .counting first condition step each, b, b', done => by
    obtain ⟨_, blockFilled, done⟩ := bind_eq_ok.mp done
    obtain ⟨_, firstText, done⟩ := bind_eq_ok.mp done
    obtain ⟨_, conditionText, done⟩ := bind_eq_ok.mp done
    obtain ⟨_, stepText, same⟩ := bind_eq_ok.mp done
    cases same
    obtain ⟨block, blockBuilt, rfl⟩ := filledBlock_eq_ok blockFilled
    have lines := lines_of_built (lines_of_applyAll each blockBuilt)
    rw [print, shown_of_lift firstText, shown_of_lift conditionText, shown_of_lift stepText,
      ← lines]
    exact adds_clauses [(_, block)] (by simp [clausesText, String.append_assoc]) rfl
  | .looping condition each, b, b', done => by
    obtain ⟨_, blockFilled, done⟩ := bind_eq_ok.mp done
    obtain ⟨_, conditionText, same⟩ := bind_eq_ok.mp done
    cases same
    obtain ⟨block, blockBuilt, rfl⟩ := filledBlock_eq_ok blockFilled
    rw [print, shown_of_lift conditionText, ← lines_of_built (lines_of_applyAll each blockBuilt)]
    exact adds_clauses [(_, block)] (by simp [clausesText, String.append_assoc]) rfl
  | .attempt tried name handler, b, b', done => by
    obtain ⟨_, firstFilled, done⟩ := bind_eq_ok.mp done
    obtain ⟨_, secondFilled, done⟩ := bind_eq_ok.mp done
    obtain ⟨_, nameText, same⟩ := bind_eq_ok.mp done
    cases same
    obtain ⟨first, firstBuilt, rfl⟩ := filledBlock_eq_ok firstFilled
    obtain ⟨second, secondBuilt, rfl⟩ := filledBlock_eq_ok secondFilled
    have triedLines := lines_of_built (lines_of_applyAll tried firstBuilt)
    have handlerLines := lines_of_built (lines_of_applyAll handler secondBuilt)
    rw [print, shown_of_lift nameText, ← triedLines, ← handlerLines]
    exact adds_clauses [(_, first), (_, second)] (by simp [clausesText, String.append_assoc]) rfl
  | .attemptFinally tried name handler last, b, b', done => by
    obtain ⟨_, firstFilled, done⟩ := bind_eq_ok.mp done
    obtain ⟨_, secondFilled, done⟩ := bind_eq_ok.mp done
    obtain ⟨_, thirdFilled, done⟩ := bind_eq_ok.mp done
    obtain ⟨_, nameText, same⟩ := bind_eq_ok.mp done
    cases same
    obtain ⟨first, firstBuilt, rfl⟩ := filledBlock_eq_ok firstFilled
    obtain ⟨second, secondBuilt, rfl⟩ := filledBlock_eq_ok secondFilled
    obtain ⟨third, thirdBuilt, rfl⟩ := filledBlock_eq_ok thirdFilled
    have triedLines := lines_of_built (lines_of_applyAll tried firstBuilt)
    have handlerLines := lines_of_built (lines_of_applyAll handler secondBuilt)
    have lastLines := lines_of_built (lines_of_applyAll last thirdBuilt)
    rw [print, shown_of_lift nameText, ← triedLines, ← handlerLines, ← lastLines]
    exact adds_clauses [(_, first), (_, second), (_, third)]
      (by simp [clausesText, String.append_assoc]) rfl

private theorem lines_of_applyAll : (operations : List Operation) → {b b' : Body} →
    applyAll operations b = .ok b' → ∃ texts, b'.statements = b.statements ++ texts ∧
      texts.flatMap Text.lines = printAll operations ∧ texts.length = operations.length
  | [], b, b', done => by
    cases done
    exact ⟨[], by simp, rfl, rfl⟩
  | o :: rest, b, b', done => by
    obtain ⟨b₁, first, done⟩ := bind_eq_ok.mp done
    obtain ⟨text, rfl, lines⟩ := adds_of_apply o first
    obtain ⟨texts, grown, others, length⟩ := lines_of_applyAll rest done
    refine ⟨text :: texts, ?_, ?_, ?_⟩
    · rw [grown]
      simp [Body.append]
    · rw [List.flatMap_cons, lines, others]
      rfl
    · rw [List.length_cons, length, List.length_cons]

end

/-! Which operations are accepted. -/

private theorem succeeds_toText_of_isBlank {v : Value} {blank : Bool}
    (known : v.isBlank = .ok blank) : Succeeds v.toText := by
  unfold Value.isBlank at known
  cases v with
  | none => exact ⟨_, rfl⟩
  | _ =>
    rw [if_neg (by simp [Value.isNone])] at known
    apply Succeeds.map_iff.mp
    exact ⟨_, known⟩

private theorem succeeds_unless_blank {v : Value} {fault : Fault} {k : Except Fault Body} {P : Prop}
    (rest : v.isBlank = .ok false → (Succeeds k ↔ P)) :
    Succeeds (do
      if ← v.isBlank then throw fault
      k) ↔ v.isBlank = .ok false ∧ P := by
  constructor
  · rintro ⟨b, done⟩
    obtain ⟨blank, known, done⟩ := bind_eq_ok.mp done
    cases blank with
    | true => cases done
    | false => exact ⟨known, (rest known).mp ⟨b, done⟩⟩
  · rintro ⟨known, holds⟩
    rw [known]
    exact (rest known).mpr holds

private theorem succeeds_addVariable (b : Body) (keyword : String) (name expression type : Value) :
    Succeeds (b.addVariable keyword name expression type) ↔
      name.isBlank = .ok false ∧ Succeeds type.optionalText ∧ Succeeds expression.toText := by
  refine succeeds_unless_blank fun known => ?_
  rw [Succeeds.bind_iff fun _ => Succeeds.bind_iff fun _ => Succeeds.bind_iff fun _ =>
    Succeeds.pure_iff, and_iff_right (succeeds_toText_of_isBlank known), and_true]

private theorem succeeds_lift {v : Value} :
    Succeeds (Fault.lift v.toText : Except Fault String) ↔ Succeeds v.toText := by
  cases v.toText <;> rfl

private theorem succeeds_filledBlock {operations : List Operation} :
    Succeeds (Body.filledBlock (fun c => (applyAll operations c).map Supplied.good)) ↔
      Succeeds (applyAll operations Body.empty) := by
  rw [filledBlock_applyAll]
  exact Succeeds.map_iff

mutual

private theorem succeeds_apply : (o : Operation) → (b : Body) →
    (Succeeds (o.apply b) ↔ o.Accepted)
  | .statement v, b => by
    have steps : Succeeds (apply (.statement v) b) ↔ v.isBlank = .ok false ∧ True :=
      succeeds_unless_blank fun known =>
        iff_true_intro (.bind (succeeds_toText_of_isBlank known) fun _ => .pure _)
    rw [steps, and_true, Accepted]
  | .returning v, b => by
    have steps : Succeeds (apply (.returning v) b) ↔ Succeeds v.optionalText ∧ True :=
      Succeeds.bind_iff fun s => by cases s <;> exact Succeeds.pure_iff
    rw [steps, and_true, Accepted]
  | .throwing v, b => by
    have steps : Succeeds (apply (.throwing v) b) ↔ _ :=
      Succeeds.bind_iff fun _ => Succeeds.pure_iff
    rw [steps, and_true, Accepted]
  | .constant name expression type, b => succeeds_addVariable b "const" name expression type
  | .variable name expression type, b => succeeds_addVariable b "let" name expression type
  | .comment v, b => by
    have steps : Succeeds (apply (.comment v) b) ↔ _ := Succeeds.bind_iff fun _ => Succeeds.pure_iff
    rw [steps, and_true, Accepted]
    constructor
    · rintro ⟨s, text⟩
      cases v with
      | text t => exact ⟨t, rfl⟩
      | _ => cases text
    · rintro ⟨s, rfl⟩
      exact ⟨s, rfl⟩
  | .branch condition yes, b => by
    have steps : Succeeds (apply (.branch condition yes) b) ↔ _ :=
      Succeeds.bind_iff fun _ => Succeeds.bind_iff fun _ => Succeeds.pure_iff
    simpa only [succeeds_filledBlock, succeeds_applyAll yes, succeeds_lift, and_true,
      Accepted] using steps
  | .branches condition yes no, b => by
    have steps : Succeeds (apply (.branches condition yes no) b) ↔ _ :=
      Succeeds.bind_iff fun _ => Succeeds.bind_iff fun _ => Succeeds.bind_iff fun _ =>
        Succeeds.pure_iff
    simpa only [succeeds_filledBlock, succeeds_applyAll yes, succeeds_applyAll no, succeeds_lift,
      and_true, Accepted] using steps
  | .forOf name collection each, b => by
    have steps : Succeeds (apply (.forOf name collection each) b) ↔ _ :=
      Succeeds.bind_iff fun _ => Succeeds.bind_iff fun _ => Succeeds.bind_iff fun _ =>
        Succeeds.pure_iff
    simpa only [succeeds_filledBlock, succeeds_applyAll each, succeeds_lift, and_true,
      Accepted] using steps
  | .forIn name collection each, b => by
    have steps : Succeeds (apply (.forIn name collection each) b) ↔ _ :=
      Succeeds.bind_iff fun _ => Succeeds.bind_iff fun _ => Succeeds.bind_iff fun _ =>
        Succeeds.pure_iff
    simpa only [succeeds_filledBlock, succeeds_applyAll each, succeeds_lift, and_true,
      Accepted] using steps
  | .counting first condition step each, b => by
    have steps : Succeeds (apply (.counting first condition step each) b) ↔ _ :=
      Succeeds.bind_iff fun _ => Succeeds.bind_iff fun _ => Succeeds.bind_iff fun _ =>
        Succeeds.bind_iff fun _ => Succeeds.pure_iff
    simpa only [succeeds_filledBlock, succeeds_applyAll each, succeeds_lift, and_true,
      Accepted] using steps
  | .looping condition each, b => by
    have steps : Succeeds (apply (.looping condition each) b) ↔ _ :=
      Succeeds.bind_iff fun _ => Succeeds.bind_iff fun _ => Succeeds.pure_iff
    simpa only [succeeds_filledBlock, succeeds_applyAll each, succeeds_lift, and_true,
      Accepted] using steps
  | .attempt tried name handler, b => by
    have steps : Succeeds (apply (.attempt tried name handler) b) ↔ _ :=
      Succeeds.bind_iff fun _ => Succeeds.bind_iff fun _ => Succeeds.bind_iff fun _ =>
        Succeeds.pure_iff
    simpa only [succeeds_filledBlock, succeeds_applyAll tried, succeeds_applyAll handler,
      succeeds_lift, and_true, Accepted] using steps
  | .attemptFinally tried name handler last, b => by
    have steps : Succeeds (apply (.attemptFinally tried name handler last) b) ↔ _ :=
      Succeeds.bind_iff fun _ => Succeeds.bind_iff fun _ => Succeeds.bind_iff fun _ =>
        Succeeds.bind_iff fun _ => Succeeds.pure_iff
    simpa only [succeeds_filledBlock, succeeds_applyAll tried, succeeds_applyAll handler,
      succeeds_applyAll last, succeeds_lift, and_true, Accepted] using steps

private theorem succeeds_applyAll : (operations : List Operation) → (b : Body) →
    (Succeeds (applyAll operations b) ↔ AllAccepted operations)
  | [], b => ⟨fun _ => trivial, fun _ => ⟨b, rfl⟩⟩
  | o :: rest, b => by
    have steps : Succeeds (applyAll (o :: rest) b) ↔ _ :=
      Succeeds.bind_iff fun b₁ => succeeds_applyAll rest b₁
    rw [steps, succeeds_apply o b, AllAccepted]

end

end Operation

namespace Body

open Rendering Step

/-- What stands in front of the body of a method in a class. -/
def methodOpening (s : Settings) (indent : String) (d : Method) : Except Fault (List String) := do
  let decorators ← decoratorLines indent d.decorators
  let overloads ← signatureLines s indent d.overloads
  let head ← methodHead indent d
  return decorators ++ overloads ++ [head ++ " \x7b"]

/-- What stands in front of the body of a constructor: the call of the base class is the last of
it. -/
def constructorOpening (s : Settings) (indent inner : String) (c : Constructor) :
    Except Fault (List String) := do
  let overloads ← signatureLines s indent c.overloads
  let access ← Access.lead c.access
  let parameters ← Parameter.renderAll true c.parameters
  return overloads ++ [indent ++ access ++ "constructor(" ++ parameters ++ ") \x7b"] ++
    if c.superArguments.isEmpty then []
    else [inner ++ "super(" ++ ", ".intercalate c.superArguments ++ ")" ++ s.semicolon]

def entryHead (d : Method) : Except Fault String := do
  let parameters ← Parameter.renderAll false d.parameters
  return flag d.isAsync "async " ++ flag d.isGenerator "*" ++ d.name ++ "(" ++ parameters ++ ")" ++
    resultType d.returnType

/-- The body prints as these lines wherever it stands; what encloses it decides only what each line
is led by. -/
structure PrintsAs (b : Body) (lines : List String) : Prop where
  statements : b.statements.flatMap Text.lines = lines
  block : b.block = if lines.isEmpty then "\x7b \x7d"
    else "\n".intercalate (["\x7b"] ++ lines.map ("  " ++ ·) ++ ["\x7d"])
  method (s : Settings) (kind : Kind) (indent inner : String) (d : Method)
      (deeper : s.deeper indent = .ok inner) (concrete : d.isAbstract = false) :
    methodLines s kind indent
        (.good { d with expressionBody := Option.none, body := some (.good b) }) =
      (methodOpening s indent d).map fun opening =>
        opening ++ lines.map (inner ++ ·) ++ [indent ++ "\x7d"]
  constructor (s : Settings) (indent inner : String) (c : Constructor)
      (deeper : s.deeper indent = .ok inner) :
    constructorLines s indent (.good { c with body := some (.good b) }) =
      (constructorOpening s indent inner c).map fun opening =>
        opening ++ lines.map (inner ++ ·) ++ [indent ++ "\x7d"]
  getter (s : Settings) (indent inner modifiers : String) (p : Property) :
    getterLines s indent inner modifiers
        { p with getterExpression := Option.none, getterBody := some (.good b) } =
      .ok ([indent ++ modifiers ++ "get " ++ p.name ++ "(): " ++ p.type ++ " \x7b"] ++
        lines.map (inner ++ ·) ++ [indent ++ "\x7d"])
  setter (indent inner modifiers : String) (p : Property) :
    setterLines indent inner modifiers { p with setterBody := some (.good b) } =
      .ok ([indent ++ modifiers ++ "set " ++ p.name ++ "(value: " ++ p.type ++ ") \x7b"] ++
        lines.map (inner ++ ·) ++ [indent ++ "\x7d"])
  entry (d : Method) :
    ObjectLiteral.methodText { d with expressionBody := Option.none, body := some (.good b) } =
      (entryHead d).map fun head =>
        if lines.isEmpty then head ++ " \x7b \x7d"
        else "\n".intercalate ([head ++ " \x7b"] ++ lines.map ("    " ++ ·) ++ ["  \x7d"])

private theorem isEmpty_lines (b : Body) :
    (b.statements.flatMap Text.lines).isEmpty = b.isEmpty := by
  unfold isEmpty
  cases empty : b.statements with
  | nil => rfl
  | cons t rest =>
    have filled : (t :: rest).flatMap Text.lines ≠ [] :=
      Operation.flatMap_lines_ne_nil (List.cons_ne_nil t rest)
    simpa using filled

private theorem bodyLines_good (indent : String) (b : Body) :
    bodyLines indent (.good b) = .ok ((b.statements.flatMap Text.lines).map (indent ++ ·)) := by
  rw [← Text.flatMap_leadLines]
  rfl

theorem printsAs_lines (b : Body) : b.PrintsAs (b.statements.flatMap Text.lines) where
  statements := rfl
  block := by
    rw [isEmpty_lines, ← Text.flatMap_leadLines]
    rfl
  method s kind indent inner d deeper concrete := by
    have concreteToo : isSignature kind
        { d with expressionBody := Option.none, body := some (.good b) } = false := by
      simp [isSignature, Method.hasBody, concrete]
    unfold methodLines
    rw [deeper, ok_bind]
    refine bind_same _ fun decorators => bind_same _ fun overloads => bind_same _ fun head => ?_
    rw [concreteToo, if_neg (by decide)]
    change (bodyLines inner (.good b) >>= _) = _
    rw [bodyLines_good, ok_bind]
    rfl
  constructor s indent inner c deeper := by
    unfold constructorLines
    rw [deeper, ok_bind]
    refine bind_same _ fun overloads => bind_same _ fun access => bind_same _ fun parameters => ?_
    rw [if_neg (by simp)]
    change (bodyLines inner (.good b) >>= _) = _
    rw [bodyLines_good, ok_bind]
    refine return_shift ?_
    simp only [List.append_assoc, String.append_assoc]
    rfl
  getter s indent inner modifiers p := by
    unfold getterLines
    rw [if_neg (by simp [Property.hasGetter])]
    change (bodyLines inner (.good b) >>= _) = _
    rw [bodyLines_good, ok_bind]
    rfl
  setter indent inner modifiers p := by
    change (bodyLines inner (.good b) >>= _) = _
    rw [bodyLines_good, ok_bind]
    rfl
  entry d := by
    refine bind_same _ fun parameters => ?_
    change (if b.isEmpty then pure _ else pure _ : Except Fault String) = _
    rw [isEmpty_lines, ← Text.flatMap_leadLines]
    cases b.isEmpty with
    | true =>
      refine return_shift ?_
      simp [emptyBlock, flag, String.append_assoc]
    | false => exact return_shift rfl

end Body

namespace Operation

/-- Main theorem. Operations build a body exactly if they are accepted, and the body that they build
prints as the lines of the reference printer, wherever it stands. -/
theorem build_prints (operations : List Operation) :
    (Succeeds (build operations) ↔ AllAccepted operations) ∧
      ∀ b, build operations = .ok b → b.PrintsAs (printAll operations) := by
  refine ⟨succeeds_applyAll operations Body.empty, ?_⟩
  intro b built
  rw [← lines_of_built (lines_of_applyAll operations built)]
  exact b.printsAs_lines

/-- The theorem at work: a loop around a branch whose second block is empty, over a condition of two
lines. -/
theorem build_prints_loop :
    AllAccepted [.forOf "x" "xs" [.branches "a &&\r\n  b" [.returning "x"] []], .returning .none] ∧
      ∃ b, build [.forOf "x" "xs" [.branches "a &&\r\n  b" [.returning "x"] []], .returning .none] =
          .ok b ∧
        b.PrintsAs ["for (const x of xs) \x7b", "  if (a &&", "    b) \x7b", "    return x;",
          "  \x7d else \x7b \x7d", "\x7d", "return;"] := by
  have accepted : AllAccepted
      [.forOf "x" "xs" [.branches "a &&\r\n  b" [.returning "x"] []], .returning .none] :=
    ⟨⟨⟨⟨⟨⟨_, rfl⟩, trivial⟩, trivial, ⟨_, rfl⟩⟩, trivial⟩, ⟨_, rfl⟩, ⟨_, rfl⟩⟩, ⟨_, rfl⟩, trivial⟩
  obtain ⟨b, built⟩ := (build_prints _).1.mpr accepted
  exact ⟨accepted, b, built, (build_prints _).2 b built⟩

end Operation

end TypeScriptGen
