import TypeScriptGen.Proofs.BodyPrinting
import TypeScriptGen.Proofs.Pruning

/-!
Expression bodies beside bodies that return the expression. A body is cut into lines, each of which
is led to the place of the member, and an expression body is one text behind one lead. Main
statement: methods, properties and methods of object literals are rendered the same in both ways
but for that text, so they are the same exactly if the expression stands on one line.
-/

set_option autoImplicit false
set_option relaxedAutoImplicit false

namespace TypeScriptGen

open Rendering Step

def returnStatement (e : String) : String := "return " ++ e ++ ";"

def Body.returning (e : String) : Body := Body.empty.append (returnStatement e)

def returns (v : Value) : Body → Except Fault (Supplied Body) := fun b => (b.addReturn v).map .good

structure Value.Denotes (v : Value) (e : String) : Prop where
  given : v.isNone = false
  text : v.toText = .ok e

theorem plain_returnStatement {e : String} : Text.Plain (returnStatement e) ↔ Text.Plain e := by
  have front : Text.Plain "return " := by decide
  have back : Text.Plain ";" := by decide
  simp [returnStatement, front, back]

/-- The lines are the same but for a return, which stands as it is on the one side and is cut into
lines on the other side. -/
def Recut (lead e : String) (ls ls' : List String) : Prop :=
  ∃ front back, ls = front ++ [lead ++ returnStatement e] ++ back ∧
    ls' = front ++ Text.leadLines lead (returnStatement e) ++ back

namespace Recut

variable {lead e : String} {ls ls' : List String}

theorem eq_iff (recut : Recut lead e ls ls') : ls = ls' ↔ Text.Plain e := by
  obtain ⟨front, back, rfl, rfl⟩ := recut
  rw [List.append_left_inj, List.append_right_inj, eq_comm, Text.leadLines_eq_singleton,
    plain_returnStatement]

theorem joined_eq_iff (fixed : Text.Plain lead) (visible : lead ≠ "") (first last : String) :
    "\n".intercalate ([first] ++ [lead ++ returnStatement e] ++ [last]) =
        "\n".intercalate ([first] ++ Text.leadLines lead (returnStatement e) ++ [last]) ↔
      Text.Plain e := by
  have lines : Text.leadLines lead (returnStatement e) ≠ [] := by
    simpa [Text.leadLines] using Text.lines_ne_nil (returnStatement e)
  have joined : ∀ middle : List String, middle ≠ [] →
      "\n".intercalate ([first] ++ middle ++ [last]) =
        first ++ "\n" ++ "\n".intercalate middle ++ "\n" ++ last := by
    intro middle filled
    rw [List.append_assoc, List.singleton_append,
      String.intercalate_cons_of_ne_nil (by simp),
      String.intercalate_append_of_ne_nil filled (by simp), String.intercalate_singleton]
    simp only [String.append_assoc]
  rw [joined _ (by simp), joined _ lines, String.intercalate_singleton, String.append_left_inj,
    String.append_left_inj, String.append_right_inj, eq_comm,
    Text.intercalate_leadLines fixed visible, plain_returnStatement]

end Recut

/-! The two ways to give a member an expression to return. -/

variable {s : Settings} {v : Value} {e : String}

theorem Value.Denotes.addReturn (denotes : v.Denotes e) (b : Body) :
    b.addReturn v = .ok (b.append (returnStatement e)) := by
  unfold Body.addReturn Value.optionalText
  rw [denotes.given, if_neg (by decide), denotes.text]
  rfl

theorem Value.Denotes.bodyFrom (denotes : v.Denotes e) :
    bodyFrom (returns v) = .ok (some (.good (Body.returning e))) := by
  unfold TypeScriptGen.bodyFrom returns
  rw [denotes.addReturn]
  rfl

theorem Value.Denotes.withBody (denotes : v.Denotes e) (d : Method) :
    d.withBody (returns v) = .ok { d with body := some (.good (Body.returning e)) } := by
  unfold Method.withBody
  rw [denotes.bodyFrom]
  rfl

theorem Value.Denotes.withExpressionBody (denotes : v.Denotes e) (d : Method) :
    d.withExpressionBody v = .ok { d with expressionBody := some e } := by
  unfold Method.withExpressionBody
  rw [denotes.text]
  rfl

theorem Value.Denotes.withGetterBody (denotes : v.Denotes e) (p : Property) :
    p.withGetterBody (returns v) =
      .ok { p with getterBody := some (.good (Body.returning e)) } := by
  unfold Property.withGetterBody
  rw [denotes.bodyFrom]
  rfl

theorem Value.Denotes.withGetterExpression (denotes : v.Denotes e) (p : Property) :
    p.withGetterExpression v = .ok { p with getterExpression := some e } := by
  unfold Property.withGetterExpression
  rw [denotes.text]
  rfl

namespace Rendering

theorem semicolon_of_holds (closed : s.semicolons.holds = true) : s.semicolon = ";" := by
  unfold Settings.semicolon
  rw [if_pos closed]

theorem lines_returning (e : String) :
    (Body.returning e).statements.flatMap Text.lines = Text.lines (returnStatement e) :=
  List.flatMap_singleton Text.lines (returnStatement e)

/-- At the place of the body the lines are the same but for the return, and so they are just the
same exactly if the expression stands on one line. -/
def RecutAt (s : Settings) (indent e : String) (ls ls' : List String) : Prop :=
  (∃ inner, s.deeper indent = .ok inner ∧ Recut inner e ls ls') ∧ (ls = ls' ↔ Text.Plain e)

theorem recutAt {indent inner : String} {ls ls' : List String}
    (deeper : s.deeper indent = .ok inner) (recut : Recut inner e ls ls') :
    RecutAt s indent e ls ls' :=
  ⟨⟨inner, deeper, recut⟩, recut.eq_iff⟩

/-! Methods. -/

theorem methodLines_of_abstract {d : Method} (bare : d.isAbstract = true) (e : String)
    (b : Supplied Body) (kind : Kind) (indent : String) :
    methodLines s kind indent (.good { d with expressionBody := some e }) =
      methodLines s kind indent (.good { d with body := some b }) := by
  have first : isSignature kind { d with expressionBody := some e } = true := by
    simp [isSignature, bare]
  have second : isSignature kind { d with body := some b } = true := by
    simp [isSignature, bare]
  change (s.deeper indent >>= fun inner => methodBlock s kind indent inner _) =
    (s.deeper indent >>= fun inner => methodBlock s kind indent inner _)
  simp only [methodBlock_of_signature first, methodBlock_of_signature second]
  rfl

theorem methodLines_expression {indent inner : String} {d : Method} (e : String)
    (deeper : s.deeper indent = .ok inner) (concrete : d.isAbstract = false) (kind : Kind) :
    methodLines s kind indent (.good { d with expressionBody := some e }) =
      (Body.methodOpening s indent d).map fun opening =>
        opening ++ [inner ++ "return " ++ e ++ s.semicolon] ++ [indent ++ "\x7d"] := by
  have shown : isSignature kind { d with expressionBody := some e } = false := by
    simp [isSignature, Method.hasBody, concrete]
  unfold methodLines
  rw [deeper, ok_bind]
  refine bind_same _ fun decorators => bind_same _ fun overloads => bind_same _ fun head => ?_
  rw [shown, if_neg (by decide)]
  refine return_shift ?_
  simp only [List.append_assoc]
  rfl

theorem recut_methodLines (closed : s.semicolons.holds = true) {d : Method}
    (unused : d.expressionBody = none) (concrete : d.isAbstract = false) (e : String) (kind : Kind)
    (indent : String) :
    Agree (RecutAt s indent e)
      (methodLines s kind indent (.good { d with expressionBody := some e }))
      (methodLines s kind indent (.good { d with body := some (.good (Body.returning e)) })) := by
  have same : ({ d with body := some (.good (Body.returning e)) } : Method) =
      { d with expressionBody := none, body := some (.good (Body.returning e)) } := by
    cases d
    cases unused
    rfl
  cases known : s.deeper indent with
  | error wrong =>
    unfold methodLines
    rw [known]
    exact .fault wrong
  | ok inner =>
    rw [same, methodLines_expression e known concrete kind,
      (Body.printsAs_lines _).method s kind indent inner d known concrete, lines_returning]
    refine .map _ fun opening => recutAt known ⟨opening, [indent ++ "\x7d"], ?_, rfl⟩
    simp only [semicolon_of_holds closed, returnStatement, String.append_assoc]

/-! Properties. -/

theorem getterLines_expression (s : Settings) (indent inner modifiers : String) (p : Property)
    (e : String) : getterLines s indent inner modifiers { p with getterExpression := some e } =
      .ok ([indent ++ modifiers ++ "get " ++ p.name ++ "(): " ++ p.type ++ " \x7b"] ++
        [inner ++ "return " ++ e ++ s.semicolon] ++ [indent ++ "\x7d"]) := rfl

theorem recut_propertyLines (closed : s.semicolons.holds = true) {p : Property}
    (unused : p.getterExpression = none) (e : String) (indent : String) :
    Agree (RecutAt s indent e)
      (propertyLines s indent (.good { p with getterExpression := some e }))
      (propertyLines s indent
        (.good { p with getterBody := some (.good (Body.returning e)) })) := by
  have same : ({ p with getterBody := some (.good (Body.returning e)) } : Property) =
      { p with getterExpression := none, getterBody := some (.good (Body.returning e)) } := by
    cases p
    cases unused
    rfl
  have known : Ensures (fun inner => s.deeper indent = .ok inner) (s.deeper indent) :=
    fun _ given => given
  rw [same]
  refine .ensured known fun inner deeper => .same (Access.lead p.access) fun access => ?_
  dsimp only
  rw [getterLines_expression, (Body.printsAs_lines _).getter, lines_returning, ok_bind, ok_bind]
  refine .same (setterLines indent inner (access ++ flag p.isStatic "static ") p) fun setter => ?_
  let front := [indent ++ (access ++ flag p.isStatic "static ") ++ "get " ++ p.name ++ "(): " ++
    p.type ++ " \x7b"]
  refine .pure (recutAt deeper ⟨front, [indent ++ "\x7d"] ++ setter, ?_, ?_⟩)
  · simp only [semicolon_of_holds closed, returnStatement, String.append_assoc, List.append_assoc,
      front]
  · simp only [List.append_assoc, Text.leadLines, front]

/-! Methods of object literals. -/

/-- The two texts are the same but for the return in them, and so they are just the same exactly if
the expression stands on one line. -/
def RecutText (e t t' : String) : Prop :=
  (∃ ls ls', Recut ObjectLiteral.bodyIndent e ls ls' ∧ t = "\n".intercalate ls ∧
    t' = "\n".intercalate ls') ∧ (t = t' ↔ Text.Plain e)

theorem methodText_expression (d : Method) (e : String) :
    ObjectLiteral.methodText { d with expressionBody := some e } =
      (Body.entryHead d).map fun head => "\n".intercalate
        ([head ++ " \x7b"] ++ [ObjectLiteral.bodyIndent ++ returnStatement e] ++ ["  \x7d"]) := by
  refine bind_same _ fun parameters => return_shift ?_
  simp only [List.cons_append, List.nil_append, String.intercalate_cons_cons,
    String.intercalate_singleton, flag, returnStatement, Body.blockIndent, String.append_assoc]
  rfl

theorem recut_methodText {d : Method} (unused : d.expressionBody = none) (e : String) :
    Agree (RecutText e) (ObjectLiteral.methodText { d with expressionBody := some e })
      (ObjectLiteral.methodText { d with body := some (.good (Body.returning e)) }) := by
  have same : ({ d with body := some (.good (Body.returning e)) } : Method) =
      { d with expressionBody := none, body := some (.good (Body.returning e)) } := by
    cases d
    cases unused
    rfl
  have filled : (Text.lines (returnStatement e)).isEmpty = false := by
    simpa using Text.lines_ne_nil (returnStatement e)
  rw [same, methodText_expression, (Body.printsAs_lines _).entry, lines_returning, filled]
  have led : (Text.lines (returnStatement e)).map ("    " ++ ·) =
      Text.leadLines ObjectLiteral.bodyIndent (returnStatement e) := rfl
  refine .map _ fun head => ?_
  rw [if_neg (by decide), led]
  refine ⟨⟨_, _, ⟨[head ++ " \x7b"], ["  \x7d"], rfl, rfl⟩, rfl, rfl⟩, ?_⟩
  exact Recut.joined_eq_iff (by decide) (by decide) _ _

/-- Main theorem. Let a member be given a value with a text, once as the expression that it returns
and once through a callback that returns it. The two are rendered the same but for that return; if
it is shown at all, they are just the same exactly if the text stands on one line. -/
theorem returns_rendered (closed : s.semicolons.holds = true) (denotes : v.Denotes e)
    (indent : String) :
    (∀ d : Method, d.expressionBody = none → ∃ short long, d.withExpressionBody v = .ok short ∧
      d.withBody (returns v) = .ok long ∧
      (∀ kind, if d.isAbstract then
          methodLines s kind indent (.good short) = methodLines s kind indent (.good long)
        else Agree (RecutAt s indent e) (methodLines s kind indent (.good short))
          (methodLines s kind indent (.good long))) ∧
      Agree (RecutText e) (ObjectLiteral.methodText short) (ObjectLiteral.methodText long)) ∧
    (∀ p : Property, p.getterExpression = none → ∃ short long,
      p.withGetterExpression v = .ok short ∧ p.withGetterBody (returns v) = .ok long ∧
      Agree (RecutAt s indent e) (propertyLines s indent (.good short))
        (propertyLines s indent (.good long))) := by
  refine ⟨fun d unused => ?_, fun p unused => ?_⟩
  · refine ⟨_, _, denotes.withExpressionBody d, denotes.withBody d, fun kind => ?_,
      recut_methodText unused e⟩
    by_cases bare : d.isAbstract = true
    · rw [if_pos bare]
      exact methodLines_of_abstract bare e _ kind indent
    · rw [if_neg bare]
      exact recut_methodLines closed unused (by simpa using bare) e kind indent
  · exact ⟨_, _, denotes.withGetterExpression p, denotes.withGetterBody p,
      recut_propertyLines closed unused e indent⟩

/-- An object literal of four entries, which stands on six lines. -/
def origin : ObjectLiteral where
  entries := [.property "x" "0", .property "y" "0", .property "z" "0", .property "t" "0"]

/-- The theorem at work: a method that returns the literal is rendered in two ways. -/
theorem returns_rendered_origin :
    ∃ short long : Method,
      Method.withExpressionBody { name := "origin" } origin.build.describe = .ok short ∧
      Method.withBody { name := "origin" } (returns origin.build.describe) = .ok long ∧
      ∃ ls ls', methodLines {} .classDecl "  " (.good short) = .ok ls ∧
        methodLines {} .classDecl "  " (.good long) = .ok ls' ∧
        Recut "    " origin.build.value ls ls' ∧ ls ≠ ls' := by
  have denotes : origin.build.describe.Denotes origin.build.value := ⟨rfl, rfl⟩
  obtain ⟨methods, _⟩ := returns_rendered (s := {}) rfl denotes "  "
  obtain ⟨short, long, givenShort, givenLong, rendered, _⟩ := methods { name := "origin" } rfl
  refine ⟨short, long, givenShort, givenLong, ?_⟩
  have agree := rendered .classDecl
  rw [if_neg (by decide)] at agree
  cases givenShort
  cases givenLong
  generalize first : methodLines {} .classDecl "  " (.good _) = x at agree ⊢
  generalize second : methodLines {} .classDecl "  " (.good _) = y at agree ⊢
  cases agree with
  | fault wrong => cases first
  | value related =>
    obtain ⟨⟨inner, deeper, recut⟩, same⟩ := related
    cases deeper
    refine ⟨_, _, rfl, rfl, recut, fun equal => ?_⟩
    have several : ¬ Text.Plain origin.build.value := by decide
    exact several (same.mp equal)

def grid (d : Method) : Declaration where
  name := "Grid"
  methods := [.good d]

/-- As an expression body the literal keeps its own indentation; as a returned one it gets that of
the method. -/
theorem grid_files :
    ∃ short long : Method,
      Method.withExpressionBody { name := "origin" } origin.build.describe = .ok short ∧
      Method.withBody { name := "origin" } (returns origin.build.describe) = .ok long ∧
      (grid short).file { header := .none } = .ok ("class Grid \x7b\n  origin() \x7b\n" ++
        "    return \x7b\n  x: 0,\n  y: 0,\n  z: 0,\n  t: 0\n\x7d;\n  \x7d\n\x7d\n") ∧
      (grid long).file { header := .none } = .ok ("class Grid \x7b\n  origin() \x7b\n" ++
        "    return \x7b\n      x: 0,\n      y: 0,\n      z: 0,\n      t: 0\n    \x7d;\n" ++
        "  \x7d\n\x7d\n") ∧
      (grid short).file { header := .none } ≠ (grid long).file { header := .none } := by
  have apart : ∀ {x y : Except Fault String} {t u : String}, t ≠ u → x = .ok t → y = .ok u →
      x = .ok t ∧ y = .ok u ∧ x ≠ y := by
    intro x y t u other first second
    refine ⟨first, second, ?_⟩
    rw [first, second]
    exact fun same => other (Except.ok.inj same)
  exact ⟨_, _, rfl, rfl, apart (by decide) rfl rfl⟩

end Rendering

end TypeScriptGen
