import TypeScriptGen.Expression.ObjectLiteral
import TypeScriptGen.Proofs.Balance.Terms
import TypeScriptGen.Proofs.Typed

/-!
Balance of parameters, bodies, arrow functions, methods and object literals: every operation keeps
the texts that they store balanced, and what is built from them is balanced. A block cuts statements
into lines that are balanced only together.
-/

set_option autoImplicit false
set_option relaxedAutoImplicit false

namespace TypeScriptGen

open Text (balanced_iff_scan)

def Access.Balanced (a : Supplied Access) : Prop := Ensures Text.Balanced (Access.lead a)

theorem Access.balanced_good (a : Access) : Access.Balanced (.good a) := by
  cases a <;> exact .pure (by decide)

structure Parameter.Balanced (p : Parameter) : Prop where
  name : Text.Balanced p.name
  type : Text.Balanced p.type
  defaultValue : ∀ t ∈ p.defaultValue, Text.Balanced t
  access : Access.Balanced p.access

namespace Parameter

theorem balanced_ofValues {name type : Value} (named : name.Balanced) (typed : type.Balanced) :
    Ensures Balanced (ofValues name type) := by
  refine .bind (named.requireText _ _) fun n nameShown => ?_
  refine .bind (typed.requireText _ _) fun t typeShown => .pure ?_
  exact ⟨nameShown, typeShown, by simp, Access.balanced_good .unmarked⟩

theorem Balanced.withDefault {p : Parameter} (balanced : p.Balanced) {v : Value}
    (operand : v.Balanced) : Ensures Balanced (p.withDefault v) :=
  .bind operand fun _ shown => .pure { balanced with defaultValue := by simpa using shown }

private theorem balanced_default (o : Option String) : (∀ d ∈ o, Text.Balanced d) →
    Text.Balanced (match o with
      | Option.none => ""
      | some d => " = " ++ d) := by
  intro each
  cases o with
  | none => decide
  | some d => exact Text.Balanced.append (by decide) (each d rfl)

theorem Balanced.render {p : Parameter} (balanced : p.Balanced) (asProperty : Bool) :
    Ensures Text.Balanced (p.render asProperty) := by
  have readonly : Text.Balanced (if asProperty && p.isReadonly then "readonly " else "") := by
    split <;> decide
  have rest : Text.Balanced (if p.isRest then "..." else "") := by
    split <;> decide
  have mark : Text.Balanced (if p.isOptional then "?" else "") := by
    split <;> decide
  have default := balanced_default p.defaultValue balanced.defaultValue
  have colon : Text.Balanced ": " := by decide
  have behind : ∀ {access}, Text.Balanced access → Text.Balanced (access ++ _) := fun front =>
    front.append ((((((readonly.append rest).append balanced.name).append mark).append colon).append
      balanced.type).append default)
  simp only [String.append_assoc] at behind
  unfold Parameter.render
  simp only [String.append_assoc]
  split
  · exact .bind balanced.access fun access front => .pure (behind front)
  · exact .pure (behind (by decide))

theorem balanced_renderTexts (asProperty : Bool) {ps : List (Supplied Parameter)}
    (each : ∀ p ∈ ps, p.Fits Balanced) :
    Ensures (fun ts => ∀ t ∈ ts, Text.Balanced t) (renderTexts asProperty ps) := by
  induction ps with
  | nil => exact .pure (by simp)
  | cons p rest ih =>
    have first : Ensures Text.Balanced (renderSupplied asProperty p) := by
      have fits := each p List.mem_cons_self
      cases p with
      | stray v => exact fits.elim
      | good p => exact Balanced.render fits asProperty
    have others := ih fun q member => each q (List.mem_cons_of_mem p member)
    exact .bind first fun _ one => .bind others fun _ more =>
      .pure (List.forall_mem_cons.mpr ⟨one, more⟩)

theorem balanced_renderAll (asProperty : Bool) {ps : List (Supplied Parameter)}
    (each : ∀ p ∈ ps, p.Fits Balanced) : Ensures Text.Balanced (renderAll asProperty ps) :=
  .bind (balanced_renderTexts asProperty each) fun _ shown =>
    .pure (Text.balanced_intercalate (by decide) shown)

end Parameter

def Body.Balanced (b : Body) : Prop := ∀ t ∈ b.statements, Text.Balanced t

namespace Body

variable {b : Body} {v w : Value}

theorem balanced_empty : Body.empty.Balanced := by
  intro t member
  cases member

theorem Balanced.append (balanced : b.Balanced) {t : String} (new : Text.Balanced t) :
    (b.append t).Balanced := by
  intro u member
  rcases List.mem_append.mp member with member | member
  · exact balanced u member
  · rw [List.mem_singleton.mp member]
    exact new

theorem Balanced.block (balanced : b.Balanced) : Text.Balanced b.block := by
  unfold Body.block
  split
  · decide
  · have inner : Text.Together (b.statements.flatMap (Text.leadLines blockIndent)) :=
      Text.together_leadLines (by decide) balanced
    refine (Text.alike_intercalate (by decide) _).balanced ?_
    exact Text.together_braces (fun _ => by simp) inner (fun _ => by simp)

theorem balanced_suppliedBlock {supplied : Supplied Body}
    (kept : ∀ b, supplied = .good b → b.Balanced) :
    Ensures Text.Balanced (suppliedBlock supplied) := by
  cases supplied with
  | stray v => exact .error _
  | good b => exact .pure (kept b rfl).block

theorem Balanced.addStatement (balanced : b.Balanced) (operand : v.Balanced) :
    Ensures Balanced (b.addStatement v) := by
  refine .bind (.any _) fun blank _ => ?_
  split
  · exact .error _
  · refine .bind operand fun t shown => .pure ?_
    exact balanced.append ((Text.alike_closeStatement t).balanced shown)

theorem Balanced.addStatements {vs : List Value} (balanced : b.Balanced)
    (operands : ∀ v ∈ vs, v.Balanced) : Ensures Balanced (b.addStatements vs) := by
  induction vs generalizing b with
  | nil => exact .pure balanced
  | cons v rest ih =>
    refine .bind (balanced.addStatement (operands v List.mem_cons_self)) fun c next => ?_
    exact ih next fun w member => operands w (List.mem_cons_of_mem v member)

theorem Balanced.addReturn (balanced : b.Balanced) (operand : v.Balanced) :
    Ensures Balanced (b.addReturn v) := by
  refine .bind operand.optionalText fun o shown => ?_
  cases o with
  | none => exact .pure (balanced.append (by decide))
  | some e =>
    have text := shown e rfl
    refine .pure (balanced.append ?_)
    rw [balanced_iff_scan]
    simp [text]

theorem Balanced.addThrow (balanced : b.Balanced) (operand : v.Balanced) :
    Ensures Balanced (b.addThrow v) := by
  refine .bind operand fun t shown => .pure (balanced.append ?_)
  rw [balanced_iff_scan]
  simp [shown]

theorem Balanced.addComment (balanced : b.Balanced) (operand : v.Balanced) :
    Ensures Balanced (b.addComment v) := by
  refine .bind (operand.asText _) fun s shown => .pure (balanced.append ?_)
  have marked : ∀ line, Text.Alike (Text.trimEnd ("// " ++ line)) line := fun line =>
    (Text.alike_trimEnd _).trans (Text.Alike.led (by decide) line)
  have cut : Text.Alike (String.join ((Text.lines s).map fun line => Text.trimEnd ("// " ++ line)))
      (String.join ((Text.lines s).map id)) :=
    Text.alike_join fun line _ => marked line
  rw [List.map_id] at cut
  have whole := (Text.alike_intercalate (show Text.Balanced "\n" by decide) _).trans cut
  exact (whole.trans (Text.alike_lines s)).balanced shown

theorem Balanced.addVariable {u : Value} (balanced : b.Balanced) {keyword : String}
    (fixed : Text.Balanced keyword) (name : u.Balanced) (value : v.Balanced) (type : w.Balanced) :
    Ensures Balanced (b.addVariable keyword u v w) := by
  refine .bind (.any _) fun blank _ => ?_
  split
  · exact .error _
  · refine .bind name fun n named => .bind type.optionalText fun t typed =>
      .bind value fun e shown => .pure (balanced.append ?_)
    rw [balanced_iff_scan]
    cases t with
    | none => simp [fixed, named, shown]
    | some t =>
      have annotation := typed t rfl
      simp [fixed, named, annotation, shown]

/-- What the callback makes of an empty body satisfies `P`, if it is a body. -/
abbrev Returns (P : Body → Prop) (fill : Body → Except Fault (Supplied Body)) : Prop :=
  ∀ b, fill Body.empty = .ok (.good b) → P b

theorem balanced_filledBlock {fill : Body → Except Fault (Supplied Body)}
    (returns : Returns Balanced fill) : Ensures Text.Balanced (filledBlock fill) := by
  intro t given
  obtain ⟨supplied, filled, given⟩ := Step.bind_eq_ok.mp given
  cases supplied with
  | stray v => cases given
  | good b =>
    cases given
    exact (returns b filled).block

variable {first second third : Body → Except Fault (Supplied Body)}

theorem Balanced.addIf (balanced : b.Balanced) (condition : v.Balanced)
    (yes : Returns Balanced first) : Ensures Balanced (b.addIf v first) := by
  refine .bind (balanced_filledBlock yes) fun block inner => .bind (.lift condition) fun c shown =>
    .pure (balanced.append ?_)
  rw [balanced_iff_scan]
  simp [shown, inner]

theorem Balanced.addIfElse (balanced : b.Balanced) (condition : v.Balanced)
    (yes : Returns Balanced first) (no : Returns Balanced second) :
    Ensures Balanced (b.addIfElse v first second) := by
  refine .bind (balanced_filledBlock yes) fun yesBlock inner =>
    .bind (balanced_filledBlock no) fun noBlock other =>
    .bind (.lift condition) fun c shown => .pure (balanced.append ?_)
  rw [balanced_iff_scan]
  simp [shown, inner, other]

theorem Balanced.addForEach (balanced : b.Balanced) {word : String} (fixed : Text.Balanced word)
    (name : v.Balanced) (collection : w.Balanced) (each : Returns Balanced first) :
    Ensures Balanced (b.addForEach word v w first) := by
  refine .bind (balanced_filledBlock each) fun block inner => .bind (.lift name) fun n named =>
    .bind (.lift collection) fun c shown => .pure (balanced.append ?_)
  rw [balanced_iff_scan]
  simp [fixed, named, shown, inner]

theorem Balanced.addFor {u : Value} (balanced : b.Balanced) (start : u.Balanced)
    (condition : v.Balanced) (step : w.Balanced) (each : Returns Balanced first) :
    Ensures Balanced (b.addFor u v w first) := by
  refine .bind (balanced_filledBlock each) fun block inner => .bind (.lift start) fun f started =>
    .bind (.lift condition) fun c shown => .bind (.lift step) fun s stepped =>
      .pure (balanced.append ?_)
  rw [balanced_iff_scan]
  simp [started, shown, stepped, inner]

theorem Balanced.addWhile (balanced : b.Balanced) (condition : v.Balanced)
    (each : Returns Balanced first) : Ensures Balanced (b.addWhile v first) := by
  refine .bind (balanced_filledBlock each) fun block inner => .bind (.lift condition) fun c shown =>
    .pure (balanced.append ?_)
  rw [balanced_iff_scan]
  simp [shown, inner]

theorem Balanced.addTryCatch (balanced : b.Balanced) (attempt : Returns Balanced first)
    (name : v.Balanced) (handler : Returns Balanced second) :
    Ensures Balanced (b.addTryCatch first v second) := by
  refine .bind (balanced_filledBlock attempt) fun tried inner =>
    .bind (balanced_filledBlock handler) fun handled other =>
    .bind (.lift name) fun n named => .pure (balanced.append ?_)
  rw [balanced_iff_scan]
  simp [named, inner, other]

theorem Balanced.addTryCatchFinally (balanced : b.Balanced) (attempt : Returns Balanced first)
    (name : v.Balanced) (handler : Returns Balanced second) (last : Returns Balanced third) :
    Ensures Balanced (b.addTryCatchFinally first v second third) := by
  refine .bind (balanced_filledBlock attempt) fun tried inner =>
    .bind (balanced_filledBlock handler) fun handled other =>
    .bind (balanced_filledBlock last) fun final always => .bind (.lift name) fun n named =>
      .pure (balanced.append ?_)
  rw [balanced_iff_scan]
  simp [named, inner, other, always]

theorem balanced_bodyFrom {fill : Body → Except Fault (Supplied Body)}
    (returns : Returns Balanced fill) :
    Ensures (fun kept => ∀ b, kept = some (.good b) → b.Balanced) (bodyFrom fill) := by
  intro kept given
  obtain ⟨supplied, filled, given⟩ := Step.bind_eq_ok.mp given
  cases given
  rintro b same
  cases supplied with
  | good c =>
    cases same
    exact returns b filled
  | stray v => cases v <;> cases same

end Body

theorem balanced_typeParameter {name constraint : Value} (named : name.Balanced)
    (bounded : constraint.Balanced) : Ensures Text.Balanced (typeParameter name constraint) := by
  refine .bind (named.requireText _ _) fun n shown => .bind bounded.optionalText fun o bound => ?_
  cases o with
  | none => exact .pure shown
  | some c => exact .pure ((shown.append (by decide)).append (bound c rfl))

theorem balanced_angleList {ps : List String} (each : ∀ p ∈ ps, Text.Balanced p) :
    Text.Balanced (angleList ps) := by
  unfold angleList
  split
  · decide
  · have joined : Text.Balanced (", ".intercalate ps) := Text.balanced_intercalate (by decide) each
    exact (Text.Balanced.append (by decide) joined).append (by decide)

theorem balanced_resultType {o : Option String} (typed : ∀ t ∈ o, Text.Balanced t) :
    Text.Balanced (resultType o) := by
  cases o with
  | none => decide
  | some t => exact Text.Balanced.append (by decide) (typed t rfl)

structure Arrow.Balanced (a : Arrow) : Prop where
  parameters : ∀ p ∈ a.parameters, p.Fits Parameter.Balanced
  typeParameters : ∀ t ∈ a.typeParameters, Text.Balanced t
  returnType : ∀ t ∈ a.returnType, Text.Balanced t
  expressionBody : ∀ t ∈ a.expressionBody, Text.Balanced t
  body : ∀ b, a.body = some (.good b) → b.Balanced

theorem forall_mem_concat {α : Type} {P : α → Prop} {items : List α} {new : α}
    (each : ∀ a ∈ items, P a) (last : P new) : ∀ a ∈ items ++ [new], P a := by
  intro a member
  rcases List.mem_append.mp member with member | member
  · exact each a member
  · rw [List.mem_singleton.mp member]
    exact last

namespace Arrow

variable {a : Arrow} {v w : Value}

theorem balanced_empty : Arrow.Balanced {} :=
  ⟨by simp, by simp, by simp, by simp, by simp⟩

theorem Balanced.withReturnType (balanced : a.Balanced) (type : v.Balanced) :
    Ensures Balanced (a.withReturnType v) :=
  .bind type fun _ shown => .pure { balanced with returnType := by simpa using shown }

theorem Balanced.addTypeParameter (balanced : a.Balanced) (name : v.Balanced)
    (constraint : w.Balanced) : Ensures Balanced (a.addTypeParameter v w) :=
  .bind (balanced_typeParameter name constraint) fun _ shown =>
    .pure { balanced with typeParameters := forall_mem_concat balanced.typeParameters shown }

theorem Balanced.addParameter (balanced : a.Balanced) {p : Parameter} (new : p.Balanced) :
    (a.addParameter (.good p)).Balanced :=
  { balanced with parameters := forall_mem_concat balanced.parameters new }

theorem Balanced.withExpressionBody (balanced : a.Balanced) (value : v.Balanced) :
    Ensures Balanced (a.withExpressionBody v) :=
  .bind value fun _ shown => .pure { balanced with expressionBody := by simpa using shown }

theorem Balanced.withBody (balanced : a.Balanced) {fill : Body → Except Fault (Supplied Body)}
    (returns : Body.Returns Body.Balanced fill) : Ensures Balanced (a.withBody fill) :=
  .bind (Body.balanced_bodyFrom returns) fun _ kept => .pure { balanced with body := kept }

theorem Balanced.build (balanced : a.Balanced) : Ensures Expression.Balanced a.build := by
  unfold Arrow.build
  by_cases missing : (a.expressionBody.isNone && a.body.isNone) = true
  · rw [if_pos missing]
    exact .error _
  · rw [if_neg missing]
    refine .bind (Parameter.balanced_renderAll false balanced.parameters) fun ps rendered => ?_
    have types := balanced_angleList balanced.typeParameters
    have result := balanced_resultType balanced.returnType
    have asynchronous : Text.Balanced (if a.isAsync then "async " else "") := by
      split <;> decide
    have whole : ∀ body, Text.Balanced body → Expression.Balanced
        ⟨(if a.isAsync then "async " else "") ++ angleList a.typeParameters ++ "(" ++ ps ++ ")" ++
          resultType a.returnType ++ " => " ++ body⟩ := by
      intro body shown
      rw [Expression.Balanced, balanced_iff_scan]
      simp only [String.toList_append]
      simp [asynchronous, types, rendered, result, shown]
    cases given : a.expressionBody with
    | some e => exact .pure (whole e (balanced.expressionBody e given))
    | none =>
      cases kept : a.body with
      | some b =>
        have good : ∀ c, b = .good c → c.Balanced := fun c same =>
          balanced.body c (by rw [kept, same])
        exact .bind (Body.balanced_suppliedBlock good) fun text shown => .pure (whole text shown)
      | none => exact .pure (whole _ (by decide))

end Arrow

structure Method.Balanced (d : Method) : Prop where
  name : Text.Balanced d.name
  returnType : ∀ t ∈ d.returnType, Text.Balanced t
  access : Access.Balanced d.access
  typeParameters : ∀ t ∈ d.typeParameters, Text.Balanced t
  parameters : ∀ p ∈ d.parameters, p.Fits Parameter.Balanced
  body : ∀ b, d.body = some (.good b) → b.Balanced
  expressionBody : ∀ t ∈ d.expressionBody, Text.Balanced t
  overloads : ∀ v ∈ d.overloads, v.Balanced
  decorators : ∀ v ∈ d.decorators, v.Balanced

namespace Method

variable {d : Method} {v w : Value}

theorem balanced_ofValue (name : v.Balanced) : Ensures Balanced (ofValue v) := by
  refine .bind (name.requireText _ _) fun n shown => .pure ?_
  exact ⟨shown, by simp, Access.balanced_good .unmarked, by simp, by simp, by simp, by simp,
    by simp, by simp⟩

theorem Balanced.withReturnType (balanced : d.Balanced) (type : v.Balanced) :
    Ensures Balanced (d.withReturnType v) :=
  .bind type fun _ shown => .pure { balanced with returnType := by simpa using shown }

theorem Balanced.withExpressionBody (balanced : d.Balanced) (value : v.Balanced) :
    Ensures Balanced (d.withExpressionBody v) :=
  .bind value fun _ shown => .pure { balanced with expressionBody := by simpa using shown }

theorem Balanced.addTypeParameter (balanced : d.Balanced) (name : v.Balanced)
    (constraint : w.Balanced) : Ensures Balanced (d.addTypeParameter v w) :=
  .bind (balanced_typeParameter name constraint) fun _ shown =>
    .pure { balanced with typeParameters := forall_mem_concat balanced.typeParameters shown }

theorem Balanced.addParameter (balanced : d.Balanced) {p : Parameter} (new : p.Balanced) :
    (d.addParameter (.good p)).Balanced :=
  { balanced with parameters := forall_mem_concat balanced.parameters new }

theorem Balanced.addOverload (balanced : d.Balanced) (new : v.Balanced) :
    (d.addOverload v).Balanced :=
  { balanced with overloads := forall_mem_concat balanced.overloads new }

theorem Balanced.withDecorator (balanced : d.Balanced) (new : v.Balanced) :
    (d.withDecorator v).Balanced :=
  { balanced with decorators := forall_mem_concat balanced.decorators new }

theorem Balanced.withBody (balanced : d.Balanced) {fill : Body → Except Fault (Supplied Body)}
    (returns : Body.Returns Body.Balanced fill) : Ensures Balanced (d.withBody fill) :=
  .bind (Body.balanced_bodyFrom returns) fun _ kept => .pure { balanced with body := kept }

end Method

def ObjectEntry.Balanced (e : ObjectEntry) : Prop := Text.Balanced e.render

def ObjectLiteral.Balanced (o : ObjectLiteral) : Prop := ∀ e ∈ o.entries, e.Balanced

namespace ObjectLiteral

variable {o : ObjectLiteral} {v w : Value}

theorem balanced_empty : ObjectLiteral.Balanced {} := by
  intro e member
  cases member

theorem Balanced.add (balanced : o.Balanced) {e : ObjectEntry} (new : e.Balanced) :
    (o.add e).Balanced :=
  forall_mem_concat balanced new

theorem Balanced.addProperty (balanced : o.Balanced) (name : v.Balanced) (value : w.Balanced) :
    Ensures Balanced (o.addProperty v w) := by
  refine .bind (name.requireText _ _) fun n named => .bind value fun t shown => .pure ?_
  exact balanced.add ((named.append (by decide)).append shown)

theorem Balanced.addShorthand (balanced : o.Balanced) (name : v.Balanced) :
    Ensures Balanced (o.addShorthand v) :=
  .bind (name.requireText _ _) fun _ named => .pure (balanced.add named)

theorem Balanced.addComputed (balanced : o.Balanced) (key : v.Balanced) (value : w.Balanced) :
    Ensures Balanced (o.addComputed v w) := by
  refine .bind key fun k keyed => .bind value fun t shown => .pure (balanced.add ?_)
  unfold ObjectEntry.Balanced ObjectEntry.render
  rw [balanced_iff_scan]
  simp [keyed, shown]

theorem Balanced.addSpread (balanced : o.Balanced) (source : v.Balanced) :
    Ensures Balanced (o.addSpread v) :=
  .bind source fun _ shown => .pure (balanced.add (Text.Balanced.append (by decide) shown))

theorem balanced_methodText {d : Method} (balanced : d.Balanced) :
    Ensures Text.Balanced (methodText d) := by
  unfold methodText
  refine .bind (Parameter.balanced_renderAll false balanced.parameters) fun ps rendered => ?_
  have head : Text.Balanced ((if d.isAsync then "async " else "") ++
      (if d.isGenerator then "*" else "") ++ d.name ++ "(" ++ ps ++ ")" ++
      resultType d.returnType) := by
    have asynchronous : Text.Balanced (if d.isAsync then "async " else "") := by
      split <;> decide
    have generator : Text.Balanced (if d.isGenerator then "*" else "") := by
      split <;> decide
    have result := balanced_resultType balanced.returnType
    rw [balanced_iff_scan]
    simp only [String.toList_append]
    simp [asynchronous, generator, balanced.name, rendered, result]
  revert head
  dsimp only
  generalize (if d.isAsync then "async " else "") ++ (if d.isGenerator then "*" else "") ++
    d.name ++ "(" ++ ps ++ ")" ++ resultType d.returnType = head
  intro headed
  cases given : d.expressionBody with
  | some e =>
    have shown := balanced.expressionBody e given
    refine .pure ?_
    rw [balanced_iff_scan]
    simp [bodyIndent, Body.blockIndent, headed, shown]
  | none =>
    cases kept : d.body with
    | none => exact .pure ((headed.append (by decide)).append (by decide))
    | some supplied =>
      cases supplied with
      | stray v => exact .error _
      | good b =>
        refine .bind (P := (· = b)) (.pure rfl) ?_
        rintro _ rfl
        split
        · exact .pure ((headed.append (by decide)).append (by decide))
        · refine .pure ((Text.alike_intercalate (by decide) _).balanced ?_)
          have inner := Text.together_leadLines (show Text.Balanced bodyIndent by decide)
            (balanced.body _ kept)
          exact Text.together_braces (fun _ => by simp [headed]) inner
            (fun _ => by simp [Body.blockIndent])

theorem Balanced.addMethod (balanced : o.Balanced)
    {configure : Method → Except Fault (Supplied Method)}
    (configured : ∀ d made, Method.ofValue v = .ok d → configure d = .ok (.good made) →
      made.Balanced) : Ensures Balanced (o.addMethod v configure) := by
  intro result given
  obtain ⟨supplied, done, given⟩ := Step.bind_eq_ok.mp given
  obtain ⟨d, started, done⟩ := Step.bind_eq_ok.mp done
  cases supplied with
  | stray v => cases given
  | good made =>
    have start : Method.ofValue v = .ok d := Ensures.lift (P := fun d => Method.ofValue v = .ok d)
      (fun _ same => same) d started
    obtain ⟨_, needed, given⟩ := Step.bind_eq_ok.mp given
    cases needed
    obtain ⟨text, shown, given⟩ := Step.bind_eq_ok.mp given
    cases given
    exact balanced.add
      (Ensures.lift (balanced_methodText (configured d made start done)) text shown)

private theorem balanced_entryLines {es : List ObjectEntry} (each : ∀ e ∈ es, e.Balanced) :
    ∀ l ∈ entryLines es, Text.Balanced l := by
  fun_induction entryLines es with
  | case1 => simp
  | case2 e =>
    have shown : Text.Balanced e.render := each e List.mem_cons_self
    exact List.forall_mem_singleton.mpr (Text.Balanced.append (by decide) shown)
  | case3 e rest _ ih =>
    have shown : Text.Balanced e.render := each e List.mem_cons_self
    have others := ih fun f member => each f (List.mem_cons_of_mem e member)
    exact List.forall_mem_cons.mpr
      ⟨(Text.Balanced.append (by decide) shown).append (by decide), others⟩

theorem Balanced.build (balanced : o.Balanced) : o.build.Balanced := by
  unfold ObjectLiteral.build
  split
  · decide
  · split
    · have inner := Text.Together.of_each (balanced_entryLines balanced)
      refine (Text.alike_intercalate (by decide) _).balanced ?_
      exact Text.together_braces (fun _ => by simp) inner (fun _ => by simp)
    · have inner : Text.Balanced (", ".intercalate (o.entries.map ObjectEntry.render)) :=
        Text.balanced_intercalate (by decide) (List.forall_mem_map.mpr balanced)
      rw [Expression.Balanced, balanced_iff_scan]
      simp only [String.toList_append]
      simp [inner, -String.toList_intercalate]

end ObjectLiteral

end TypeScriptGen
