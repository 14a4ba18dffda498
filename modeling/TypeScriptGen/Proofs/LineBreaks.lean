import TypeScriptGen.Proofs.LineAlgebra
import TypeScriptGen.Proofs.Pipeline

/-!
Line breaks of emitted code. Bodies and documentation may be of any number of lines, with line ends
of any kind; every other slot is meant to stand on one line. Main statement: where it does, the line
ends of the settings are the only ones in the code, and each of them ends one rendered line.
-/

set_option autoImplicit false
set_option relaxedAutoImplicit false

namespace TypeScriptGen

open Rendering
open Text (Plain AllPlain IsLineEnd)

/-! The slots that are meant to stand on one line. Nothing is asked of statements and of
documentation. -/

def Value.OneLine (v : Value) : Prop := Ensures Plain v.toText

def Access.OneLine (a : Supplied Access) : Prop := Ensures Plain (Access.lead a)

structure Parameter.OneLine (p : Parameter) : Prop where
  name : Plain p.name
  type : Plain p.type
  defaultValue : ∀ t ∈ p.defaultValue, Plain t
  access : Access.OneLine p.access

def Parameter.SuppliedOneLine : Supplied Parameter → Prop
  | .good p => p.OneLine
  | .stray v => Ensures Plain (renderValue true v)

structure Field.OneLine (f : Field) : Prop where
  name : Plain f.name
  type : Plain f.type
  access : Access.OneLine f.access
  initializer : ∀ t ∈ f.initializer, Plain t

/-- A property whose slots stand on one line, but for the statements of its accessors. -/
structure Property.OneLine (p : Property) : Prop where
  name : Plain p.name
  type : Plain p.type
  access : Access.OneLine p.access
  getterExpression : ∀ t ∈ p.getterExpression, Plain t
  initializer : ∀ t ∈ p.initializer, Plain t

/-- A method whose slots stand on one line, but for its statements. -/
structure Method.OneLine (d : Method) : Prop where
  name : Plain d.name
  returnType : ∀ t ∈ d.returnType, Plain t
  access : Access.OneLine d.access
  typeParameters : ∀ t ∈ d.typeParameters, Plain t
  parameters : ∀ p ∈ d.parameters, Parameter.SuppliedOneLine p
  expressionBody : ∀ t ∈ d.expressionBody, Plain t
  overloads : ∀ v ∈ d.overloads, v.OneLine
  decorators : ∀ v ∈ d.decorators, v.OneLine

/-- A constructor whose slots stand on one line, but for its statements. -/
structure Constructor.OneLine (c : Constructor) : Prop where
  access : Access.OneLine c.access
  parameters : ∀ p ∈ c.parameters, Parameter.SuppliedOneLine p
  superArguments : ∀ t ∈ c.superArguments, Plain t
  overloads : ∀ v ∈ c.overloads, v.OneLine

/-- The slots of a declaration that are meant to stand on one line do, but for what is nested. -/
structure Surface.OneLine (d : Surface) : Prop where
  name : d.name.OneLine
  decorators : ∀ v ∈ d.decorators, v.OneLine
  typeParameters : ∀ t ∈ d.typeParameters, Plain t
  bases : ∀ t ∈ d.bases, Plain t
  interfaces : ∀ t ∈ d.interfaces, Plain t
  indexSignatures : ∀ t ∈ d.indexSignatures, Plain t
  fields : ∀ f, .good f ∈ d.fields → f.OneLine
  constructors : ∀ c, .good c ∈ d.constructors → c.OneLine
  properties : ∀ p, .good p ∈ d.properties → p.OneLine
  methods : ∀ m, .good m ∈ d.methods → m.OneLine
  enumMembers : ∀ m ∈ d.enumMembers, m.1.OneLine ∧ ∀ t ∈ m.2, Plain t
  imports : ∀ v ∈ d.imports, v.OneLine
  definition : ∀ t ∈ d.definition, Plain t

/-- The slots of a declaration that are meant to stand on one line do, at every depth. -/
inductive Declaration.OneLine : Declaration → Prop where
  | mk {d : Surface} {nested : List (Supplied Declaration)} (surface : d.OneLine)
      (within : ∀ n, .good n ∈ nested → n.OneLine) : OneLine ⟨d, nested⟩

/-- What goes in front of lines and above the declaration stands on one line. -/
structure Settings.OneLine (s : Settings) : Prop where
  indentation : s.indentation.OneLine
  header : s.header.OneLine

namespace Value

theorem oneLine_text {s : String} (plain : Plain s) : Value.OneLine (.text s) := .pure plain

theorem OneLine.asText {v : Value} (single : v.OneLine) (operation : String) :
    Ensures Plain (v.asText operation) := by
  cases v with
  | text s => exact single
  | _ => exact .error _

theorem oneLine_toTexts {vs : List Value} (each : ∀ v ∈ vs, v.OneLine) :
    Ensures AllPlain (toTexts vs) := by
  induction vs with
  | nil => exact .pure (List.forall_mem_nil _)
  | cons v rest ih =>
    have others := ih fun w member => each w (List.mem_cons_of_mem v member)
    exact .bind (each v List.mem_cons_self) fun _ first => .bind others fun _ more =>
      .pure (List.forall_mem_cons.mpr ⟨first, more⟩)

end Value

namespace Parameter

private theorem plain_default (o : Option String) : (∀ t ∈ o, Plain t) →
    Plain (match o with
      | Option.none => ""
      | some t => " = " ++ t) := by
  intro each
  cases o with
  | none => decide
  | some t => exact Text.Plain.append (by decide) (each t rfl)

private theorem plain_render {p : Parameter} (single : p.OneLine) :
    Ensures Plain (p.render true) := by
  refine .bind single.access fun access lead => .pure ?_
  have default := plain_default p.defaultValue single.defaultValue
  have marks : ∀ (applies : Bool) (word : String), Plain word →
      Plain (if applies = true then word else "") := by
    intro applies word plain
    split
    · exact plain
    · decide
  simp only [Text.plain_append]
  exact ⟨⟨⟨⟨⟨⟨⟨lead, marks _ _ (by decide)⟩, marks _ _ (by decide)⟩, single.name⟩,
    marks _ _ (by decide)⟩, by decide⟩, single.type⟩, default⟩

theorem plain_renderAll {ps : List (Supplied Parameter)} (each : ∀ p ∈ ps, SuppliedOneLine p) :
    Ensures Plain (renderAll true ps) := by
  have texts : Ensures AllPlain (renderTexts true ps) := by
    induction ps with
    | nil => exact .pure (List.forall_mem_nil _)
    | cons p rest ih =>
      have others := ih fun q member => each q (List.mem_cons_of_mem p member)
      have first : Ensures Plain (renderSupplied true p) := by
        have single := each p List.mem_cons_self
        cases p with
        | good p => exact plain_render single
        | stray v => exact single
      exact .bind first fun _ one => .bind others fun _ more =>
        .pure (List.forall_mem_cons.mpr ⟨one, more⟩)
  exact .bind texts fun _ shown => .pure (Text.plain_intercalate (by decide) shown)

end Parameter

namespace Rendering

@[simp] theorem plain_flag (applies : Bool) {word : String} (fixed : Plain word) :
    Plain (flag applies word) := by
  unfold flag
  split
  · exact fixed
  · decide

theorem plain_assigned {o : Option String} (shown : ∀ t ∈ o, Plain t) : Plain (assigned o) := by
  cases o with
  | none => decide
  | some t => exact Text.Plain.append (by decide) (shown t rfl)

theorem plain_semicolon (s : Settings) : Plain s.semicolon := by
  unfold Settings.semicolon
  split <;> decide

theorem plain_angleList {ts : List String} (each : ∀ t ∈ ts, Plain t) : Plain (angleList ts) := by
  unfold angleList
  split
  · decide
  · have joined : Plain (", ".intercalate ts) := Text.plain_intercalate (by decide) each
    exact (Text.Plain.append (by decide) joined).append (by decide)

theorem plain_resultType {o : Option String} (shown : ∀ t ∈ o, Plain t) :
    Plain (resultType o) := by
  cases o with
  | none => decide
  | some t => exact Text.Plain.append (by decide) (shown t rfl)

theorem plain_clause {word : String} (fixed : Plain word) {names : List String}
    (each : ∀ t ∈ names, Plain t) : Plain (clause word names) := by
  unfold clause
  split
  · decide
  · have joined : Plain (", ".intercalate names) := Text.plain_intercalate (by decide) each
    exact ((Text.Plain.append (by decide) fixed).append (by decide)).append joined

theorem plain_deeper {s : Settings} (unit : s.indentation.OneLine) {indent : String}
    (fixed : Plain indent) : Ensures Plain (s.deeper indent) := by
  unfold Settings.deeper
  split
  case h_1 text given =>
    rw [given] at unit
    exact .pure (fixed.append (unit text rfl))
  case h_2 => exact .error _

theorem plain_each {α : Type} {render : α → Except Fault (List String)} {items : List α}
    (all : ∀ a ∈ items, Ensures AllPlain (render a)) :
    Ensures (fun groups => ∀ ls ∈ groups, AllPlain ls) (each render items) := by
  induction items with
  | nil => exact .pure (List.forall_mem_nil _)
  | cons a rest ih =>
    have others := ih fun b member => all b (List.mem_cons_of_mem a member)
    exact .bind (all a List.mem_cons_self) fun _ one => .bind others fun _ more =>
      .pure (List.forall_mem_cons.mpr ⟨one, more⟩)

theorem plain_category {α : Type} {gap : List String} (between : AllPlain gap)
    {render : α → Except Fault (List String)} {items : List α}
    (all : ∀ a ∈ items, Ensures AllPlain (render a)) :
    Ensures (fun groups => ∀ ls ∈ groups, AllPlain ls) (category gap render items) := by
  unfold category
  split
  · exact .pure (List.forall_mem_nil _)
  · exact .bind (plain_each all) fun _ shown =>
      .pure (List.forall_mem_singleton.mpr (Text.allPlain_intercalate between shown))

theorem plain_modifiers (d : Surface) : Plain (modifiers d) := by
  unfold modifiers
  refine Text.Plain.append ?_ (plain_flag _ (by decide))
  split
  · decide
  · exact plain_flag _ (by decide)

theorem plain_plainName {v : Value} (named : v.OneLine) : Ensures Plain (plainName v) := by
  cases v with
  | text s => exact named
  | _ => exact .error _

section Lines

variable {s : Settings} {indent inner : String}

theorem plain_decoratorLines (start : Plain indent) {vs : List Value}
    (all : ∀ v ∈ vs, v.OneLine) : Ensures AllPlain (decoratorLines indent vs) := by
  refine .bind (plain_each fun v member => ?_) fun groups shown => .pure ?_
  · refine .bind ((all v member).asText _) fun t text =>
      .pure (List.forall_mem_singleton.mpr ?_)
    simp +decide [start, text]
  · intro l member
    obtain ⟨ls, present, member⟩ := List.mem_flatten.mp member
    exact shown ls present l member

theorem plain_signatureLines (start : Plain indent) {vs : List Value}
    (all : ∀ v ∈ vs, v.OneLine) : Ensures AllPlain (signatureLines s indent vs) := by
  refine .bind (Value.oneLine_toTexts all) fun texts shown => .pure ?_
  intro l member
  obtain ⟨t, present, rfl⟩ := List.mem_map.mp member
  exact (start.append (shown t present)).append (plain_semicolon s)

theorem plain_bodyLines (start : Plain inner) (body : Supplied Body) :
    Ensures AllPlain (bodyLines inner body) := by
  refine .after fun b => .pure ?_
  intro l member
  obtain ⟨t, _, member⟩ := List.mem_flatMap.mp member
  exact Text.allPlain_leadLines start t l member

theorem plain_optionalBodyLines (start : Plain inner) (body : Option (Supplied Body)) :
    Ensures AllPlain (optionalBodyLines inner body) := by
  cases body with
  | none => exact .pure (List.forall_mem_nil _)
  | some supplied => exact plain_bodyLines start supplied

theorem plain_docLines (start : Plain indent) (doc : Value) :
    Ensures AllPlain (docLines indent doc) := by
  unfold docLines
  split
  · exact .pure (List.forall_mem_nil _)
  · refine .after fun t => .pure ?_
    have within := Text.allPlain_leadLines (start.append (by decide : Plain " * ")) t
    simp only [List.forall_mem_append, List.forall_mem_singleton]
    exact ⟨⟨start.append (by decide), within⟩, start.append (by decide)⟩

theorem plain_fieldLine (start : Plain indent) {f : Field} (single : f.OneLine) :
    Ensures Plain (fieldLine s indent f) := by
  refine .bind single.access fun access lead => .pure ?_
  have value := plain_assigned single.initializer
  simp +decide [start, lead, single.name, single.type, value, plain_semicolon]

theorem plain_fieldLines (start : Plain indent) {f : Supplied Field}
    (single : ∀ g, f = .good g → g.OneLine) : Ensures AllPlain (fieldLines s indent f) := by
  cases f with
  | stray v => exact .after fun _ => .after fun _ => .error _
  | good f =>
    exact .bind (plain_fieldLine start (single f rfl)) fun _ shown =>
      .pure (List.forall_mem_singleton.mpr shown)

theorem plain_constructorBlock (start : Plain indent) (within : Plain inner) {c : Constructor}
    (single : c.OneLine) : Ensures AllPlain (constructorBlock s indent inner c) := by
  unfold constructorBlock
  refine .bind (plain_signatureLines start single.overloads) fun overloads signed =>
    .bind single.access fun access lead =>
    .bind (Parameter.plain_renderAll single.parameters) fun ps shown => ?_
  have head : Plain (indent ++ access ++ "constructor(" ++ ps ++ ")") := by
    simp +decide [start, lead, shown]
  dsimp only
  split
  · refine .pure (List.forall_mem_append.mpr ⟨signed, List.forall_mem_singleton.mpr ?_⟩)
    exact head.append (by decide)
  · refine .bind (plain_optionalBodyLines within c.body) fun body lines => .pure ?_
    have call : AllPlain (if c.superArguments.isEmpty then []
        else [inner ++ "super(" ++ ", ".intercalate c.superArguments ++ ")" ++ s.semicolon]) := by
      split
      · exact List.forall_mem_nil _
      · have joined : Plain (", ".intercalate c.superArguments) :=
          Text.plain_intercalate (by decide) single.superArguments
        refine List.forall_mem_singleton.mpr ?_
        simp +decide [within, joined, plain_semicolon]
    simp only [List.forall_mem_append, List.forall_mem_singleton]
    exact ⟨⟨⟨⟨signed, head.append (by decide)⟩, call⟩, lines⟩, start.append (by decide)⟩

theorem plain_constructorLines (unit : s.indentation.OneLine) (start : Plain indent)
    {c : Supplied Constructor} (single : ∀ g, c = .good g → g.OneLine) :
    Ensures AllPlain (constructorLines s indent c) := by
  refine .bind (plain_deeper unit start) fun inner within => ?_
  cases c with
  | stray v =>
    exact .after fun _ => .after fun _ => .after fun _ => .after fun _ => .after fun _ =>
      .after fun _ => .after fun _ => .after fun _ => .error _
  | good c => exact plain_constructorBlock start within (single c rfl)

theorem plain_propertyLine (start : Plain indent) {p : Property} (single : p.OneLine) :
    Ensures Plain (propertyLine s indent p) := by
  refine .bind single.access fun access lead => .pure ?_
  have value := plain_assigned single.initializer
  simp +decide [start, lead, single.name, single.type, value, plain_semicolon]

theorem plain_getterLines (start : Plain indent) (within : Plain inner) {modifiers : String}
    (fixed : Plain modifiers) {p : Property} (single : p.OneLine) :
    Ensures AllPlain (getterLines s indent inner modifiers p) := by
  have block : ∀ body, AllPlain body → AllPlain
      ([indent ++ modifiers ++ "get " ++ p.name ++ "(): " ++ p.type ++ " \x7b"] ++ body ++
        [indent ++ "\x7d"]) := by
    intro body shown
    simp only [List.forall_mem_append, List.forall_mem_singleton]
    refine ⟨⟨?_, shown⟩, start.append (by decide)⟩
    simp +decide [start, fixed, single.name, single.type]
  unfold getterLines
  split
  · exact .pure (List.forall_mem_nil _)
  · split
    case h_1 e given =>
      have shown := single.getterExpression e given
      refine .pure (block _ (List.forall_mem_singleton.mpr ?_))
      simp +decide [within, shown, plain_semicolon]
    case h_2 =>
      exact .bind (plain_optionalBodyLines within p.getterBody) fun body shown =>
        .pure (block body shown)

theorem plain_setterLines (start : Plain indent) (within : Plain inner) {modifiers : String}
    (fixed : Plain modifiers) {p : Property} (single : p.OneLine) :
    Ensures AllPlain (setterLines indent inner modifiers p) := by
  unfold setterLines
  split
  · exact .pure (List.forall_mem_nil _)
  · refine .bind (plain_bodyLines within _) fun body shown => .pure ?_
    simp only [List.forall_mem_append, List.forall_mem_singleton]
    refine ⟨⟨?_, shown⟩, start.append (by decide)⟩
    simp +decide [start, fixed, single.name, single.type]

theorem plain_propertyLines (unit : s.indentation.OneLine) (start : Plain indent)
    {p : Supplied Property} (single : ∀ g, p = .good g → g.OneLine) :
    Ensures AllPlain (propertyLines s indent p) := by
  cases p with
  | stray v => exact .error _
  | good p =>
    have slots := single p rfl
    refine .bind (P := (· = p)) (.pure rfl) ?_
    rintro q rfl
    split
    · exact .bind (plain_propertyLine start slots) fun _ shown =>
        .pure (List.forall_mem_singleton.mpr shown)
    · refine .bind (plain_deeper unit start) fun inner within =>
        .bind slots.access fun access lead => ?_
      have fixed : Plain (access ++ flag q.isStatic "static ") :=
        lead.append (plain_flag _ (by decide))
      refine .bind (plain_getterLines start within fixed slots) fun getter got => ?_
      exact .bind (plain_setterLines start within fixed slots) fun setter put =>
        .pure (List.forall_mem_append.mpr ⟨got, put⟩)

theorem plain_methodHead (start : Plain indent) {d : Method} (single : d.OneLine) :
    Ensures Plain (methodHead indent d) := by
  refine .bind single.access fun access lead =>
    .bind (Parameter.plain_renderAll single.parameters) fun ps shown => .pure ?_
  have types := plain_angleList single.typeParameters
  have result := plain_resultType single.returnType
  simp +decide [start, lead, shown, single.name, types, result]

theorem plain_methodBlock (kind : Kind) (start : Plain indent) (within : Plain inner) {d : Method}
    (single : d.OneLine) : Ensures AllPlain (methodBlock s kind indent inner d) := by
  unfold methodBlock
  refine .bind (plain_decoratorLines start single.decorators) fun decorators decorated =>
    .bind (plain_signatureLines start single.overloads) fun overloads signed =>
    .bind (plain_methodHead start single) fun head headed => ?_
  have lead := List.forall_mem_append.mpr ⟨decorated, signed⟩
  have block : ∀ body, AllPlain body → AllPlain (decorators ++ overloads ++ [head ++ " \x7b"] ++
      body ++ [indent ++ "\x7d"]) := by
    intro body shown
    simp only [List.forall_mem_append, List.forall_mem_singleton]
    exact ⟨⟨⟨⟨decorated, signed⟩, headed.append (by decide)⟩, shown⟩, start.append (by decide)⟩
  dsimp only
  split
  · refine .pure (List.forall_mem_append.mpr ⟨lead, List.forall_mem_singleton.mpr ?_⟩)
    exact headed.append (plain_semicolon s)
  · split
    case h_1 e given =>
      have returned : Plain (inner ++ "return " ++ e ++ s.semicolon) := by
        simp +decide [within, single.expressionBody e given, plain_semicolon]
      have lines := block _ (List.forall_mem_singleton.mpr returned)
      exact .pure (by simpa using lines)
    case h_2 =>
      exact .bind (plain_bodyLines within _) fun lines shown => .pure (block lines shown)
    case h_3 =>
      refine .pure (List.forall_mem_append.mpr ⟨lead, List.forall_mem_singleton.mpr ?_⟩)
      exact headed.append (by decide)

theorem plain_methodLines (kind : Kind) (unit : s.indentation.OneLine) (start : Plain indent)
    {d : Supplied Method} (single : ∀ g, d = .good g → g.OneLine) :
    Ensures AllPlain (methodLines s kind indent d) := by
  refine .bind (plain_deeper unit start) fun inner within => ?_
  cases d with
  | stray v =>
    exact .after fun _ => .after fun _ => .after fun _ => .error _
  | good d => exact plain_methodBlock kind start within (single d rfl)

theorem plain_aliasLine (start : Plain indent) {d : Surface} (single : d.OneLine) :
    Ensures Plain (aliasLine s indent d) := by
  refine .bind single.name fun name named => .pure ?_
  have types := plain_angleList single.typeParameters
  have definition : Plain (d.definition.getD "unknown") := by
    cases given : d.definition with
    | none => decide
    | some t => exact single.definition t given
  simp +decide [start, plain_modifiers, named, types, definition, plain_semicolon]

theorem plain_enumMemberLine (within : Plain inner) {comma : String} (fixed : Plain comma)
    {name : Value} (named : name.OneLine) {value : Option String} (shown : ∀ t ∈ value, Plain t) :
    Ensures Plain (enumMemberLine inner comma name value) :=
  .bind named fun _ text =>
    .pure (((within.append text).append (plain_assigned shown)).append fixed)

theorem plain_enumMemberLines (within : Plain inner) {comma : String} (fixed : Plain comma)
    {members : List (Value × Option String)}
    (all : ∀ m ∈ members, m.1.OneLine ∧ ∀ t ∈ m.2, Plain t) :
    Ensures AllPlain (enumMemberLines inner comma members) := by
  fun_induction enumMemberLines inner comma members with
  | case1 => exact .pure (List.forall_mem_nil _)
  | case2 name value =>
    have member := all (name, value) List.mem_cons_self
    exact .bind (plain_enumMemberLine within fixed member.1 member.2) fun _ shown =>
      .pure (List.forall_mem_singleton.mpr shown)
  | case3 name value rest _ ih =>
    have member := all (name, value) List.mem_cons_self
    have others := ih fun m present => all m (List.mem_cons_of_mem _ present)
    exact .bind (plain_enumMemberLine within (by decide) member.1 member.2) fun _ shown =>
      .bind others fun _ more => .pure (List.forall_mem_cons.mpr ⟨shown, more⟩)

theorem plain_enumLines (unit : s.indentation.OneLine) (start : Plain indent) {d : Surface}
    (single : d.OneLine) : Ensures AllPlain (enumLines s indent d) := by
  have comma : Plain (flag s.trailingCommas.holds ",") := plain_flag _ (by decide)
  refine .bind (plain_deeper unit start) fun inner within => .bind single.name fun name named =>
    .bind (plain_enumMemberLines within comma single.enumMembers) fun members shown => .pure ?_
  simp only [List.forall_mem_append, List.forall_mem_singleton]
  refine ⟨⟨?_, shown⟩, start.append (by decide)⟩
  simp +decide [start, plain_modifiers, named]

theorem plain_classHead (start : Plain indent) {d : Surface} (single : d.OneLine) :
    Ensures Plain (classHead indent d) := by
  refine .bind (plain_plainName single.name) fun name named => .pure ?_
  have types := plain_angleList single.typeParameters
  have bases : Plain (clause "extends" d.bases) := plain_clause (by decide) single.bases
  have word : Plain (if d.kind == .classDecl then "class " else "interface ") := by
    split <;> decide
  have interfaces : Plain
      (if d.kind == .classDecl then clause "implements" d.interfaces else "") := by
    split
    · exact plain_clause (by decide) single.interfaces
    · decide
  generalize (d.kind == .classDecl) = isClass at word interfaces ⊢
  simp +decide only [Text.plain_append, start, plain_modifiers, plain_flag, word, named, types,
    bases, interfaces]

theorem plain_memberCategories (unit : s.indentation.OneLine) (within : Plain inner) {d : Surface}
    (single : d.OneLine) :
    Ensures (fun groups => ∀ ls ∈ groups, AllPlain ls) (memberCategories s inner d) := by
  have empty : AllPlain [] := List.forall_mem_nil _
  have gap : AllPlain [""] := List.forall_mem_singleton.mpr (by decide)
  have constructors : ∀ c ∈ (if d.kind == .classDecl then d.constructors else []),
      c ∈ d.constructors := by
    split
    · exact fun _ member => member
    · simp
  refine .bind (plain_category empty fun t member => .pure (List.forall_mem_singleton.mpr
      ((within.append (single.indexSignatures t member)).append (plain_semicolon s))))
      fun signatures signed =>
    .bind (plain_category empty fun f member =>
      plain_fieldLines within fun g same => single.fields g (same ▸ member)) fun fields fielded =>
    .bind (plain_category empty fun c member => plain_constructorLines unit within fun g same =>
      single.constructors g (same ▸ constructors c member)) fun constructed built =>
    .bind (plain_category empty fun p member => plain_propertyLines unit within fun g same =>
      single.properties g (same ▸ member)) fun properties held =>
    .bind (plain_category gap fun m member => plain_methodLines d.kind unit within fun g same =>
      single.methods g (same ▸ member)) fun methods called => .pure ?_
  simp only [List.forall_mem_append]
  exact ⟨⟨⟨⟨signed, fielded⟩, built⟩, held⟩, called⟩

theorem plain_nestedLines {nested : List (Supplied Declaration)}
    (all : ∀ n, .good n ∈ nested → Ensures AllPlain (n.lines s inner)) :
    Ensures (fun groups => ∀ ls ∈ groups, AllPlain ls) (nestedLines s inner nested) := by
  induction nested with
  | nil => exact .pure (List.forall_mem_nil _)
  | cons n rest ih =>
    have others := ih fun m member => all m (List.mem_cons_of_mem n member)
    cases n with
    | stray v => exact .error _
    | good n =>
      exact .bind (all n List.mem_cons_self) fun _ one => .bind others fun _ more =>
        .pure (List.forall_mem_cons.mpr ⟨one, more⟩)

end Lines

end Rendering

namespace Declaration

theorem OneLine.lines {d : Declaration} (single : d.OneLine) {s : Settings}
    (unit : s.indentation.OneLine) {indent : String} (start : Plain indent) :
    Ensures AllPlain (d.lines s indent) := by
  induction single generalizing indent with
  | @mk d nested surface _ ih =>
    have gap : AllPlain [""] := List.forall_mem_singleton.mpr (by decide)
    have closing : Plain (indent ++ "\x7d") := start.append (by decide)
    unfold Declaration.lines
    refine .bind (plain_docLines start d.doc) fun doc documented =>
      .bind (plain_decoratorLines start surface.decorators) fun decorators decorated => ?_
    have lead := List.forall_mem_append.mpr ⟨documented, decorated⟩
    have container : Ensures AllPlain (do
        let inner ← s.deeper indent
        let head ← classHead indent d
        let members ← memberCategories s inner d
        let inside ← nestedLines s inner nested
        let categories := members ++ if nested.isEmpty then [] else [[""].intercalate inside]
        return doc ++ decorators ++ [head] ++ [""].intercalate categories ++
          [indent ++ "\x7d"]) := by
      refine .bind (plain_deeper unit start) fun inner within =>
        .bind (plain_classHead start surface) fun head headed =>
        .bind (plain_memberCategories unit within surface) fun members shown =>
        .bind (plain_nestedLines fun n member => ih n member within) fun inside others => .pure ?_
      have contained : ∀ ls ∈ members ++
          (if nested.isEmpty then [] else [[""].intercalate inside]), AllPlain ls := by
        refine List.forall_mem_append.mpr ⟨shown, ?_⟩
        split
        · exact List.forall_mem_nil _
        · exact List.forall_mem_singleton.mpr (Text.allPlain_intercalate gap others)
      have categories := Text.allPlain_intercalate gap contained
      simp only [List.forall_mem_append, List.forall_mem_singleton]
      exact ⟨⟨⟨⟨documented, decorated⟩, headed⟩, categories⟩, closing⟩
    dsimp only
    split
    · exact .bind (plain_aliasLine start surface) fun _ shown =>
        .pure (List.forall_mem_append.mpr ⟨lead, List.forall_mem_singleton.mpr shown⟩)
    · exact .bind (plain_enumLines unit start surface) fun _ shown =>
        .pure (List.forall_mem_append.mpr ⟨lead, shown⟩)
    · exact .bind (plain_enumLines unit start surface) fun _ shown =>
        .pure (List.forall_mem_append.mpr ⟨lead, shown⟩)
    · exact container
    · exact container

theorem lines_last (s : Settings) (indent : String) (d : Declaration) :
    Ensures (fun ls => ∃ front last, ls = front ++ [last] ∧ last ≠ "") (d.lines s indent) := by
  have brace : indent ++ "\x7d" ≠ "" := by simp
  obtain ⟨d, nested⟩ := d
  unfold Declaration.lines
  refine .after fun doc => .after fun decorators => ?_
  have enum : Ensures (fun ls => ∃ front last, ls = front ++ [last] ∧ last ≠ "")
      (do return doc ++ decorators ++ (← enumLines s indent d)) := by
    unfold enumLines
    refine .bind (P := fun ls => ∃ front, ls = front ++ [indent ++ "\x7d"]) ?_ ?_
    · exact .after fun _ => .after fun _ => .after fun _ => .pure ⟨_, rfl⟩
    · rintro _ ⟨front, rfl⟩
      exact .pure ⟨doc ++ decorators ++ front, _, (List.append_assoc ..).symm, brace⟩
  dsimp only
  split
  · refine .bind (P := (· ≠ "")) ?_ fun line shown => .pure ⟨_, line, rfl, shown⟩
    refine .after fun name => .pure ?_
    simp
  · exact enum
  · exact enum
  · exact .after fun _ => .after fun _ => .after fun _ => .after fun _ => .pure ⟨_, _, rfl, brace⟩
  · exact .after fun _ => .after fun _ => .after fun _ => .after fun _ => .pure ⟨_, _, rfl, brace⟩

end Declaration

def Settings.endedBy (s : Settings) (eol : String) : Settings := { s with endOfLine := .text eol }

mutual

theorem Declaration.lines_endedBy (s : Settings) (eol indent : String) :
    (d : Declaration) → d.lines (s.endedBy eol) indent = d.lines s indent
  | ⟨d, nested⟩ => by
    unfold Declaration.lines
    simp only [nestedLines_endedBy s eol _ nested]
    rfl

theorem nestedLines_endedBy (s : Settings) (eol indent : String) :
    (nested : List (Supplied Declaration)) →
      nestedLines (s.endedBy eol) indent nested = nestedLines s indent nested
  | [] => rfl
  | .good d :: rest => by
    unfold nestedLines
    rw [Declaration.lines_endedBy s eol indent d, nestedLines_endedBy s eol indent rest]
  | .stray _ :: _ => rfl

end

/-- The lines of the file that holds a declaration, before line ends are put between them. -/
def Declaration.fileLines (s : Settings) (d : Declaration) : Except Fault (List String) := do
  let lines ← d.lines s ""
  lineTexts 0 (preamble s d.toSurface ++ lines.map .text)

namespace Rendering

theorem lineTexts_behind (above : List Value) (ls : List String) (index : Nat) :
    Ensures (fun ts => ∃ front, ts = front ++ ls ∧ above = front.map .text)
      (lineTexts index (above ++ ls.map .text)) := by
  induction above generalizing index with
  | nil =>
    induction ls generalizing index with
    | nil => exact .pure ⟨[], rfl, rfl⟩
    | cons l rest ih =>
      refine .bind (ih (index + 1)) ?_
      rintro ts ⟨front, rfl, same⟩
      rw [List.map_eq_nil_iff.mp same.symm]
      exact .pure ⟨[], rfl, rfl⟩
  | cons v rest ih =>
    cases v with
    | text t =>
      refine .bind (ih (index + 1)) ?_
      rintro ts ⟨front, rfl, rfl⟩
      exact .pure ⟨t :: front, rfl, rfl⟩
    | _ => exact .error _

theorem oneLine_preamble {s : Settings} (around : s.OneLine) {d : Surface} (single : d.OneLine) :
    ∀ v ∈ preamble s d, v.OneLine := by
  have empty : Value.OneLine (.text "") := Value.oneLine_text (by decide)
  unfold preamble
  rw [List.forall_mem_append]
  constructor
  · split
    · exact List.forall_mem_nil _
    · exact List.forall_mem_cons.mpr ⟨around.header, List.forall_mem_singleton.mpr empty⟩
  · split
    · exact List.forall_mem_nil _
    · exact List.forall_mem_append.mpr ⟨single.imports, List.forall_mem_singleton.mpr empty⟩

end Rendering

namespace Declaration

theorem OneLine.surface {d : Declaration} (single : d.OneLine) : d.toSurface.OneLine := by
  cases single with
  | mk surface within => exact surface

theorem OneLine.fileLines {d : Declaration} (single : d.OneLine) {s : Settings}
    (around : s.OneLine) : Ensures (fun ls => AllPlain ls ∧
      ∃ front last, ls = front ++ [last] ∧ last ≠ "") (d.fileLines s) := by
  intro ts given
  obtain ⟨ls, rendered, given⟩ := Step.bind_eq_ok.mp given
  have plain := single.lines around.indentation (by decide) ls rendered
  obtain ⟨front, last, rfl, shown⟩ := lines_last s "" d ls rendered
  obtain ⟨above, rfl, same⟩ := lineTexts_behind _ _ 0 ts given
  refine ⟨List.forall_mem_append.mpr ⟨?_, plain⟩, above ++ front, last, ?_, shown⟩
  · intro l member
    have value := oneLine_preamble around single.surface (.text l)
      (same ▸ List.mem_map_of_mem member)
    exact value l rfl
  · rw [List.append_assoc]

theorem file_endedBy (d : Declaration) (s : Settings) (eol : String) :
    d.file (s.endedBy eol) = (d.fileLines s).map fun ls => eol.intercalate ls ++ eol := by
  unfold Declaration.file Declaration.fileLines
  rw [lines_endedBy]
  cases d.lines s "" with
  | error fault => rfl
  | ok ls =>
    change joinLines (.text eol) (preamble s d.toSurface ++ ls.map .text) = (lineTexts 0 _).map _
    unfold joinLines
    cases lineTexts 0 (preamble s d.toSurface ++ ls.map .text) <;> rfl

end Declaration

def EmitOptions.endedBy (o : EmitOptions) (eol : String) : EmitOptions :=
  { o with settings := o.settings.endedBy eol }

namespace Emission

private theorem fileLines_of_code {d : Declaration} {o : EmitOptions} {eol : String}
    (unformatted : o.settings.formatOutput.holds = false) {h h' : Host} {r : EmitResult}
    {code : String} (emitted : (emit (.good d) (.good (o.endedBy eol))).on h = (.ok r, h'))
    (coded : r.code = .text code) :
    ∃ ls, d.fileLines o.settings = .ok ls ∧ code = eol.intercalate ls ++ eol := by
  have filed : d.file (o.settings.endedBy eol) = .ok code :=
    file_of_code (o := o.endedBy eol) unformatted emitted coded
  rw [Declaration.file_endedBy] at filed
  cases rendered : d.fileLines o.settings with
  | error fault =>
    rw [rendered] at filed
    cases filed
  | ok ls =>
    rw [rendered] at filed
    cases filed
    exact ⟨ls, rfl, rfl⟩

private theorem fileLines_succeeds {d : Declaration} (typed : d.Typed) {s : Settings}
    (indented : s.indentation.IsText) (headed : s.header.IsOptionalText) :
    Succeeds (d.fileLines s) :=
  .bind (typed.succeeds_lines indented "") fun ls => succeeds_fileLines typed headed ls

/-- Main theorem. Let every slot that is meant to stand on one line do so, whatever line ends are in
statements and documentation. Then the breaks of emitted code are the line ends of the settings, one
behind each rendered line; with returns, code has the same breaks as without; and a declaration with
a name whose slots are typed does have code. -/
theorem emit_line_breaks {d : Declaration} {o : EmitOptions} (slots : d.OneLine)
    (around : o.settings.OneLine) (unformatted : o.settings.formatOutput.holds = false) :
    (∀ eol, IsLineEnd eol → ∀ h h' r code,
      (emit (.good d) (.good (o.endedBy eol))).on h = (.ok r, h') → r.code = .text code →
        ∃ ls, d.fileLines o.settings = .ok ls ∧ Text.Breaks eol ls code) ∧
    (∀ h₁ h₁' r₁ feeds, (emit (.good d) (.good (o.endedBy "\n"))).on h₁ = (.ok r₁, h₁') →
      r₁.code = .text feeds →
      ∀ h₂ h₂' r₂ returns, (emit (.good d) (.good (o.endedBy "\r\n"))).on h₂ = (.ok r₂, h₂') →
        r₂.code = .text returns → returns = Text.withReturns feeds) ∧
    (d.name.isBlank = .ok false → d.Typed → o.settings.indentation.IsText →
      o.settings.header.IsOptionalText → o.settings.level = .unchecked →
      ∀ eol h, ∃ r h' code,
        (emit (.good d) (.good (o.endedBy eol))).on h = (.ok r, h') ∧ r.code = .text code) := by
  refine ⟨?_, ?_, ?_⟩
  · intro eol isEnd h h' r code emitted coded
    obtain ⟨ls, rendered, rfl⟩ := fileLines_of_code unformatted emitted coded
    obtain ⟨plain, front, last, rfl, shown⟩ := slots.fileLines around ls rendered
    exact ⟨_, rendered, Text.breaks_ended isEnd plain shown⟩
  · intro h₁ h₁' r₁ feeds emitted₁ coded₁ h₂ h₂' r₂ returns emitted₂ coded₂
    obtain ⟨ls, rendered, rfl⟩ := fileLines_of_code unformatted emitted₁ coded₁
    obtain ⟨ls', again, rfl⟩ := fileLines_of_code unformatted emitted₂ coded₂
    cases rendered.symm.trans again
    obtain ⟨plain, front, last, rfl, _⟩ := slots.fileLines around ls rendered
    exact (Text.withReturns_ended (by simp) plain).symm
  · intro named typed indented headed unchecked eol h
    have readable : ∃ name, d.name.toText = .ok name := by
      cases typed with
      | mk surface within =>
        obtain ⟨name, same⟩ := surface.name
        exact ⟨name, by rw [same]; rfl⟩
    obtain ⟨name, readable⟩ := readable
    obtain ⟨ls, rendered⟩ := fileLines_succeeds typed indented headed
    have filed : d.file (o.endedBy eol).settings = .ok (eol.intercalate ls ++ eol) := by
      change d.file (o.settings.endedBy eol) = _
      rw [Declaration.file_endedBy, rendered]
      rfl
    obtain ⟨r, h', emitted, coded⟩ :=
      code_of_file (o := o.endedBy eol) readable named filed unformatted unchecked h
    exact ⟨r, h', _, emitted, coded⟩

/-- A class with line ends of every kind in its documentation and in a statement. -/
def mixedBreaks : Declaration where
  name := "Box"
  doc := "first\r\nsecond\rhalf"
  methods := [.good { name := "run", body := some (.good ⟨["a;\r\n\nb;"]⟩) }]

/-- The theorem at work: the two kinds of code for a class with line ends of every kind. -/
theorem emit_line_breaks_mixed :
    ∃ (o : EmitOptions) (ls : List String) (feeds returns : String), mixedBreaks.OneLine ∧
      o.settings.OneLine ∧ mixedBreaks.fileLines o.settings = .ok ls ∧
      Text.Breaks "\r\n" ls returns ∧ returns = Text.withReturns feeds ∧
      feeds = "/**\n * first\n * secondhalf\n */\nclass Box \x7b\n  run() \x7b\n    a;\n" ++
        "    \n    b;\n  \x7d\n\x7d\n" := by
  let o : EmitOptions := { settings := { header := .none } }
  let h : Host := { respond := fun _ _ => .exited 0 "" "" }
  have method : Method.OneLine { name := "run", body := some (.good ⟨["a;\r\n\nb;"]⟩) } := by
    refine ⟨by decide, by simp, .pure (by decide), ?_, ?_, by simp, ?_, ?_⟩ <;> simp
  have surface : mixedBreaks.toSurface.OneLine := {
    name := .pure (by decide)
    methods := by simpa [mixedBreaks] using method
    decorators := by simp [mixedBreaks]
    typeParameters := by simp [mixedBreaks]
    bases := by simp [mixedBreaks]
    interfaces := by simp [mixedBreaks]
    indexSignatures := by simp [mixedBreaks]
    fields := by simp [mixedBreaks]
    constructors := by simp [mixedBreaks]
    properties := by simp [mixedBreaks]
    enumMembers := by simp [mixedBreaks]
    imports := by simp [mixedBreaks]
    definition := by simp [mixedBreaks] }
  have slots : mixedBreaks.OneLine := .mk surface (by simp)
  have around : o.settings.OneLine := ⟨.pure (by decide), .pure (by decide)⟩
  obtain ⟨breaks, replaced, _⟩ := emit_line_breaks (o := o) slots around rfl
  obtain ⟨ls, rendered, broken⟩ := breaks "\r\n" (.inr rfl) h _ _ _ rfl rfl
  exact ⟨o, ls, _, _, slots, around, rendered, broken,
    replaced h _ _ _ rfl rfl h _ _ _ rfl rfl, rfl⟩

end Emission

end TypeScriptGen
