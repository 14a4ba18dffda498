import TypeScriptGen.Declaration.Rendering
import TypeScriptGen.Proofs.Steps

/-!
Typed declarations: every slot holds what is expected there. Builders accept any value and find out
only when they render; of a typed declaration nothing is found out. Main statements: it is rendered
under all settings whose indentation is a text, and makes a file if line end and header are texts.
-/

set_option autoImplicit false
set_option relaxedAutoImplicit false

namespace TypeScriptGen

namespace Succeeds

variable {α : Type}

theorem each {render : α → Except Fault (List String)} {items : List α}
    (all : ∀ a ∈ items, Succeeds (render a)) : Succeeds (Rendering.each render items) := by
  induction items with
  | nil => exact ⟨[], rfl⟩
  | cons a rest ih =>
    have first := all a List.mem_cons_self
    have others := ih fun b member => all b (List.mem_cons_of_mem a member)
    exact bind first fun _ => bind others fun _ => pure _

theorem category {gap : List String} {render : α → Except Fault (List String)} {items : List α}
    (all : ∀ a ∈ items, Succeeds (render a)) : Succeeds (Rendering.category gap render items) := by
  unfold Rendering.category
  split
  · exact pure _
  · exact bind (each all) fun _ => pure _

end Succeeds

/-- What was supplied is what was expected, and `P` holds of it. -/
def Supplied.Fits {α : Type} (P : α → Prop) : Supplied α → Prop
  | .good a => P a
  | .stray _ => False

abbrev Supplied.IsGood {α : Type} (x : Supplied α) : Prop := x.Fits fun _ => True

def Value.IsText (v : Value) : Prop := ∃ s, v = .text s

def Value.IsOptionalText (v : Value) : Prop := v = .none ∨ v.IsText

structure Parameter.Typed (p : Parameter) : Prop where
  access : p.access.IsGood

structure Field.Typed (f : Field) : Prop where
  access : f.access.IsGood

structure Property.Typed (p : Property) : Prop where
  access : p.access.IsGood
  getterBody : ∀ b ∈ p.getterBody, b.IsGood
  setterBody : ∀ b ∈ p.setterBody, b.IsGood

structure Method.Typed (d : Method) : Prop where
  access : d.access.IsGood
  parameters : ∀ p ∈ d.parameters, p.Fits Parameter.Typed
  body : ∀ b ∈ d.body, b.IsGood
  overloads : ∀ v ∈ d.overloads, v.IsText
  decorators : ∀ v ∈ d.decorators, v.IsText

structure Constructor.Typed (c : Constructor) : Prop where
  access : c.access.IsGood
  parameters : ∀ p ∈ c.parameters, p.Fits Parameter.Typed
  body : ∀ b ∈ c.body, b.IsGood
  overloads : ∀ v ∈ c.overloads, v.IsText

/-- All slots of a declaration are typed but for what is nested in it. -/
structure Surface.Typed (d : Surface) : Prop where
  name : d.name.IsText
  doc : d.doc.IsOptionalText
  decorators : ∀ v ∈ d.decorators, v.IsText
  fields : ∀ f ∈ d.fields, f.Fits Field.Typed
  constructors : ∀ c ∈ d.constructors, c.Fits Constructor.Typed
  properties : ∀ p ∈ d.properties, p.Fits Property.Typed
  methods : ∀ m ∈ d.methods, m.Fits Method.Typed
  enumMembers : ∀ m ∈ d.enumMembers, m.1.IsText
  imports : ∀ v ∈ d.imports, v.IsText

inductive Declaration.Typed : Declaration → Prop where
  | mk {d : Surface} {nested : List Declaration} (surface : d.Typed)
      (within : ∀ n ∈ nested, n.Typed) : Typed ⟨d, nested.map .good⟩

theorem Declaration.typed_fresh (kind : Kind) (name : String) {nested : List Declaration}
    (within : ∀ n ∈ nested, n.Typed) :
    Typed { name := .text name, kind, nested := nested.map .good } := by
  have surface : Surface.Typed { name := .text name, kind } :=
    ⟨⟨name, rfl⟩, .inl rfl, by simp, by simp, by simp, by simp, by simp, by simp, by simp⟩
  exact .mk surface within

namespace Rendering

private theorem succeeds_lead {a : Supplied Access} (good : a.IsGood) :
    Succeeds (Access.lead a) := by
  cases a with
  | stray v => exact good.elim
  | good a => cases a <;> exact ⟨_, rfl⟩

private theorem succeeds_toText {v : Value} (text : v.IsText) : Succeeds v.toText := by
  obtain ⟨s, rfl⟩ := text
  exact ⟨s, rfl⟩

private theorem succeeds_toTexts {vs : List Value} (texts : ∀ v ∈ vs, v.IsText) :
    Succeeds (Value.toTexts vs) := by
  induction vs with
  | nil => exact ⟨[], rfl⟩
  | cons v rest ih =>
    have first := succeeds_toText (texts v List.mem_cons_self)
    have others := ih fun w member => texts w (List.mem_cons_of_mem v member)
    exact .bind first fun _ => .bind others fun _ => .pure _

private theorem succeeds_decoratorLines {vs : List Value} (texts : ∀ v ∈ vs, v.IsText)
    (indent : String) : Succeeds (decoratorLines indent vs) := by
  refine .bind (.each fun v member => ?_) fun _ => .pure _
  obtain ⟨s, rfl⟩ := texts v member
  exact ⟨_, rfl⟩

private theorem succeeds_signatureLines {vs : List Value} (texts : ∀ v ∈ vs, v.IsText)
    (s : Settings) (indent : String) : Succeeds (signatureLines s indent vs) :=
  .bind (succeeds_toTexts texts) fun _ => .pure _

private theorem succeeds_docLines {doc : Value} (text : doc.IsOptionalText) (indent : String) :
    Succeeds (docLines indent doc) := by
  rcases text with rfl | ⟨s, rfl⟩
  · exact ⟨[], rfl⟩
  · exact ⟨_, rfl⟩

private theorem succeeds_bodyLines {b : Supplied Body} (good : b.IsGood) (indent : String) :
    Succeeds (bodyLines indent b) := by
  cases b with
  | stray v => exact good.elim
  | good b => exact ⟨_, rfl⟩

private theorem succeeds_optionalBodyLines {body : Option (Supplied Body)}
    (good : ∀ b ∈ body, b.IsGood) (indent : String) : Succeeds (optionalBodyLines indent body) := by
  cases body with
  | none => exact ⟨[], rfl⟩
  | some b => exact succeeds_bodyLines (good b rfl) indent

theorem succeeds_renderAll {ps : List (Supplied Parameter)} (asProperty : Bool)
    (typed : ∀ p ∈ ps, p.Fits Parameter.Typed) : Succeeds (Parameter.renderAll asProperty ps) := by
  refine .bind ?_ fun _ => .pure _
  induction ps with
  | nil => exact ⟨[], rfl⟩
  | cons p rest ih =>
    have others := ih fun q member => typed q (List.mem_cons_of_mem p member)
    refine .bind ?_ fun _ => .bind others fun _ => .pure _
    have first := typed p List.mem_cons_self
    cases p with
    | stray v => exact first.elim
    | good p =>
      cases asProperty with
      | true => exact .bind (succeeds_lead first.access) fun _ => .pure _
      | false => exact ⟨_, rfl⟩

private theorem succeeds_fieldLines {f : Supplied Field} (typed : f.Fits Field.Typed)
    (s : Settings) (indent : String) : Succeeds (fieldLines s indent f) := by
  cases f with
  | stray v => exact typed.elim
  | good f => exact .bind (.bind (succeeds_lead typed.access) fun _ => .pure _) fun _ => .pure _

private theorem succeeds_deeper {s : Settings} (text : s.indentation.IsText) (indent : String) :
    Succeeds (s.deeper indent) := by
  obtain ⟨unit, same⟩ := text
  unfold Settings.deeper
  rw [same]
  exact .pure _

theorem succeeds_constructorLines {c : Supplied Constructor}
    (typed : c.Fits Constructor.Typed) {s : Settings} (text : s.indentation.IsText)
    (indent : String) : Succeeds (constructorLines s indent c) := by
  refine .bind (succeeds_deeper text indent) fun inner => ?_
  cases c with
  | stray v => exact typed.elim
  | good c =>
    refine .bind (succeeds_signatureLines typed.overloads s indent) fun _ =>
      .bind (succeeds_lead typed.access) fun _ =>
        .bind (succeeds_renderAll true typed.parameters) fun _ => ?_
    by_cases bare : (c.body.isNone && c.superArguments.isEmpty) = true
    · rw [if_pos bare]
      exact .pure _
    · rw [if_neg bare]
      exact .bind (succeeds_optionalBodyLines typed.body inner) fun _ => .pure _

private theorem succeeds_getterLines {p : Property} (typed : p.Typed) (s : Settings)
    (indent inner modifiers : String) : Succeeds (getterLines s indent inner modifiers p) := by
  unfold getterLines
  split
  · exact .pure _
  · cases p.getterExpression with
    | some e => exact ⟨_, rfl⟩
    | none => exact .bind (succeeds_optionalBodyLines typed.getterBody inner) fun _ => .pure _

private theorem succeeds_setterLines {p : Property} (typed : p.Typed)
    (indent inner modifiers : String) : Succeeds (setterLines indent inner modifiers p) := by
  unfold setterLines
  cases body : p.setterBody with
  | none => exact .pure _
  | some b => exact .bind (succeeds_bodyLines (typed.setterBody b body) inner) fun _ => .pure _

private theorem succeeds_propertyLines {p : Supplied Property} (typed : p.Fits Property.Typed)
    {s : Settings} (text : s.indentation.IsText) (indent : String) :
    Succeeds (propertyLines s indent p) := by
  cases p with
  | stray v => exact typed.elim
  | good p =>
    change Succeeds (if !p.hasAccessor then _ else _)
    by_cases plain : (!p.hasAccessor) = true
    · rw [if_pos plain]
      exact .bind (.bind (succeeds_lead typed.access) fun _ => .pure _) fun _ => .pure _
    · rw [if_neg plain]
      exact .bind (succeeds_deeper text indent) fun inner =>
        .bind (succeeds_lead typed.access) fun _ =>
          .bind (succeeds_getterLines typed s indent inner _) fun _ =>
            .bind (succeeds_setterLines typed indent inner _) fun _ => .pure _

private theorem succeeds_methodLines {m : Supplied Method} (typed : m.Fits Method.Typed)
    {s : Settings} (text : s.indentation.IsText) (kind : Kind) (indent : String) :
    Succeeds (methodLines s kind indent m) := by
  refine .bind (succeeds_deeper text indent) fun inner => ?_
  cases m with
  | stray v => exact typed.elim
  | good d =>
    have head : Succeeds (methodHead indent d) :=
      .bind (succeeds_lead typed.access) fun _ =>
        .bind (succeeds_renderAll true typed.parameters) fun _ => .pure _
    refine .bind (succeeds_decoratorLines typed.decorators indent) fun _ =>
      .bind (succeeds_signatureLines typed.overloads s indent) fun _ => .bind head fun _ => ?_
    by_cases signature : isSignature kind d = true
    · rw [if_pos signature]
      exact .pure _
    · rw [if_neg signature]
      cases d.expressionBody with
      | some e => exact .pure _
      | none =>
        cases body : d.body with
        | none => exact .pure _
        | some b =>
          exact .bind (succeeds_bodyLines (typed.body b body) inner) fun _ => .pure _

private theorem succeeds_enumMemberLines {members : List (Value × Option String)}
    (texts : ∀ m ∈ members, m.1.IsText) (inner comma : String) :
    Succeeds (enumMemberLines inner comma members) := by
  fun_induction enumMemberLines inner comma members with
  | case1 => exact ⟨[], rfl⟩
  | case2 name value =>
    have first := succeeds_toText (texts (name, value) List.mem_cons_self)
    exact .bind (.bind first fun _ => .pure _) fun _ => .pure _
  | case3 name value rest _ ih =>
    have first := succeeds_toText (texts (name, value) List.mem_cons_self)
    have others := ih fun m member => texts m (List.mem_cons_of_mem _ member)
    exact .bind (.bind first fun _ => .pure _) fun _ => .bind others fun _ => .pure _

private theorem succeeds_enumLines {d : Surface} (typed : d.Typed) {s : Settings}
    (text : s.indentation.IsText) (indent : String) : Succeeds (enumLines s indent d) :=
  .bind (succeeds_deeper text indent) fun inner => .bind (succeeds_toText typed.name) fun _ =>
    .bind (succeeds_enumMemberLines typed.enumMembers inner _) fun _ => .pure _

private theorem succeeds_classHead {d : Surface} (typed : d.Typed) (indent : String) :
    Succeeds (classHead indent d) := by
  obtain ⟨name, same⟩ := typed.name
  unfold classHead
  rw [same]
  exact ⟨_, rfl⟩

private theorem succeeds_memberCategories {d : Surface} (typed : d.Typed) {s : Settings}
    (text : s.indentation.IsText) (inner : String) : Succeeds (memberCategories s inner d) := by
  have shown : ∀ c ∈ (if d.kind == .classDecl then d.constructors else []),
      c.Fits Constructor.Typed := by
    intro c member
    split at member
    · exact typed.constructors c member
    · cases member
  exact .bind (.category fun _ _ => .pure _) fun _ =>
    .bind (.category fun f member => succeeds_fieldLines (typed.fields f member) s inner) fun _ =>
    .bind (.category fun c member => succeeds_constructorLines (shown c member) text inner)
      fun _ =>
    .bind (.category fun p member =>
      succeeds_propertyLines (typed.properties p member) text inner) fun _ =>
    .bind (.category fun m member =>
      succeeds_methodLines (typed.methods m member) text d.kind inner) fun _ => .pure _

private theorem succeeds_nestedLines {nested : List Declaration} {s : Settings} {inner : String}
    (all : ∀ n ∈ nested, Succeeds (n.lines s inner)) :
    Succeeds (nestedLines s inner (nested.map .good)) := by
  induction nested with
  | nil => exact ⟨[], rfl⟩
  | cons n rest ih =>
    have first := all n List.mem_cons_self
    have others := ih fun m member => all m (List.mem_cons_of_mem n member)
    exact .bind first fun _ => .bind others fun _ => .pure _

end Rendering

open Rendering

theorem Declaration.Typed.succeeds_lines {d : Declaration} (typed : d.Typed) {s : Settings}
    (text : s.indentation.IsText) (indent : String) : Succeeds (d.lines s indent) := by
  induction typed generalizing indent with
  | @mk d nested surface _ ih =>
    unfold Declaration.lines
    refine .bind (succeeds_docLines surface.doc indent) fun _ =>
      .bind (succeeds_decoratorLines surface.decorators indent) fun _ => ?_
    have container : ∀ lead : List String, Succeeds (do
        let inner ← s.deeper indent
        let head ← classHead indent d
        let members ← memberCategories s inner d
        let inside ← nestedLines s inner (nested.map .good)
        let categories := members ++
          if (nested.map Supplied.good).isEmpty then [] else [[""].intercalate inside]
        return lead ++ [head] ++ [""].intercalate categories ++ [indent ++ "\x7d"]) :=
      fun _ => .bind (succeeds_deeper text indent) fun inner =>
        .bind (succeeds_classHead surface indent) fun _ =>
          .bind (succeeds_memberCategories surface text inner) fun _ =>
            .bind (succeeds_nestedLines fun n member => ih n member inner) fun _ => .pure _
    cases d.kind with
    | typeAlias =>
      exact .bind (.bind (succeeds_toText surface.name) fun _ => .pure _) fun _ => .pure _
    | enumDecl => exact .bind (succeeds_enumLines surface text indent) fun _ => .pure _
    | constEnum => exact .bind (succeeds_enumLines surface text indent) fun _ => .pure _
    | classDecl => exact container _
    | interfaceDecl => exact container _

namespace Rendering

theorem isText_preamble {d : Declaration} (typed : d.Typed) {s : Settings}
    (headed : s.header.IsOptionalText) : ∀ v ∈ preamble s d.toSurface, v.IsText := by
  have imports : ∀ v ∈ d.imports, v.IsText := by
    cases typed with
    | mk surface within => exact surface.imports
  have empty : Value.IsText (.text "") := ⟨"", rfl⟩
  unfold preamble
  refine List.forall_mem_append.mpr ⟨?_, ?_⟩
  · rcases headed with headless | text
    · rw [headless]
      exact List.forall_mem_nil _
    · split
      · exact List.forall_mem_nil _
      · exact List.forall_mem_cons.mpr ⟨text, List.forall_mem_singleton.mpr empty⟩
  · split
    · exact List.forall_mem_nil _
    · exact List.forall_mem_append.mpr ⟨imports, List.forall_mem_singleton.mpr empty⟩

theorem succeeds_lineTexts {vs : List Value} (texts : ∀ v ∈ vs, v.IsText) (index : Nat) :
    Succeeds (lineTexts index vs) := by
  induction vs generalizing index with
  | nil => exact ⟨[], rfl⟩
  | cons v rest ih =>
    have others := ih (fun w member => texts w (List.mem_cons_of_mem v member)) (index + 1)
    obtain ⟨t, rfl⟩ := texts v List.mem_cons_self
    exact .bind others fun _ => .pure _

theorem succeeds_fileLines {d : Declaration} (typed : d.Typed) {s : Settings}
    (headed : s.header.IsOptionalText) (ls : List String) :
    Succeeds (lineTexts 0 (preamble s d.toSurface ++ ls.map .text)) := by
  refine succeeds_lineTexts (List.forall_mem_append.mpr ⟨isText_preamble typed headed, ?_⟩) 0
  intro v member
  obtain ⟨l, _, rfl⟩ := List.mem_map.mp member
  exact ⟨l, rfl⟩

end Rendering

theorem Declaration.Typed.succeeds_file {d : Declaration} (typed : d.Typed) {s : Settings}
    (indented : s.indentation.IsText) (headed : s.header.IsOptionalText)
    (ended : s.endOfLine.IsText) : Succeeds (d.file s) := by
  refine .bind (typed.succeeds_lines indented "") fun ls => ?_
  obtain ⟨eol, same⟩ := ended
  unfold joinLines
  rw [same]
  exact .bind (.pure eol) fun _ => .bind (succeeds_fileLines typed headed ls) fun _ => .pure _

end TypeScriptGen
