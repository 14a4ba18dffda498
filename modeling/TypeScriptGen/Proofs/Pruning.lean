import TypeScriptGen.Emission
import TypeScriptGen.Proofs.HostRuns
import TypeScriptGen.Proofs.Typed

/-!
Content that a declaration does not show. Builders accept every combination of content; what the
kind of a declaration, or the form of a member, has no place for is left out when it is rendered.
Main statement: rendering a declaration and rendering it pruned, with all such content erased at
every depth, come to the same.
-/

set_option autoImplicit false
set_option relaxedAutoImplicit false

namespace TypeScriptGen

def Supplied.map {α : Type} (f : α → α) : Supplied α → Supplied α
  | .good a => .good (f a)
  | .stray v => .stray v

/-- An abstract method without its bodies, and one with an expression to return without its block
body. -/
def Method.pruned (d : Method) : Method :=
  if d.isAbstract then { d with body := none, expressionBody := none }
  else if d.expressionBody.isSome then { d with body := none }
  else d

/-- A property with an accessor without what only a plain declaration shows, and without the getter
body if an expression stands for it. -/
def Property.pruned (p : Property) : Property :=
  if p.hasAccessor then
    { p with
      isReadonly := false
      isOptional := false
      isAbstract := false
      isOverride := false
      getterBody := if p.getterExpression.isSome then none else p.getterBody
      initializer := none }
  else p

/-- What every kind of declaration shows, the imports of a file, and nothing else. -/
def Surface.front (d : Surface) : Surface where
  name := d.name
  kind := d.kind
  isExported := d.isExported
  isDefaultExport := d.isDefaultExport
  isDeclare := d.isDeclare
  decorators := d.decorators
  doc := d.doc
  imports := d.imports

/-- A declaration without what its kind does not show, but for what is nested in it. -/
def Surface.pruned (d : Surface) : Surface :=
  match d.kind with
  | .typeAlias =>
    { d.front with typeParameters := d.typeParameters, definition := d.definition }
  | .enumDecl | .constEnum => { d.front with enumMembers := d.enumMembers }
  | .classDecl =>
    { d with
      properties := d.properties.map (.map Property.pruned)
      methods := d.methods.map (.map Method.pruned)
      enumMembers := []
      definition := none }
  | .interfaceDecl =>
    { d with
      isAbstract := false
      interfaces := []
      constructors := []
      properties := d.properties.map (.map Property.pruned)
      methods := d.methods.map (.map Method.pruned)
      enumMembers := []
      definition := none }

def Kind.hasMembers : Kind → Bool
  | .classDecl | .interfaceDecl => true
  | .typeAlias | .enumDecl | .constEnum => false

mutual

def Declaration.pruned : Declaration → Declaration
  | ⟨d, nested⟩ => ⟨d.pruned, if d.kind.hasMembers then prunedNested nested else []⟩

/-- Nested declarations without what their kinds do not show, and without imports, for which a
nested declaration has no place. -/
def prunedNested : List (Supplied Declaration) → List (Supplied Declaration)
  | [] => []
  | .good d :: rest => .good { d.pruned with imports := [] } :: prunedNested rest
  | .stray v :: rest => .stray v :: prunedNested rest

end

namespace Rendering

/-! Members: which of their slots are looked at. -/

private theorem hasAccessor_pruned (p : Property) : p.pruned.hasAccessor = p.hasAccessor := by
  obtain ⟨_, _, _, _, _, _, _, _, expression, _, _, _⟩ := p
  unfold Property.pruned
  split
  · cases expression <;> rfl
  · rfl

private theorem getterLines_pruned (s : Settings) (indent inner modifiers : String) (p : Property) :
    getterLines s indent inner modifiers p.pruned = getterLines s indent inner modifiers p := by
  obtain ⟨_, _, _, _, _, _, _, _, expression, _, _, _⟩ := p
  unfold Property.pruned
  split
  · cases expression <;> rfl
  · rfl

private theorem propertyLines_good (s : Settings) (indent : String) (p : Property) :
    propertyLines s indent (.good p.pruned) = propertyLines s indent (.good p) := by
  cases accessor : p.hasAccessor with
  | false => simp [Property.pruned, accessor]
  | true =>
    have same : (!p.pruned.hasAccessor) = !p.hasAccessor := by rw [hasAccessor_pruned]
    have shape : p.pruned = { p with
        isReadonly := false, isOptional := false, isAbstract := false, isOverride := false
        getterBody := if p.getterExpression.isSome then none else p.getterBody
        initializer := none } := if_pos accessor
    change (if !p.pruned.hasAccessor then _ else _) = if !p.hasAccessor then _ else _
    rw [same, accessor]
    simp only [Bool.not_true, Bool.false_eq_true, if_false, getterLines_pruned]
    rw [shape]
    rfl

private theorem propertyLines_pruned (s : Settings) (indent : String)
    (supplied : Supplied Property) :
    propertyLines s indent (supplied.map Property.pruned) = propertyLines s indent supplied := by
  cases supplied with
  | stray v => rfl
  | good p => exact propertyLines_good s indent p

theorem methodBlock_of_signature {kind : Kind} {d : Method}
    (signature : isSignature kind d = true) (s : Settings) (indent inner : String) :
    methodBlock s kind indent inner d = (do
      let decorators ← decoratorLines indent d.decorators
      let overloads ← signatureLines s indent d.overloads
      let head ← methodHead indent d
      return decorators ++ overloads ++ [head ++ s.semicolon]) := by
  unfold methodBlock
  simp only [if_pos signature]

private theorem methodBlock_pruned (s : Settings) (kind : Kind) (indent inner : String)
    (d : Method) :
    methodBlock s kind indent inner d.pruned = methodBlock s kind indent inner d := by
  unfold Method.pruned
  split
  case isTrue abstract =>
    have signature : isSignature kind d = true := by simp [isSignature, abstract]
    have still : isSignature kind { d with body := none, expressionBody := none } = true := by
      simp [isSignature, abstract]
    rw [methodBlock_of_signature signature, methodBlock_of_signature still]
    rfl
  case isFalse =>
    split
    case isTrue expression =>
      obtain ⟨e, given⟩ := Option.isSome_iff_exists.mp expression
      have same : isSignature kind { d with body := none } = isSignature kind d := by
        simp [isSignature, Method.hasBody, given]
      unfold methodBlock
      rw [same, given]
      rfl
    case isFalse => rfl

private theorem methodLines_pruned (s : Settings) (kind : Kind) (indent : String)
    (supplied : Supplied Method) :
    methodLines s kind indent (supplied.map Method.pruned) =
      methodLines s kind indent supplied := by
  cases supplied with
  | stray v => rfl
  | good d =>
    change (do methodBlock s kind indent (← s.deeper indent) d.pruned) = _
    simp only [methodBlock_pruned]
    rfl

/-! Categories: each member is shown as before. -/

private theorem each_pruned {α : Type} {render : α → Except Fault (List String)} {f : α → α}
    (same : ∀ a, render (f a) = render a) (items : List α) :
    each render (items.map f) = each render items := by
  induction items with
  | nil => rfl
  | cons a rest ih =>
    simp only [List.map_cons, each, same, ih]

private theorem category_pruned {α : Type} {render : α → Except Fault (List String)} {f : α → α}
    (same : ∀ a, render (f a) = render a) (gap : List String) (items : List α) :
    category gap render (items.map f) = category gap render items := by
  unfold category
  rw [each_pruned same, List.isEmpty_map]

private theorem memberCategories_pruned (s : Settings) (inner : String) {d : Surface}
    (container : d.kind.hasMembers = true) :
    memberCategories s inner d.pruned = memberCategories s inner d := by
  have properties := category_pruned (propertyLines_pruned s inner) [] d.properties
  have methods := category_pruned (methodLines_pruned s d.kind inner) [""] d.methods
  cases kind : d.kind with
  | classDecl =>
    rw [kind] at methods
    simp only [Surface.pruned, memberCategories, kind, properties, methods]
  | interfaceDecl =>
    rw [kind] at methods
    simp only [Surface.pruned, memberCategories, kind, properties, methods]
    rfl
  | typeAlias => simp [kind, Kind.hasMembers] at container
  | enumDecl => simp [kind, Kind.hasMembers] at container
  | constEnum => simp [kind, Kind.hasMembers] at container

private theorem isEmpty_prunedNested (nested : List (Supplied Declaration)) :
    (prunedNested nested).isEmpty = nested.isEmpty := by
  cases nested with
  | nil => rfl
  | cons n rest => cases n <;> rfl

private theorem lines_unimported (s : Settings) (indent : String) (d : Declaration) :
    Declaration.lines s indent { d with imports := [] } = d.lines s indent := by
  obtain ⟨d, nested⟩ := d
  unfold Declaration.lines
  rfl

private theorem doc_pruned (d : Surface) : d.pruned.doc = d.doc := by
  unfold Surface.pruned
  cases d.kind <;> rfl

private theorem decorators_pruned (d : Surface) : d.pruned.decorators = d.decorators := by
  unfold Surface.pruned
  cases d.kind <;> rfl

private theorem kind_pruned (d : Surface) : d.pruned.kind = d.kind := by
  unfold Surface.pruned
  cases kind : d.kind <;> simp [Surface.front, kind]

private theorem aliasLine_pruned (s : Settings) (indent : String) {d : Surface}
    (kind : d.kind = .typeAlias) : aliasLine s indent d.pruned = aliasLine s indent d := by
  unfold Surface.pruned
  rw [kind]
  rfl

private theorem enumLines_pruned (s : Settings) (indent : String) {d : Surface}
    (kind : d.kind = .enumDecl ∨ d.kind = .constEnum) :
    enumLines s indent d.pruned = enumLines s indent d := by
  unfold Surface.pruned
  rcases kind with kind | kind
  · rw [kind]
    rfl
  · rw [kind]
    rfl

private theorem classHead_pruned (indent : String) {d : Surface}
    (container : d.kind.hasMembers = true) : classHead indent d.pruned = classHead indent d := by
  cases kind : d.kind with
  | classDecl => simp [Surface.pruned, classHead, kind, modifiers]
  | interfaceDecl =>
    have noClass : (Kind.interfaceDecl == Kind.classDecl) = false := rfl
    simp [Surface.pruned, classHead, kind, modifiers, noClass]
  | typeAlias => simp [kind, Kind.hasMembers] at container
  | enumDecl => simp [kind, Kind.hasMembers] at container
  | constEnum => simp [kind, Kind.hasMembers] at container

end Rendering

open Rendering

mutual

theorem Declaration.lines_pruned (s : Settings) (indent : String) :
    (d : Declaration) → d.pruned.lines s indent = d.lines s indent
  | ⟨d, nested⟩ => by
    have within := fun inner => nestedLines_pruned s inner nested
    unfold Declaration.pruned Declaration.lines
    rw [doc_pruned, decorators_pruned, kind_pruned]
    cases kind : d.kind with
    | typeAlias => simp only [aliasLine_pruned s indent kind]
    | enumDecl => simp only [enumLines_pruned s indent (.inl kind)]
    | constEnum => simp only [enumLines_pruned s indent (.inr kind)]
    | classDecl =>
      have container : d.kind.hasMembers = true := by rw [kind]; rfl
      simp only [Kind.hasMembers, if_true, classHead_pruned indent container,
        memberCategories_pruned s _ container, within, isEmpty_prunedNested]
    | interfaceDecl =>
      have container : d.kind.hasMembers = true := by rw [kind]; rfl
      simp only [Kind.hasMembers, if_true, classHead_pruned indent container,
        memberCategories_pruned s _ container, within, isEmpty_prunedNested]

theorem nestedLines_pruned (s : Settings) (indent : String) :
    (nested : List (Supplied Declaration)) →
      nestedLines s indent (prunedNested nested) = nestedLines s indent nested
  | [] => rfl
  | .good d :: rest => by
    unfold prunedNested nestedLines
    rw [lines_unimported, Declaration.lines_pruned s indent d, nestedLines_pruned s indent rest]
  | .stray _ :: _ => rfl

end

namespace Declaration

private theorem preamble_pruned (s : Settings) (d : Declaration) :
    preamble s d.pruned.toSurface = preamble s d.toSurface := by
  obtain ⟨d, nested⟩ := d
  have imports : d.pruned.imports = d.imports := by
    unfold Surface.pruned
    cases d.kind <;> rfl
  unfold pruned preamble
  rw [imports]

private theorem file_pruned (s : Settings) (d : Declaration) : d.pruned.file s = d.file s := by
  unfold file
  rw [lines_pruned, preamble_pruned]

private theorem name_pruned (d : Declaration) : d.pruned.name = d.name := by
  obtain ⟨d, nested⟩ := d
  change d.pruned.name = d.name
  unfold Surface.pruned
  cases d.kind <;> rfl

private theorem emit_pruned (d : Declaration) (options : Supplied EmitOptions) :
    Emission.emit (.good d.pruned) options = Emission.emit (.good d) options := by
  have kind : d.pruned.kind = d.kind := by
    obtain ⟨d, nested⟩ := d
    exact kind_pruned d
  have produced (o : EmitOptions) : Emission.produce d.pruned o = Emission.produce d o := by
    unfold Emission.produce
    rw [file_pruned]
  have attempted : Emission.attempt d.pruned options = Emission.attempt d options := by
    unfold Emission.attempt
    simp only [produced]
  have emitted : Emission.emitNamed d.pruned options = Emission.emitNamed d options := by
    unfold Emission.emitNamed
    rw [attempted, name_pruned, kind]
  unfold Emission.emit
  simp only [Emission.nameOf, Supplied.need, Run.lift_ok, pure_bind, name_pruned, emitted]

/-- Main theorem. What a declaration does not show has no influence at any depth: pruned or not, it
makes the same file or runs into the same fault under all settings, and its emission is the same run
under all options. A typed declaration makes a file. -/
theorem pruned_prints (d : Declaration) :
    (∀ s, d.pruned.file s = d.file s) ∧
    (∀ options, Emission.emit (.good d.pruned) options = Emission.emit (.good d) options) ∧
    (d.Typed → ∀ s : Settings, s.indentation.IsText → s.header.IsOptionalText →
      s.endOfLine.IsText → ∃ text, d.pruned.file s = .ok text ∧ d.file s = .ok text) := by
  refine ⟨fun s => file_pruned s d, emit_pruned d, ?_⟩
  intro typed s indented headed ended
  obtain ⟨text, filed⟩ := typed.succeeds_file indented headed ended
  exact ⟨text, by rw [file_pruned, filed], filed⟩

/-- An interface in a class, each with content that is not shown: imports of what is nested, a
constructor and an implemented type of an interface, and the bodies behind an abstract method. -/
def overfull : Declaration where
  name := "Outer"
  imports := ["import a;"]
  definition := some "string"
  enumMembers := [("A", none)]
  methods := [.good { name := "run", isAbstract := true, expressionBody := some "1" }]
  nested := [.good {
    name := "Inner"
    kind := .interfaceDecl
    isAbstract := true
    imports := ["import b;"]
    interfaces := ["Base"]
    constructors := [.good {}]
    properties := [.good {
      name := "size", type := "number", isReadonly := true, getterExpression := some "2" }] }]

/-- The theorem at work: what is pruned from a class and an interface in it. -/
theorem pruned_prints_overfull :
    overfull.Typed ∧ overfull.pruned.nested =
      [.good {
        name := "Inner"
        kind := .interfaceDecl
        properties := [
          .good { name := "size", type := "number", getterExpression := some "2" }] }] ∧
    ∃ text, overfull.pruned.file { header := .none } = .ok text ∧
      overfull.file { header := .none } = .ok text := by
  have inner : Surface.Typed {
      name := "Inner", kind := .interfaceDecl, isAbstract := true, imports := ["import b;"]
      interfaces := ["Base"], constructors := [.good {}]
      properties := [.good {
        name := "size", type := "number", isReadonly := true, getterExpression := some "2" }] } := {
    name := ⟨_, rfl⟩
    doc := .inl rfl
    decorators := by simp
    fields := by simp
    constructors := by simpa [Supplied.Fits] using ⟨trivial, by simp, by simp, by simp⟩
    properties := by simpa [Supplied.Fits] using ⟨trivial, by simp, by simp⟩
    methods := by simp
    enumMembers := by simp
    imports := by simpa using ⟨_, rfl⟩ }
  have outer : overfull.toSurface.Typed := {
    name := ⟨_, rfl⟩
    doc := .inl rfl
    decorators := by simp [overfull]
    fields := by simp [overfull]
    constructors := by simp [overfull]
    properties := by simp [overfull]
    methods := by
      simpa [overfull, Supplied.Fits] using ⟨trivial, by simp, by simp, by simp, by simp⟩
    enumMembers := by simpa [overfull] using ⟨_, rfl⟩
    imports := by simpa [overfull] using ⟨_, rfl⟩ }
  have innerTyped : Typed { toSurface := _, nested := [] } := .mk inner (List.forall_mem_nil _)
  have typed : overfull.Typed := @Typed.mk _ [_] outer (by simpa using innerTyped)
  obtain ⟨_, _, prints⟩ := pruned_prints overfull
  exact ⟨typed, rfl, prints typed { header := .none } ⟨_, rfl⟩ (.inl rfl) ⟨_, rfl⟩⟩

end Declaration

end TypeScriptGen
