import TypeScriptGen.Emission
import TypeScriptGen.Proofs.Steps

/-!
Sequences of calls that change a declaration. Each call adds to one slot only, by an amount that
does not depend on the declaration. Main statement: two sequences that agree on the calls of every
single operation make the same declaration, whatever the order between different operations, and
that declaration is the old one followed, slot by slot, by what the calls add.
-/

set_option autoImplicit false
set_option relaxedAutoImplicit false

namespace TypeScriptGen

/-- The operations that change a declaration. -/
inductive Mutator where
  | exported
  | defaultExported
  | asAbstract
  | asDeclare
  | decorator
  | doc
  | typeParameter
  | base
  | interfaces
  | field
  | property
  | method
  | constructor
  | indexSignature
  | nested
  | enumMember
  | importing
deriving DecidableEq, Repr

/-- A call with its arguments. A member is handed over as it is, or made from what a callback does
with a fresh one. -/
inductive Mutation where
  | exported
  | defaultExported
  | asAbstract
  | asDeclare
  | decorator (v : Value)
  | doc (v : Value)
  | typeParameter (name constraint : Value)
  | base (v : Value)
  | interfaces (vs : List Value)
  | field (f : Field)
  | newField (name type : Value) (configure : Option (Field → Except Fault (Supplied Field)))
  | property (p : Property)
  | newProperty (name type : Value)
      (configure : Option (Property → Except Fault (Supplied Property)))
  | method (d : Method)
  | newMethod (name : Value) (configure : Option (Method → Except Fault (Supplied Method)))
  | constructor (c : Constructor)
  | newConstructor (configure : Option (Constructor → Except Fault (Supplied Constructor)))
  | indexSignature (keyName keyType valueType : Value)
  | nested (n : Supplied Declaration)
  | enumMember (name value : Value)
  | importing (v : Value)

/-- What calls add to a declaration, slot by slot. -/
structure Additions where
  isExported : Bool := false
  isDefaultExport : Bool := false
  isAbstract : Bool := false
  isDeclare : Bool := false
  decorators : List Value := []
  doc : Option Value := none
  typeParameters : List String := []
  bases : List String := []
  interfaces : List String := []
  indexSignatures : List String := []
  fields : List (Supplied Field) := []
  constructors : List (Supplied Constructor) := []
  properties : List (Supplied Property) := []
  methods : List (Supplied Method) := []
  nested : List (Supplied Declaration) := []
  enumMembers : List (Value × Option String) := []
  imports : List Value := []

/-- A declaration followed by additions: a flag is set if either sets it, the later text documents,
and every collection goes on with what is added. -/
def Declaration.extendedBy (d : Declaration) (a : Additions) : Declaration :=
  { d with
    isExported := d.isExported || a.isExported
    isDefaultExport := d.isDefaultExport || a.isDefaultExport
    isAbstract := d.isAbstract || a.isAbstract
    isDeclare := d.isDeclare || a.isDeclare
    decorators := d.decorators ++ a.decorators
    doc := a.doc.getD d.doc
    typeParameters := d.typeParameters ++ a.typeParameters
    bases := d.bases ++ a.bases
    interfaces := d.interfaces ++ a.interfaces
    indexSignatures := d.indexSignatures ++ a.indexSignatures
    fields := d.fields ++ a.fields
    constructors := d.constructors ++ a.constructors
    properties := d.properties ++ a.properties
    methods := d.methods ++ a.methods
    nested := d.nested ++ a.nested
    enumMembers := d.enumMembers ++ a.enumMembers
    imports := d.imports ++ a.imports }

/-- The items that are added all belong to one operation. -/
structure Additions.Only (k : Mutator) (a : Additions) : Prop where
  decorators : k ≠ .decorator → a.decorators = []
  doc : k ≠ .doc → a.doc = none
  typeParameters : k ≠ .typeParameter → a.typeParameters = []
  bases : k ≠ .base → a.bases = []
  interfaces : k ≠ .interfaces → a.interfaces = []
  indexSignatures : k ≠ .indexSignature → a.indexSignatures = []
  fields : k ≠ .field → a.fields = []
  constructors : k ≠ .constructor → a.constructors = []
  properties : k ≠ .property → a.properties = []
  methods : k ≠ .method → a.methods = []
  nested : k ≠ .nested → a.nested = []
  enumMembers : k ≠ .enumMember → a.enumMembers = []
  imports : k ≠ .importing → a.imports = []

namespace Mutation

def mutator : Mutation → Mutator
  | .exported => .exported
  | .defaultExported => .defaultExported
  | .asAbstract => .asAbstract
  | .asDeclare => .asDeclare
  | .decorator _ => .decorator
  | .doc _ => .doc
  | .typeParameter _ _ => .typeParameter
  | .base _ => .base
  | .interfaces _ => .interfaces
  | .field _ => .field
  | .newField _ _ _ => .field
  | .property _ => .property
  | .newProperty _ _ _ => .property
  | .method _ => .method
  | .newMethod _ _ => .method
  | .constructor _ => .constructor
  | .newConstructor _ => .constructor
  | .indexSignature _ _ _ => .indexSignature
  | .nested _ => .nested
  | .enumMember _ _ => .enumMember
  | .importing _ => .importing

def apply : Mutation → Declaration → Except Fault Declaration
  | .exported, d => .ok { d with isExported := true }
  | .defaultExported, d => .ok { d with isDefaultExport := true }
  | .asAbstract, d => .ok { d with isAbstract := true }
  | .asDeclare, d => .ok { d with isDeclare := true }
  | .decorator v, d => .ok (d.withDecorator v)
  | .doc v, d => .ok (d.withDoc v)
  | .typeParameter name constraint, d => d.addTypeParameter name constraint
  | .base v, d => d.addBase v
  | .interfaces vs, d => d.addInterfaces vs
  | .field f, d => .ok (d.addField (.good f))
  | .newField name type configure, d => do
    return d.addField (← Field.configured name type configure)
  | .property p, d => .ok (d.addProperty (.good p))
  | .newProperty name type configure, d => do
    return d.addProperty (← Property.configured name type configure)
  | .method f, d => .ok (d.addMethod (.good f))
  | .newMethod name configure, d => do return d.addMethod (← Method.configured name configure)
  | .constructor c, d => .ok (d.addConstructor (.good c))
  | .newConstructor none, d => .ok (d.addConstructor (.good {}))
  | .newConstructor (some configure), d => do return d.addConstructor (← configure {})
  | .indexSignature keyName keyType valueType, d => d.addIndexSignature keyName keyType valueType
  | .nested n, d => .ok (d.addNested n)
  | .enumMember name value, d => d.addEnumMember name value
  | .importing v, d => .ok (d.addImport v)

def applyAll : List Mutation → Declaration → Except Fault Declaration
  | [], d => .ok d
  | m :: rest, d => do applyAll rest (← m.apply d)

/-- What the call adds, or why it fails; the declaration has no say in it. -/
def effect : Mutation → Except Fault Additions
  | .exported => return { isExported := true }
  | .defaultExported => return { isDefaultExport := true }
  | .asAbstract => return { isAbstract := true }
  | .asDeclare => return { isDeclare := true }
  | .decorator v => return { decorators := [v] }
  | .doc v => return { doc := some v }
  | .typeParameter name constraint => do
    return { typeParameters := [← TypeScriptGen.typeParameter name constraint] }
  | .base v => do return { bases := [← v.toText] }
  | .interfaces vs => do return { interfaces := ← Value.toTexts vs }
  | .field f => return { fields := [.good f] }
  | .newField name type configure => do
    return { fields := [← Field.configured name type configure] }
  | .property p => return { properties := [.good p] }
  | .newProperty name type configure => do
    return { properties := [← Property.configured name type configure] }
  | .method f => return { methods := [.good f] }
  | .newMethod name configure => do return { methods := [← Method.configured name configure] }
  | .constructor c => return { constructors := [.good c] }
  | .newConstructor none => return { constructors := [.good {}] }
  | .newConstructor (some configure) => do return { constructors := [← configure {}] }
  | .indexSignature keyName keyType valueType => do
    let name ← keyName.toText
    let key ← keyType.toText
    let value ← valueType.toText
    return { indexSignatures := ["[" ++ name ++ ": " ++ key ++ "]: " ++ value] }
  | .nested n => return { nested := [n] }
  | .enumMember name value => do return { enumMembers := [(name, ← value.optionalText)] }
  | .importing v => return { imports := [v] }

/-- What a call adds; one that fails adds nothing. -/
def adds (m : Mutation) : Additions := m.effect.toOption.getD {}

/-- What calls add: the items of one call after those of the calls before it, none left out. -/
def added (calls : List Mutation) : Additions where
  isExported := calls.any (·.adds.isExported)
  isDefaultExport := calls.any (·.adds.isDefaultExport)
  isAbstract := calls.any (·.adds.isAbstract)
  isDeclare := calls.any (·.adds.isDeclare)
  decorators := calls.flatMap (·.adds.decorators)
  doc := (calls.flatMap (·.adds.doc.toList)).getLast?
  typeParameters := calls.flatMap (·.adds.typeParameters)
  bases := calls.flatMap (·.adds.bases)
  interfaces := calls.flatMap (·.adds.interfaces)
  indexSignatures := calls.flatMap (·.adds.indexSignatures)
  fields := calls.flatMap (·.adds.fields)
  constructors := calls.flatMap (·.adds.constructors)
  properties := calls.flatMap (·.adds.properties)
  methods := calls.flatMap (·.adds.methods)
  nested := calls.flatMap (·.adds.nested)
  enumMembers := calls.flatMap (·.adds.enumMembers)
  imports := calls.flatMap (·.adds.imports)

def callsOf (k : Mutator) (calls : List Mutation) : List Mutation :=
  calls.filter fun m => decide (m.mutator = k)

/-! One call. -/

open Step

private theorem apply_eq (m : Mutation) (d : Declaration) :
    m.apply d = m.effect.map d.extendedBy := by
  cases m with
  | exported => exact return_shift (by simp [Declaration.extendedBy])
  | defaultExported => exact return_shift (by simp [Declaration.extendedBy])
  | asAbstract => exact return_shift (by simp [Declaration.extendedBy])
  | asDeclare => exact return_shift (by simp [Declaration.extendedBy])
  | decorator v => exact return_shift (by simp [Declaration.extendedBy, Declaration.withDecorator])
  | doc v => exact return_shift (by simp [Declaration.extendedBy, Declaration.withDoc])
  | typeParameter name constraint =>
    exact bind_same _ fun t => return_shift (by simp [Declaration.extendedBy])
  | base v => exact bind_same _ fun t => return_shift (by simp [Declaration.extendedBy])
  | interfaces vs => exact bind_same _ fun ts => return_shift (by simp [Declaration.extendedBy])
  | field f => exact return_shift (by simp [Declaration.extendedBy, Declaration.addField])
  | newField name type configure =>
    exact bind_same _ fun f =>
      return_shift (by simp [Declaration.extendedBy, Declaration.addField])
  | property p => exact return_shift (by simp [Declaration.extendedBy, Declaration.addProperty])
  | newProperty name type configure =>
    exact bind_same _ fun p =>
      return_shift (by simp [Declaration.extendedBy, Declaration.addProperty])
  | method f => exact return_shift (by simp [Declaration.extendedBy, Declaration.addMethod])
  | newMethod name configure =>
    exact bind_same _ fun f =>
      return_shift (by simp [Declaration.extendedBy, Declaration.addMethod])
  | constructor c =>
    exact return_shift (by simp [Declaration.extendedBy, Declaration.addConstructor])
  | newConstructor configure =>
    cases configure with
    | none => exact return_shift (by simp [Declaration.extendedBy, Declaration.addConstructor])
    | some configure =>
      exact bind_same _ fun c =>
        return_shift (by simp [Declaration.extendedBy, Declaration.addConstructor])
  | indexSignature keyName keyType valueType =>
    exact bind_same _ fun name => bind_same _ fun key => bind_same _ fun value =>
      return_shift (by simp [Declaration.extendedBy])
  | nested n => exact return_shift (by simp [Declaration.extendedBy, Declaration.addNested])
  | enumMember name value =>
    exact bind_same _ fun t => return_shift (by simp [Declaration.extendedBy])
  | importing v => exact return_shift (by simp [Declaration.extendedBy, Declaration.addImport])

private theorem adds_of_effect {m : Mutation} {a : Additions} (given : m.effect = .ok a) :
    m.adds = a := by
  unfold adds
  rw [given]
  rfl

private theorem effect_only (m : Mutation) : Ensures (Additions.Only m.mutator) m.effect := by
  cases m with
  | typeParameter | base | interfaces | newField | newProperty | newMethod | enumMember =>
    refine .bind (.any _) fun _ _ => .pure ?_
    constructor <;> intro other <;> first | rfl | exact absurd rfl other
  | newConstructor configure =>
    cases configure with
    | none =>
      refine .pure ?_
      constructor <;> intro other <;> first | rfl | exact absurd rfl other
    | some configure =>
      refine .bind (.any _) fun _ _ => .pure ?_
      constructor <;> intro other <;> first | rfl | exact absurd rfl other
  | indexSignature =>
    refine .bind (.any _) fun _ _ => .bind (.any _) fun _ _ => .bind (.any _) fun _ _ => .pure ?_
    constructor <;> intro other <;> first | rfl | exact absurd rfl other
  | _ =>
    refine .pure ?_
    constructor <;> intro other <;> first | rfl | exact absurd rfl other

private theorem adds_only (m : Mutation) : m.adds.Only m.mutator := by
  cases given : m.effect with
  | ok a =>
    rw [adds_of_effect given]
    exact effect_only m a given
  | error fault =>
    unfold adds
    rw [given]
    constructor <;> intro _ <;> rfl

/-! A sequence of calls. -/

private theorem extendedBy_nothing (d : Declaration) : d.extendedBy {} = d := by
  cases d
  simp [Declaration.extendedBy]

private theorem doc_added_cons (m : Mutation) (rest : List Mutation) :
    (added (m :: rest)).doc = (added rest).doc.or m.adds.doc := by
  change ((m :: rest).flatMap (·.adds.doc.toList)).getLast? = _
  rw [List.flatMap_cons, List.getLast?_append]
  cases m.adds.doc <;> rfl

private theorem extendedBy_added_cons (d : Declaration) (m : Mutation) (rest : List Mutation) :
    (d.extendedBy m.adds).extendedBy (added rest) = d.extendedBy (added (m :: rest)) := by
  have documented : (added rest).doc.getD (m.adds.doc.getD d.doc) =
      (added (m :: rest)).doc.getD d.doc := by
    rw [doc_added_cons]
    cases (added rest).doc <;> rfl
  simp only [Declaration.extendedBy, documented]
  simp only [added, List.any_cons, List.flatMap_cons, Bool.or_assoc, List.append_assoc]

private theorem applyAll_eq_ok {calls : List Mutation} {d d' : Declaration} :
    applyAll calls d = .ok d' ↔
      (∀ m ∈ calls, Succeeds m.effect) ∧ d' = d.extendedBy (added calls) := by
  induction calls generalizing d with
  | nil =>
    have nothing : d.extendedBy (added []) = d := extendedBy_nothing d
    rw [nothing]
    constructor
    · intro done
      cases done
      exact ⟨fun m absent => absurd absent List.not_mem_nil, rfl⟩
    · rintro ⟨_, rfl⟩
      rfl
  | cons m rest ih =>
    rw [applyAll, bind_eq_ok, List.forall_mem_cons]
    constructor
    · rintro ⟨next, first, others⟩
      rw [apply_eq] at first
      cases given : m.effect with
      | error fault =>
        rw [given] at first
        cases first
      | ok a =>
        rw [given] at first
        cases first
        obtain ⟨succeed, rfl⟩ := ih.mp others
        refine ⟨⟨⟨a, rfl⟩, succeed⟩, ?_⟩
        rw [← adds_of_effect given, extendedBy_added_cons]
    · rintro ⟨⟨⟨a, given⟩, succeed⟩, rfl⟩
      refine ⟨d.extendedBy a, ?_, ih.mpr ⟨succeed, ?_⟩⟩
      · rw [apply_eq, given]
        rfl
      · rw [← adds_of_effect given, extendedBy_added_cons]

/-! What calls add depends on the calls of each single operation only. -/

private theorem flatMap_callsOf {α : Type} {k : Mutator} {items : Mutation → List α}
    (other : ∀ m, m.mutator ≠ k → items m = []) (calls : List Mutation) :
    (callsOf k calls).flatMap items = calls.flatMap items := by
  induction calls with
  | nil => rfl
  | cons m rest ih =>
    unfold callsOf at ih ⊢
    by_cases own : m.mutator = k
    · rw [List.filter_cons_of_pos (by simpa using own), List.flatMap_cons, List.flatMap_cons, ih]
    · rw [List.filter_cons_of_neg (by simpa using own), List.flatMap_cons, other m own, ih]
      rfl

section

variable {xs ys : List Mutation} (same : ∀ k, callsOf k xs = callsOf k ys)
include same

private theorem mem_iff (m : Mutation) : m ∈ xs ↔ m ∈ ys := by
  have kept : ∀ calls : List Mutation, m ∈ callsOf m.mutator calls ↔ m ∈ calls := by
    intro calls
    simp [callsOf]
  rw [← kept xs, same, kept ys]

private theorem any_eq (p : Mutation → Bool) : xs.any p = ys.any p := by
  rw [Bool.eq_iff_iff, List.any_eq_true, List.any_eq_true]
  simp only [mem_iff same]

private theorem flatMap_eq {α : Type} {k : Mutator} {items : Mutation → List α}
    (other : ∀ m, m.mutator ≠ k → items m = []) : xs.flatMap items = ys.flatMap items := by
  rw [← flatMap_callsOf other xs, same, flatMap_callsOf other ys]

private theorem doc_eq : (added xs).doc = (added ys).doc := by
  have texts : xs.flatMap (·.adds.doc.toList) = ys.flatMap (·.adds.doc.toList) := by
    apply flatMap_eq same (k := .doc)
    intro m other
    rw [(adds_only m).doc other]
    rfl
  exact congrArg List.getLast? texts

private theorem added_eq : added xs = added ys := by
  have documented := doc_eq same
  unfold added at documented ⊢
  rw [Additions.mk.injEq]
  exact ⟨any_eq same _, any_eq same _, any_eq same _, any_eq same _,
    flatMap_eq same fun m other => (adds_only m).decorators other, documented,
    flatMap_eq same fun m other => (adds_only m).typeParameters other,
    flatMap_eq same fun m other => (adds_only m).bases other,
    flatMap_eq same fun m other => (adds_only m).interfaces other,
    flatMap_eq same fun m other => (adds_only m).indexSignatures other,
    flatMap_eq same fun m other => (adds_only m).fields other,
    flatMap_eq same fun m other => (adds_only m).constructors other,
    flatMap_eq same fun m other => (adds_only m).properties other,
    flatMap_eq same fun m other => (adds_only m).methods other,
    flatMap_eq same fun m other => (adds_only m).nested other,
    flatMap_eq same fun m other => (adds_only m).enumMembers other,
    flatMap_eq same fun m other => (adds_only m).imports other⟩

end

/-- Main theorem. Calls that succeed make of a declaration what they add to it, slot by slot and in
order. Any other sequence with the same calls of each single operation succeeds as well and makes
the same declaration, which is emitted alike under all options. -/
theorem applyAll_order_free {b b' : Declaration} {xs ys : List Mutation}
    (done : applyAll xs b = .ok b') (same : ∀ k, callsOf k xs = callsOf k ys) :
    b' = b.extendedBy (added xs) ∧ applyAll ys b = .ok b' ∧
      ∀ b'', applyAll ys b = .ok b'' → b'' = b' ∧
        ∀ options, Emission.emit (.good b'') options = Emission.emit (.good b') options := by
  obtain ⟨succeed, grown⟩ := applyAll_eq_ok.mp done
  have again : applyAll ys b = .ok b' := by
    refine applyAll_eq_ok.mpr ⟨fun m member => succeed m ((mem_iff same m).mpr member), ?_⟩
    rw [grown, added_eq same]
  refine ⟨grown, again, fun b'' other => ?_⟩
  rw [again] at other
  cases other
  exact ⟨rfl, fun _ => rfl⟩

/-- The theorem at work: a class with a field and one decorator given twice, around other calls. -/
theorem applyAll_order_free_class :
    ∃ b', applyAll [.exported, .decorator "log", .newField "x" "number" none, .doc "Old.",
        .decorator "log", .doc "New."] (.ofKind .classDecl "Box") = .ok b' ∧
      applyAll [.doc "Old.", .decorator "log", .decorator "log", .doc "New.", .exported,
        .newField "x" "number" none] (.ofKind .classDecl "Box") = .ok b' ∧
      b'.decorators = [.text "log", .text "log"] ∧ b'.doc = "New." := by
  have done : applyAll [.exported, .decorator "log", .newField "x" "number" none, .doc "Old.",
      .decorator "log", .doc "New."] (.ofKind .classDecl "Box") = .ok _ := rfl
  refine ⟨_, done, (applyAll_order_free done ?_).2.1, rfl, rfl⟩
  intro k
  cases k <;> rfl

end Mutation

end TypeScriptGen
