import TypeScriptGen.Annotation.Mapping
import TypeScriptGen.Proofs.Steps
import TypeScriptGen.Proofs.TypeGrammar

/-!
The type of an annotation, read back. What an annotation means as a type is put together from what
its parts mean; its text is read as that, to any depth, with unions flat and `null` behind them.
-/

set_option autoImplicit false
set_option relaxedAutoImplicit false

namespace TypeScriptGen.Annotation

open TypeText

def classShape (c : ClassRef) : TypeTree :=
  match primitive? c with
  | some word => .name word
  | Option.none =>
    match role c with
    | .tuple => .array (.name "unknown")
    | .set => .apply "Set" [.name "unknown"]
    | .mapping => .apply "Record" [.name "string", .name "unknown"]
    | .sequence => if c.home == .builtin then .array (.name "unknown") else .name c.name
    | .awaitable => .name c.name
    | .other => .name c.name

def appliedShape (c : ClassRef) (variadic : Bool) (arguments : List TypeTree) : TypeTree :=
  match role c with
  | .tuple => if variadic then .array (arguments.headD (.name "unknown")) else .tuple arguments
  | .awaitable => .apply "Promise" [arguments.getLastD (.name "void")]
  | .mapping => .apply "Record" arguments
  | .set => .apply "Set" arguments
  | .sequence => .array (arguments.headD (.name "unknown"))
  | .other => .apply ((primitive? c).getD c.name) arguments

def literalShape : LiteralValue → TypeTree
  | .text s => .text s
  | .int n => .number n
  | .bool b => .name (if b then "true" else "false")
  | .none => .name "None"

mutual

/-- The meaning of an annotation as a type. What is no type of its own goes by its name. -/
def shape : Annotation → TypeTree
  | .none => .name "void"
  | .any => .name "unknown"
  | .ellipsis => .name "Ellipsis"
  | .ofClass c => classShape c
  | .bare _ c => classShape c
  | .applied _ c arguments => appliedShape c (isVariadic arguments) (shapes arguments)
  | .union _ members =>
    .unionOf (presentShapes members ++ if members.any isNoneClass then [.name "null"] else [])
  | .literal values => .unionOf (values.map literalShape)
  | .text s => .name s
  | .forward s => .name s
  | .parameters types => .tuple (shapes types)
  | .typeVariable _ name => .name name

def shapes : List Annotation → List TypeTree
  | [] => []
  | a :: rest => shape a :: shapes rest

/-- The meanings of the annotations that say something, in order. -/
def presentShapes : List Annotation → List TypeTree
  | [] => []
  | a :: rest => if isNoneClass a then presentShapes rest else shape a :: presentShapes rest

end

def Role.takes : Role → Nat → Bool
  | .tuple, n => 1 ≤ n
  | .awaitable, n => 1 ≤ n
  | .mapping, n => n == 2
  | .set, n => n == 1
  | .sequence, n => n == 1
  | .other, n => 1 ≤ n

/-- The words that types consist of, apart from the names of classes. -/
def standardWords : List String :=
  ["void", "unknown", "boolean", "number", "string", "Uint8Array", "Date", "Set", "Record",
    "Promise", "null", "true", "false"]

/-- The class has a type of its own or a name that can be one. -/
def IsNamed (operators : List String) (c : ClassRef) : Prop :=
  (primitive? c).isSome ∨ IsName c.name ∧ c.name ∉ operators

/-- A literal whose text stands for itself between quotes. -/
def IsLiteral : LiteralValue → Prop
  | .text s => s.toList.all isPlain = true
  | .int _ => True
  | .bool _ => True
  | .none => False

/-- Annotations that are types: their classes have names, none of which is an operator, and as many
arguments as they take. -/
inductive Regular (operators : List String) : Annotation → Prop where
  | none : Regular operators .none
  | any : Regular operators .any
  | ofClass {c : ClassRef} : IsNamed operators c → Regular operators (.ofClass c)
  | applied {spelling : Spelling} {c : ClassRef} {arguments : List Annotation} :
    (role c).takes arguments.length → (role c = .other → IsNamed operators c) →
    (∀ a ∈ arguments, Regular operators a) → Regular operators (.applied spelling c arguments)
  | variadic {spelling : Spelling} {c : ClassRef} {a : Annotation} : role c = .tuple →
    Regular operators a → Regular operators (.applied spelling c [a, .ellipsis])
  | union {spelling : Spelling} {members : List Annotation} :
    (∀ a ∈ members, Regular operators a) → (∃ a ∈ members, isNoneClass a = false) →
    Regular operators (.union spelling members)
  | literal {values : List LiteralValue} : values ≠ [] → (∀ v ∈ values, IsLiteral v) →
    Regular operators (.literal values)

/-- The step gives a type with the given structure. -/
def Typed (operators : List String) (x : Except Fault TypeExpr) (t : TypeTree) : Prop :=
  ∃ type, x = .ok type ∧ IsType operators type.value t

def AllTyped (operators : List String) (x : Except Fault (List TypeExpr)) (ts : List TypeTree) :
    Prop :=
  ∃ types, x = .ok types ∧ List.Forall₂ (IsType operators) (types.map TypeExpr.value) ts

section

variable {operators : List String} {types : List TypeExpr} {trees : List TypeTree}

theorem toTexts_describe (types : List TypeExpr) :
    Value.toTexts (types.map TypeExpr.describe) = .ok (types.map TypeExpr.value) := by
  induction types with
  | nil => rfl
  | cons t rest ih =>
    rw [List.map_cons, Value.toTexts, ih]
    rfl

private theorem some_types
    (each : List.Forall₂ (IsType operators) (types.map TypeExpr.value) trees)
    (filled : trees ≠ []) :
    types ≠ [] := by
  rintro rfl
  exact filled (List.forall₂_nil_left_iff.mp each)

theorem unionType_eq (filled : types ≠ []) :
    unionType types = .ok ⟨" | ".intercalate (types.map TypeExpr.value)⟩ := by
  match types, filled with
  | [t], _ => rfl
  | t :: u :: rest, _ =>
    change TypeExpr.union ((t :: u :: rest).map TypeExpr.describe) = _
    rw [TypeExpr.union, TypeExpr.combine, toTexts_describe]
    rfl

theorem applyTo_typed {word : String} (name : IsName word ∧ word ∉ operators)
    (each : List.Forall₂ (IsType operators) (types.map TypeExpr.value) trees)
    (filled : trees ≠ []) :
    Typed operators (applyTo ⟨word⟩ types) (.apply word trees) := by
  cases types with
  | nil => exact absurd (List.forall₂_nil_left_iff.mp each) filled
  | cons t rest =>
    have operand := isOperand_applied name.1 name.2 each (List.cons_ne_nil _ _)
    refine ⟨_, ?_, operand.isType rfl⟩
    rw [applyTo, TypeExpr.apply, Value.commaText, toTexts_describe]
    rfl

theorem tuple_typed
    (each : List.Forall₂ (IsType operators) (types.map TypeExpr.value) trees)
    (filled : trees ≠ []) :
    Typed operators (TypeExpr.tuple (types.map TypeExpr.describe)) (.tuple trees) := by
  cases types with
  | nil => exact absurd (List.forall₂_nil_left_iff.mp each) filled
  | cons t rest =>
    have operand := isOperand_tuple each (List.cons_ne_nil _ _)
    refine ⟨_, ?_, operand.isType rfl⟩
    rw [TypeExpr.tuple, Value.commaText, toTexts_describe]
    rfl

theorem Typed.cons {x : Except Fault TypeExpr} {t : TypeTree} (first : Typed operators x t)
    {more : Except Fault (List TypeExpr)} (others : AllTyped operators more trees) :
    AllTyped operators (do return (← x) :: (← more)) (t :: trees) := by
  obtain ⟨type, rfl, isType⟩ := first
  obtain ⟨types, rfl, each⟩ := others
  exact ⟨type :: types, rfl, .cons isType each⟩

private theorem isType_name {s : String} (name : IsName s ∧ s ∉ operators) :
    IsType operators s (.name s) := (isOperand_name name.1 name.2).isType rfl

/-- With a bar in the text, brackets around it do no harm; without one there is nothing that they
would have to keep together. -/
theorem isOperand_element {t : TypeExpr} {tree : TypeTree}
    (isType : IsType operators t.value tree) :
    IsOperand operators (element t).value tree := by
  unfold element
  split
  case isTrue => exact isType.bracketed
  case isFalse unbarred =>
    rw [Bool.or_eq_true, not_or, Bool.not_eq_true] at unbarred
    exact isType.unbarred unbarred.1

private theorem isType_array {t : TypeExpr} {tree : TypeTree}
    (isType : IsType operators t.value tree) :
    IsType operators ((element t).unary .array).value (.array tree) :=
  (isOperand_element isType).array.isType rfl

private theorem types_one {t : TypeExpr} {tree : TypeTree}
    (isType : IsType operators t.value tree) :
    List.Forall₂ (IsType operators) ([t].map TypeExpr.value) [tree] := .cons isType .nil

theorem primitive_standard {c : ClassRef} {word : String} (known : primitive? c = some word) :
    word ∈ standardWords := by
  unfold primitive? at known
  split at known
  case h_15 => nomatch known
  all_goals
    cases known
    decide

private theorem standard_names : ∀ word ∈ standardWords, IsName word := by
  intro word member
  have facts : ∀ word ∈ standardWords, word ≠ "" ∧ word.toList.all isWordChar = true ∧
      (word.toList.headD '0').isDigit = false := by decide
  exact ⟨(facts word member).1, (facts word member).2.1, (facts word member).2.2⟩

section

variable (ordinary : ∀ word ∈ standardWords, word ∉ operators)

include ordinary

private theorem standard_name {word : String} (member : word ∈ standardWords) :
    IsName word ∧ word ∉ operators := ⟨standard_names word member, ordinary word member⟩

theorem isType_class {c : ClassRef} (named : IsNamed operators c) :
    IsType operators (classType c).value (classShape c) := by
  have standard := fun word (member : word ∈ standardWords) =>
    standard_name ordinary member
  have unknown := standard "unknown" (by decide)
  have array := (isOperand_name unknown.1 unknown.2).array.isType rfl
  unfold classType classShape
  cases known : primitive? c with
  | some word => exact isType_name (standard word (primitive_standard known))
  | none =>
    have own : IsName c.name ∧ c.name ∉ operators := by simpa [IsNamed, known] using named
    cases role c with
    | tuple => exact array
    | set =>
      have set := standard "Set" (by decide)
      exact (isOperand_applied set.1 set.2 (.cons (isType_name unknown) .nil) nofun).isType rfl
    | mapping =>
      have record := standard "Record" (by decide)
      have string := isType_name (standard "string" (by decide))
      exact (isOperand_applied record.1 record.2 (.cons string (.cons (isType_name unknown) .nil))
        nofun).isType rfl
    | sequence =>
      dsimp only
      split
      · exact array
      · exact isType_name own
    | awaitable => exact isType_name own
    | other => exact isType_name own

theorem literalType_typed {v : LiteralValue} (literal : IsLiteral v) :
    Typed operators (literalType v) (literalShape v) := by
  cases v with
  | text s => exact ⟨_, rfl, (isOperand_text literal).isType rfl⟩
  | int n => exact ⟨_, rfl, (isOperand_number n).isType rfl⟩
  | bool b =>
    cases b with
    | true => exact ⟨_, rfl, isType_name (standard_name ordinary (by decide))⟩
    | false => exact ⟨_, rfl, isType_name (standard_name ordinary (by decide))⟩
  | none => exact literal.elim

theorem literalTypes_typed {values : List LiteralValue} (each : ∀ v ∈ values, IsLiteral v) :
    AllTyped operators (literalTypes values) (values.map literalShape) := by
  induction values with
  | nil => exact ⟨[], rfl, .nil⟩
  | cons v rest ih =>
    rw [List.forall_mem_cons] at each
    exact (literalType_typed ordinary each.1).cons (ih each.2)

end

theorem toTypes_typed {as : List Annotation}
    (each : ∀ a ∈ as, Typed operators (toType a) (shape a)) :
    AllTyped operators (toTypes as) (shapes as) := by
  induction as with
  | nil => exact ⟨[], rfl, .nil⟩
  | cons a rest ih =>
    rw [List.forall_mem_cons] at each
    exact each.1.cons (ih each.2)

theorem toTypesPresent_typed {as : List Annotation}
    (each : ∀ a ∈ as, Typed operators (toType a) (shape a)) :
    AllTyped operators (toTypesPresent as) (presentShapes as) := by
  induction as with
  | nil => exact ⟨[], rfl, .nil⟩
  | cons a rest ih =>
    rw [List.forall_mem_cons] at each
    unfold toTypesPresent presentShapes
    split
    · exact ih each.2
    · exact each.1.cons (ih each.2)

theorem lastType_typed {as : List Annotation} (filled : as ≠ []) {fallback : TypeTree}
    (each : ∀ a ∈ as, Typed operators (toType a) (shape a)) :
    Typed operators (lastType as) ((shapes as).getLastD fallback) := by
  induction as with
  | nil => exact absurd rfl filled
  | cons a rest ih =>
    rw [List.forall_mem_cons] at each
    cases rest with
    | nil => exact each.1
    | cons b rest => exact ih (List.cons_ne_nil _ _) each.2

private theorem presentShapes_some {as : List Annotation}
    (present : ∃ a ∈ as, isNoneClass a = false) : presentShapes as ≠ [] := by
  induction as with
  | nil => simp at present
  | cons a rest ih =>
    unfold presentShapes
    split
    case isTrue absent =>
      refine ih ?_
      simpa [absent] using present
    case isFalse => exact List.cons_ne_nil _ _

private theorem Regular.fixed {arguments : List Annotation}
    (each : ∀ a ∈ arguments, Regular operators a) : isVariadic arguments = false := by
  unfold isVariadic
  split
  case h_1 a => nomatch each .ellipsis (by simp)
  case h_2 => rfl

theorem classType_other {c : ClassRef} (other : role c = .other) :
    classType c = ⟨(primitive? c).getD c.name⟩ := by
  unfold classType
  cases primitive? c with
  | some word => rfl
  | none => rw [other]; rfl

section

variable (ordinary : ∀ word ∈ standardWords, word ∉ operators)

include ordinary

private theorem named_word {c : ClassRef} (named : IsNamed operators c) :
    IsName ((primitive? c).getD c.name) ∧ (primitive? c).getD c.name ∉ operators := by
  cases known : primitive? c with
  | some word => exact standard_name ordinary (primitive_standard known)
  | none => simpa [IsNamed, known] using named

theorem applied_typed {spelling : Spelling} {c : ClassRef} {arguments : List Annotation}
    (full : (role c).takes arguments.length) (named : role c = .other → IsNamed operators c)
    (fixed : isVariadic arguments = false)
    (each : ∀ a ∈ arguments, Typed operators (toType a) (shape a)) :
    Typed operators (toType (.applied spelling c arguments))
      (shape (.applied spelling c arguments)) := by
  obtain ⟨types, done, parts⟩ := toTypes_typed each
  unfold toType shape appliedShape
  cases kind : role c with
  | tuple =>
    rw [kind] at full
    obtain ⟨a, rest, rfl⟩ := List.exists_cons_of_length_pos (of_decide_eq_true full)
    dsimp only
    rw [fixed, done]
    exact tuple_typed parts (List.cons_ne_nil _ _)
  | awaitable =>
    rw [kind] at full
    obtain ⟨a, rest, rfl⟩ := List.exists_cons_of_length_pos (of_decide_eq_true full)
    obtain ⟨type, last, isType⟩ := lastType_typed (List.cons_ne_nil _ _) each
    dsimp only
    rw [last]
    have promise := standard_name ordinary (show "Promise" ∈ standardWords by decide)
    exact applyTo_typed promise (types_one isType) (List.cons_ne_nil _ _)
  | mapping =>
    rw [kind] at full
    obtain ⟨k, v, rfl⟩ := List.length_eq_two.mp (eq_of_beq full)
    obtain ⟨key, keyDone, keyTyped⟩ := each k (by simp)
    obtain ⟨value, valueDone, valueTyped⟩ := each v (by simp)
    dsimp only
    rw [recordType, keyDone, valueDone]
    have record := standard_name ordinary (show "Record" ∈ standardWords by decide)
    have both : List.Forall₂ (IsType operators) ([key, value].map TypeExpr.value)
        [shape k, shape v] := .cons keyTyped (.cons valueTyped .nil)
    exact applyTo_typed record both (List.cons_ne_nil _ _)
  | set =>
    rw [kind] at full
    obtain ⟨a, rfl⟩ := List.length_eq_one_iff.mp (eq_of_beq full)
    obtain ⟨type, first, isType⟩ := each a (by simp)
    dsimp only
    rw [firstType, first]
    have set := standard_name ordinary (show "Set" ∈ standardWords by decide)
    exact applyTo_typed set (types_one isType) (List.cons_ne_nil _ _)
  | sequence =>
    rw [kind] at full
    obtain ⟨a, rfl⟩ := List.length_eq_one_iff.mp (eq_of_beq full)
    obtain ⟨type, first, isType⟩ := each a (by simp)
    dsimp only
    rw [firstType, first]
    exact ⟨_, rfl, isType_array isType⟩
  | other =>
    rw [kind] at full
    obtain ⟨a, rest, rfl⟩ := List.exists_cons_of_length_pos (of_decide_eq_true full)
    dsimp only
    rw [done, classType_other kind]
    exact applyTo_typed (named_word ordinary (named kind)) parts (List.cons_ne_nil _ _)

theorem Regular.typed {a : Annotation} (regular : Regular operators a) :
    Typed operators (toType a) (shape a) := by
  induction regular with
  | none => exact ⟨_, rfl, isType_name (standard_name ordinary (by decide))⟩
  | any => exact ⟨_, rfl, isType_name (standard_name ordinary (by decide))⟩
  | ofClass named => exact ⟨_, rfl, isType_class ordinary named⟩
  | applied full named each ih => exact applied_typed ordinary full named (Regular.fixed each) ih
  | variadic tuple _ ih =>
    obtain ⟨type, done, isType⟩ := ih
    unfold toType shape appliedShape
    rw [tuple]
    dsimp only [isVariadic]
    rw [firstType, done]
    exact ⟨_, rfl, isType_array isType⟩
  | @union spelling members _ present ih =>
    obtain ⟨types, done, parts⟩ := toTypesPresent_typed ih
    have nonempty := some_types parts (presentShapes_some present)
    have filled : types.map TypeExpr.value ≠ [] := by simpa using nonempty
    unfold toType shape
    rw [done, Step.ok_bind, unionType_eq nonempty, Step.ok_bind]
    cases members.any isNoneClass with
    | true =>
      -- The text may end in a union or not: `null` is one more member behind the others.
      have null := isType_name (standard_name ordinary (show "null" ∈ standardWords by decide))
      have nullable := isType_bars_append parts filled null
      rw [String.append_assoc] at nullable
      exact ⟨_, rfl, nullable⟩
    | false => exact ⟨_, rfl, (List.append_nil _).symm ▸ isType_bars parts filled⟩
  | literal filled each =>
    obtain ⟨types, done, parts⟩ := literalTypes_typed ordinary each
    have nonempty := some_types parts (by simpa using filled)
    unfold toType shape
    rw [done, Step.ok_bind, unionType_eq nonempty]
    exact ⟨_, rfl, isType_bars parts (by simpa using nonempty)⟩

/-- The text of the type is read as what the annotation means, whatever words are operators. Without
operators every identifier is a name. -/
theorem toType_reads {a : Annotation} (regular : Regular operators a) :
    ∃ type, toType a = .ok type ∧ TypeText.read operators type.value = some (shape a) := by
  obtain ⟨type, done, isType⟩ := regular.typed ordinary
  exact ⟨type, done, isType.read⟩

end

end

private def flags : Annotation :=
  .applied (.typing "List") (builtin "list") [.union (.typing "Union")
    [.literal [.text "on", .int (-1)],
      .applied .direct (builtin "dict") [.ofClass (builtin "str"), .ofClass ⟨.program 0, "Flag"⟩],
      .ofClass noneClass]]

private theorem regular_flags : Regular ["keyof", "readonly", "unique"] flags := by
  have flag : IsName "Flag" := ⟨by decide, by decide, by decide⟩
  refine .applied rfl nofun (List.forall_mem_singleton.mpr (.union ?_ ?_))
  · simp only [List.forall_mem_cons]
    refine ⟨.literal (List.cons_ne_nil _ _) ?_, .applied rfl nofun ?_,
      .ofClass (.inl rfl), nofun⟩
    · simp only [List.forall_mem_cons]
      have plain : "on".toList.all isPlain = true := by decide
      exact ⟨plain, trivial, nofun⟩
    · simp only [List.forall_mem_cons]
      exact ⟨.ofClass (.inl rfl), .ofClass (.inr ⟨flag, by decide⟩), nofun⟩
  · exact ⟨_, List.mem_cons_self, rfl⟩

/-- The theorem at work: a list of literals, mappings or nothing. The suffix is behind brackets. -/
theorem toType_reads_flags :
    toType flags = .ok ⟨"(\"on\" | -1 | Record<string, Flag> | null)[]"⟩ ∧
    TypeText.read ["keyof", "readonly", "unique"]
      "(\"on\" | -1 | Record<string, Flag> | null)[]" =
      some (.array (.union [.text "on", .number (-1),
        .apply "Record" [.name "string", .name "Flag"], .name "null"])) := by
  have shown : toType flags = .ok ⟨"(\"on\" | -1 | Record<string, Flag> | null)[]"⟩ := by
    decide +kernel
  obtain ⟨type, done, reading⟩ := toType_reads (by decide) regular_flags
  rw [shown] at done
  cases done
  exact ⟨shown, reading⟩

end TypeScriptGen.Annotation
