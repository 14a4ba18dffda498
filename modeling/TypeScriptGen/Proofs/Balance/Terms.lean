import TypeScriptGen.Annotation.Mapping
import TypeScriptGen.Proofs.Balance.Brackets
import TypeScriptGen.Proofs.Steps

/-!
Balance of expressions and types: every operation on them gives a balanced text if its operands have
balanced texts. The type of an annotation is balanced if the names and texts in the annotation are.
-/

set_option autoImplicit false
set_option relaxedAutoImplicit false

namespace TypeScriptGen

open Text (balanced_iff_scan)

def Value.Balanced (v : Value) : Prop := Ensures Text.Balanced v.toText

namespace Value

theorem balanced_text {s : String} : Value.Balanced (.text s) ↔ Text.Balanced s := by
  constructor
  · intro balanced
    exact balanced s rfl
  · intro balanced
    exact .pure balanced

theorem Balanced.asText {v : Value} (balanced : v.Balanced) (operation : String) :
    Ensures Text.Balanced (v.asText operation) := by
  cases v with
  | text s => exact balanced
  | _ => exact .error _

theorem Balanced.requireText {v : Value} (balanced : v.Balanced) (message argument : String) :
    Ensures Text.Balanced (v.requireText message argument) := by
  refine .bind (.any _) fun blank _ => ?_
  split
  · exact .error _
  · exact balanced

theorem Balanced.optionalText {v : Value} (balanced : v.Balanced) :
    Ensures (fun o => ∀ t ∈ o, Text.Balanced t) v.optionalText := by
  unfold Value.optionalText
  split
  · exact .pure (by simp)
  · refine .map balanced fun t shown u member => ?_
    rw [← Option.mem_some.mp member]
    exact shown

theorem balanced_toTexts {vs : List Value} (each : ∀ v ∈ vs, v.Balanced) :
    Ensures (fun ts => ∀ t ∈ ts, Text.Balanced t) (toTexts vs) := by
  induction vs with
  | nil => exact .pure (by simp)
  | cons v rest ih =>
    refine .bind (each v List.mem_cons_self) fun t first => ?_
    refine .bind (ih fun w member => each w (List.mem_cons_of_mem v member)) fun ts others => ?_
    exact .pure (List.forall_mem_cons.mpr ⟨first, others⟩)

theorem balanced_commaText {vs : List Value} (each : ∀ v ∈ vs, v.Balanced) :
    Ensures Text.Balanced (commaText vs) :=
  .bind (balanced_toTexts each) fun _ shown => .pure (Text.balanced_intercalate (by decide) shown)

end Value

namespace Expression

abbrev Balanced (e : Expression) : Prop := Text.Balanced e.value

variable {e : Expression} {v : Value} {vs : List Value}

theorem balanced_ofValue (operand : v.Balanced) : Ensures Balanced (ofValue v) :=
  .bind (operand.requireText _ _) fun _ shown => .pure shown

theorem Balanced.followedBy (balanced : e.Balanced) {mark : String} (fixed : Text.Balanced mark)
    (operand : v.Balanced) : Ensures Balanced (e.followedBy mark v) :=
  .bind operand fun _ shown => .pure ((balanced.append fixed).append shown)

theorem Balanced.calledBy (balanced : e.Balanced) {mark : String} (fixed : Text.Balanced mark)
    (method : v.Balanced) (operands : ∀ v ∈ vs, v.Balanced) :
    Ensures Balanced (e.calledBy mark v vs) := by
  refine .bind method fun name named =>
    .bind (Value.balanced_commaText operands) fun inner joined => .pure ?_
  rw [Balanced, balanced_iff_scan]
  simp [balanced, fixed, named, joined]

theorem Balanced.invoke (balanced : e.Balanced) (operands : ∀ v ∈ vs, v.Balanced) :
    Ensures Balanced (e.invoke vs) := by
  refine .bind (Value.balanced_commaText operands) fun inner joined => .pure ?_
  rw [Balanced, balanced_iff_scan]
  simp [balanced, joined]

theorem Balanced.index (balanced : e.Balanced) (key : v.Balanced) :
    Ensures Balanced (e.index v) := by
  refine .bind key fun text shown => .pure ?_
  rw [Balanced, balanced_iff_scan]
  simp [balanced, shown]

theorem Balanced.optionalIndex (balanced : e.Balanced) (key : v.Balanced) :
    Ensures Balanced (e.optionalIndex v) := by
  refine .bind key fun text shown => .pure ?_
  rw [Balanced, balanced_iff_scan]
  simp [balanced, shown]

theorem Balanced.binary (balanced : e.Balanced) (o : Operator) (operand : v.Balanced) :
    Ensures Balanced (e.binary o v) := by
  refine balanced.followedBy ?_ operand
  cases o <;> decide

theorem Balanced.unary (balanced : e.Balanced) (form : Form) : (e.unary form).Balanced := by
  rw [Balanced, balanced_iff_scan]
  cases form <;> simp [Expression.unary, balanced]

theorem Balanced.template {w : Value} (balanced : e.Balanced) (before : v.Balanced)
    (behind : w.Balanced) : Ensures Balanced (e.template v w) := by
  refine .bind before fun left front => .bind behind fun right back => .pure ?_
  rw [Balanced, balanced_iff_scan]
  simp [balanced, front, back]

end Expression

namespace TypeExpr

abbrev Balanced (t : TypeExpr) : Prop := Text.Balanced t.value

variable {t : TypeExpr} {v : Value} {vs : List Value}

theorem balanced_describe (balanced : t.Balanced) : t.describe.Balanced := .pure balanced

theorem balanced_ofValue (operand : v.Balanced) : Ensures Balanced (ofValue v) :=
  .bind (operand.requireText _ _) fun _ shown => .pure shown

theorem Balanced.apply (balanced : t.Balanced) (operands : ∀ v ∈ vs, v.Balanced) :
    Ensures Balanced (t.apply vs) := by
  unfold TypeExpr.apply
  split
  · exact .error _
  · refine .bind (Value.balanced_commaText operands) fun inner joined => .pure ?_
    rw [Balanced, balanced_iff_scan]
    simp [balanced, joined]

theorem balanced_combine (noun : String) {sign : String} (fixed : Text.Balanced sign)
    (operands : ∀ v ∈ vs, v.Balanced) : Ensures Balanced (combine noun sign vs) := by
  unfold combine
  split
  · exact .error _
  · exact .bind (Value.balanced_toTexts operands) fun _ shown =>
      .pure (Text.balanced_intercalate fixed shown)

theorem balanced_union (operands : ∀ v ∈ vs, v.Balanced) : Ensures Balanced (union vs) :=
  balanced_combine _ (by decide) operands

theorem balanced_intersection (operands : ∀ v ∈ vs, v.Balanced) :
    Ensures Balanced (intersection vs) :=
  balanced_combine _ (by decide) operands

theorem balanced_tuple (operands : ∀ v ∈ vs, v.Balanced) : Ensures Balanced (tuple vs) := by
  unfold tuple
  split
  · exact .error _
  · refine .bind (Value.balanced_commaText operands) fun inner joined => .pure ?_
    rw [Balanced, balanced_iff_scan]
    simp [joined]

theorem balanced_namedElements
    (types : ∀ v ∈ vs, ∀ type name, v.unpackPair = .ok (type, name) → type.Balanced)
    (names : ∀ v ∈ vs, ∀ type name, v.unpackPair = .ok (type, name) → name.Balanced) :
    Ensures (fun ts => ∀ t ∈ ts, Text.Balanced t) (namedElements vs) := by
  induction vs with
  | nil => exact .pure (by simp)
  | cons v rest ih =>
    have pair : Ensures (fun p => p.1.Balanced ∧ p.2.Balanced) v.unpackPair := by
      rintro ⟨type, name⟩ given
      exact ⟨types v List.mem_cons_self type name given, names v List.mem_cons_self type name given⟩
    have others := ih (fun w member => types w (List.mem_cons_of_mem v member))
      (fun w member => names w (List.mem_cons_of_mem v member))
    refine .bind pair fun (type, name) both => ?_
    refine .bind both.2 fun nameText named => .bind both.1 fun typeText typed => ?_
    refine .bind others fun more joined => .pure ?_
    have first : Text.Balanced (nameText ++ ": " ++ typeText) := by
      rw [balanced_iff_scan]
      simp [named, typed]
    exact List.forall_mem_cons.mpr ⟨first, joined⟩

theorem balanced_namedTuple
    (types : ∀ v ∈ vs, ∀ type name, v.unpackPair = .ok (type, name) → type.Balanced)
    (names : ∀ v ∈ vs, ∀ type name, v.unpackPair = .ok (type, name) → name.Balanced) :
    Ensures Balanced (namedTuple vs) := by
  unfold namedTuple
  split
  · exact .error _
  · refine .bind (balanced_namedElements types names) fun elements each => .pure ?_
    have inner : Text.Balanced (", ".intercalate elements) :=
      Text.balanced_intercalate (by decide) each
    rw [Balanced, balanced_iff_scan]
    simp [inner, -String.toList_intercalate]

theorem balanced_literal (operand : v.Balanced) : Ensures Balanced (literal v) := by
  refine .bind operand fun text shown => .pure ?_
  rw [Balanced, balanced_iff_scan]
  simp [shown]

theorem balanced_plainLiteral (operand : v.Balanced) : Ensures Balanced (plainLiteral v) :=
  .bind operand fun _ shown => .pure shown

theorem Balanced.unary (balanced : t.Balanced) (form : Form) : (t.unary form).Balanced := by
  rw [Balanced, balanced_iff_scan]
  cases form <;> simp [TypeExpr.unary, balanced]

theorem Balanced.new (balanced : t.Balanced) (operands : ∀ v ∈ vs, v.Balanced) :
    Ensures Expression.Balanced (t.new vs) := by
  have head : Expression.Balanced ⟨"new " ++ t.value⟩ := Text.Balanced.append (by decide) balanced
  exact head.invoke operands

end TypeExpr

namespace Annotation

mutual

def Balanced : Annotation → Prop
  | .none => True
  | .any => True
  | .ellipsis => True
  | .ofClass c => Text.Balanced c.name
  | .bare _ origin => Text.Balanced origin.name
  | .applied _ origin arguments => Text.Balanced origin.name ∧ AllBalanced arguments
  | .union _ members => AllBalanced members
  | .literal values => ∀ s, LiteralValue.text s ∈ values → Text.Balanced s
  | .text s => Text.Balanced s
  | .forward s => Text.Balanced s
  | .parameters types => AllBalanced types
  | .typeVariable _ name => Text.Balanced name

def AllBalanced : List Annotation → Prop
  | [] => True
  | a :: rest => Balanced a ∧ AllBalanced rest

end

theorem balanced_classType {c : ClassRef} (named : Text.Balanced c.name) :
    (classType c).Balanced := by
  unfold classType
  split
  case h_1 t found =>
    unfold primitive? at found
    split at found
    all_goals cases found
    all_goals decide
  case h_2 =>
    split
    · decide
    · decide
    · decide
    · split
      · decide
      · exact named
    · exact named
    · exact named

theorem balanced_element {t : TypeExpr} (balanced : t.Balanced) : (element t).Balanced := by
  unfold element
  split
  · exact balanced.unary .bracketed
  · exact balanced

private theorem balanced_describes {ts : List TypeExpr} (each : ∀ t ∈ ts, t.Balanced) :
    ∀ v ∈ ts.map TypeExpr.describe, v.Balanced := by
  intro v member
  obtain ⟨t, present, rfl⟩ := List.mem_map.mp member
  exact TypeExpr.balanced_describe (each t present)

theorem balanced_unionType {ts : List TypeExpr} (each : ∀ t ∈ ts, t.Balanced) :
    Ensures TypeExpr.Balanced (unionType ts) := by
  unfold unionType
  split
  case h_1 t => exact .pure (each t List.mem_cons_self)
  case h_2 => exact TypeExpr.balanced_union (balanced_describes each)

theorem balanced_applyTo {name : TypeExpr} (named : name.Balanced) {ts : List TypeExpr}
    (each : ∀ t ∈ ts, t.Balanced) : Ensures TypeExpr.Balanced (applyTo name ts) :=
  named.apply (balanced_describes each)

theorem balanced_literalType {v : LiteralValue} (texts : ∀ s, v = .text s → Text.Balanced s) :
    Ensures TypeExpr.Balanced (literalType v) := by
  cases v with
  | text s => exact TypeExpr.balanced_literal (Value.balanced_text.mpr (texts s rfl))
  | bool b =>
    apply TypeExpr.balanced_plainLiteral
    cases b with
    | true => exact Value.balanced_text.mpr (by decide)
    | false => exact Value.balanced_text.mpr (by decide)
  | int n => exact TypeExpr.balanced_plainLiteral (.pure (Text.balanced_intText n))
  | none =>
    have shown : Text.Balanced "None" := by decide
    exact TypeExpr.balanced_plainLiteral (.pure shown)

theorem balanced_literalTypes {values : List LiteralValue}
    (texts : ∀ s, LiteralValue.text s ∈ values → Text.Balanced s) :
    Ensures (fun ts => ∀ t ∈ ts, t.Balanced) (literalTypes values) := by
  induction values with
  | nil => exact .pure (by simp)
  | cons v rest ih =>
    have first := balanced_literalType (v := v) fun s same => texts s (same ▸ List.mem_cons_self)
    have others := ih fun s member => texts s (List.mem_cons_of_mem v member)
    exact .bind first fun _ one => .bind others fun _ more =>
      .pure (List.forall_mem_cons.mpr ⟨one, more⟩)

mutual

theorem balanced_toType : (a : Annotation) → a.Balanced → Ensures TypeExpr.Balanced (toType a)
  | .none, _ => .pure (by decide)
  | .any, _ => .pure (by decide)
  | .ellipsis, _ => .pure (by decide)
  | .ofClass _, named => .pure (balanced_classType named)
  | .bare _ origin, named => by
    unfold toType
    split
    · exact .pure (by decide)
    · exact .pure (by decide)
    · exact .pure (balanced_classType named)
    · exact .error _
    · exact .error _
    · exact .error _
  | .applied _ origin arguments, ⟨named, within⟩ => by
    unfold toType
    have first := balanced_firstType arguments within
    have all := balanced_toTypes arguments within
    have array : Ensures TypeExpr.Balanced (do
        return (element (← firstType arguments)).unary .array) :=
      .bind first fun _ balanced => .pure ((balanced_element balanced).unary .array)
    split
    · split
      · exact array
      · split
        · exact .pure (by decide)
        · exact .bind all fun _ each => TypeExpr.balanced_tuple (balanced_describes each)
    · refine .bind (balanced_lastType arguments within) fun t balanced => ?_
      exact balanced_applyTo (by decide) (List.forall_mem_singleton.mpr balanced)
    · exact balanced_recordType arguments within
    · refine .bind first fun t balanced => ?_
      exact balanced_applyTo (by decide) (List.forall_mem_singleton.mpr balanced)
    · exact array
    · split
      · exact .pure (balanced_classType named)
      · exact .bind all fun _ each => balanced_applyTo (balanced_classType named) each
  | .union _ members, within => by
    unfold toType
    refine .bind (balanced_toTypesPresent members within) fun ts each => ?_
    refine .bind (balanced_unionType each) fun t balanced => .pure ?_
    split
    · exact balanced.unary .nullable
    · exact balanced
  | .literal _, texts => by
    unfold toType
    exact .bind (balanced_literalTypes texts) fun _ each => balanced_unionType each
  | .text _, balanced => .pure balanced
  | .forward s, balanced => by
    have shown : Text.Balanced (Text.quoted s) := (Text.alike_quoted s).balanced balanced
    refine .pure ?_
    rw [TypeExpr.Balanced, balanced_iff_scan]
    simp [shown]
  | .parameters _, _ => .error _
  | .typeVariable _ _, named => .pure named

theorem balanced_toTypes : (as : List Annotation) → AllBalanced as →
    Ensures (fun ts => ∀ t ∈ ts, t.Balanced) (toTypes as)
  | [], _ => .pure (by simp)
  | a :: rest, ⟨one, others⟩ => by
    unfold toTypes
    exact .bind (balanced_toType a one) fun _ first =>
      .bind (balanced_toTypes rest others) fun _ more =>
        .pure (List.forall_mem_cons.mpr ⟨first, more⟩)

theorem balanced_toTypesPresent : (as : List Annotation) → AllBalanced as →
    Ensures (fun ts => ∀ t ∈ ts, t.Balanced) (toTypesPresent as)
  | [], _ => .pure (by simp)
  | a :: rest, ⟨one, others⟩ => by
    unfold toTypesPresent
    split
    · exact balanced_toTypesPresent rest others
    · exact .bind (balanced_toType a one) fun _ first =>
        .bind (balanced_toTypesPresent rest others) fun _ more =>
          .pure (List.forall_mem_cons.mpr ⟨first, more⟩)

theorem balanced_recordType : (as : List Annotation) → AllBalanced as →
    Ensures TypeExpr.Balanced (recordType as)
  | [], _ => .error _
  | [_], _ => .bind (.any _) fun _ _ => .error _
  | k :: v :: _, ⟨key, value, _⟩ => by
    unfold recordType
    refine .bind (balanced_toType k key) fun keyType keyed => ?_
    refine .bind (balanced_toType v value) fun valueType valued => ?_
    exact balanced_applyTo (by decide) (by simp [keyed, valued])

theorem balanced_firstType : (as : List Annotation) → AllBalanced as →
    Ensures TypeExpr.Balanced (firstType as)
  | [], _ => .error _
  | a :: _, ⟨one, _⟩ => balanced_toType a one

theorem balanced_lastType : (as : List Annotation) → AllBalanced as →
    Ensures TypeExpr.Balanced (lastType as)
  | [], _ => .pure (by decide)
  | [a], ⟨one, _⟩ => balanced_toType a one
  | _ :: next :: rest, ⟨_, others⟩ => balanced_lastType (next :: rest) others

end

theorem balanced_typeOfValue {v : Value} (operand : v.Balanced) :
    Ensures TypeExpr.Balanced (typeOfValue v) := by
  unfold typeOfValue
  split
  · exact .pure (by decide)
  · split
    · exact .error _
    · exact .bind operand fun _ shown => .pure shown

end Annotation

end TypeScriptGen
