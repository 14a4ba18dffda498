import Mathlib.Logic.Relation
import TypeScriptGen.Proofs.TypeStructure

/-!
Which annotations have a type. The type of an annotation is put together from those of its parts,
and generics use their arguments, some of them without a look whether they are there. Main
statement: an annotation has a type exactly if no generic with too few arguments is reached on the
way down; if one is, the outcome is the fault of a missing argument.
-/

set_option autoImplicit false
set_option relaxedAutoImplicit false

namespace TypeScriptGen.Annotation

/-- The number of arguments that are used without a look whether they are there. -/
def Role.needs : Role → Nat
  | .mapping => 2
  | .set => 1
  | .sequence => 1
  | .tuple => 0
  | .awaitable => 0
  | .other => 0

/-- A generic with fewer arguments than are used. One that is not subscripted has none. -/
def FallsShort : Annotation → Prop
  | .bare _ c => 0 < (role c).needs
  | .applied _ c arguments => arguments.length < (role c).needs
  | _ => False

/-- The annotations whose types the type of an annotation is put together from. -/
def parts : Annotation → List Annotation
  | .applied _ c arguments =>
    match role c with
    | .tuple => if isVariadic arguments then arguments.take 1 else arguments
    | .awaitable => arguments.getLast?.toList
    | .mapping => arguments.take 2
    | .set => arguments.take 1
    | .sequence => arguments.take 1
    | .other => arguments
  | .union _ members => members.filter fun a => !isNoneClass a
  | _ => []

/-- The type of the one annotation is put together from that of the other, over any number of
steps. -/
def Reaches : Annotation → Annotation → Prop := Relation.ReflTransGen fun a b => b ∈ parts a

/-- The annotations that are put together from classes, nothing, names and literals by generics and
unions, to any depth. A generic may have any number of arguments. -/
inductive Supported : Annotation → Prop where
  | none : Supported .none
  | any : Supported .any
  | ellipsis : Supported .ellipsis
  | ofClass (c : ClassRef) : Supported (.ofClass c)
  | bare (form : String) (c : ClassRef) : Supported (.bare form c)
  | applied (spelling : Spelling) (c : ClassRef) {arguments : List Annotation} :
    (∀ a ∈ arguments, Supported a) → Supported (.applied spelling c arguments)
  | union (spelling : Spelling) {members : List Annotation} : (∀ a ∈ members, Supported a) →
    (∃ a ∈ members, isNoneClass a = false) → Supported (.union spelling members)
  | literal {values : List LiteralValue} : values ≠ [] → Supported (.literal values)
  | text (s : String) : Supported (.text s)
  | forward (s : String) : Supported (.forward s)
  | typeVariable (serial : Nat) (name : String) : Supported (.typeVariable serial name)

/-! Steps that give a value under a condition. -/

/-- The step gives a value if `P` holds, and fails for want of an argument if it does not. -/
structure AnswersIf {α : Type} (P : Prop) (x : Except Fault α) : Prop where
  value : P → Succeeds x
  missing : ¬ P → x = .error noArgument

namespace AnswersIf

variable {α β : Type} {P Q : Prop}

theorem of_ok (a : α) (holds : P) : AnswersIf P (Except.ok a) :=
  ⟨fun _ => ⟨a, rfl⟩, fun fails => absurd holds fails⟩

theorem of_missing (fails : ¬ P) : AnswersIf P (Except.error noArgument : Except Fault α) :=
  ⟨fun holds => absurd holds fails, fun _ => rfl⟩

theorem congr {x : Except Fault α} (answers : AnswersIf P x) (same : Q ↔ P) : AnswersIf Q x :=
  ⟨fun holds => answers.value (same.mp holds), fun fails => answers.missing (mt same.mpr fails)⟩

theorem bind {x : Except Fault α} {k : α → Except Fault β} (first : AnswersIf P x)
    (rest : ∀ a, x = .ok a → AnswersIf Q (k a)) : AnswersIf (P ∧ Q) (x >>= k) := by
  by_cases holds : P
  case pos =>
    obtain ⟨a, done⟩ := first.value holds
    rw [done]
    exact (rest a done).congr (and_iff_right holds)
  case neg =>
    rw [first.missing holds]
    exact of_missing fun both => holds both.1

theorem andThen {x : Except Fault α} {k : α → Except Fault β} (first : AnswersIf P x)
    (rest : ∀ a, x = .ok a → Succeeds (k a)) : AnswersIf P (x >>= k) := by
  have last : ∀ a, x = .ok a → AnswersIf True (k a) := fun a done =>
    ⟨fun _ => rest a done, fun fails => absurd trivial fails⟩
  exact (first.bind last).congr (and_true P).symm.to_iff

theorem thenMissing {x : Except Fault α} {k : α → Except Fault β} (first : AnswersIf P x)
    (rest : ∀ a, k a = .error noArgument) (fails : ¬ Q) : AnswersIf Q (x >>= k) := by
  have last : ∀ a, x = .ok a → AnswersIf False (k a) := fun a _ => by
    rw [rest a]
    exact of_missing not_false
  exact (first.bind last).congr ⟨fun holds => absurd holds fails, fun both => both.2.elim⟩

end AnswersIf

/-! The parts. -/

variable {P : Annotation → Prop} {as : List Annotation}

private theorem length_toTypes {types : List TypeExpr} (done : toTypes as = .ok types) :
    types.length = as.length := by
  induction as generalizing types with
  | nil =>
    cases done
    rfl
  | cons a rest ih =>
    obtain ⟨t, _, done⟩ := Step.bind_eq_ok.mp done
    obtain ⟨more, others, done⟩ := Step.bind_eq_ok.mp done
    cases done
    rw [List.length_cons, List.length_cons, ih others]

private theorem answers_toTypes (each : ∀ a ∈ as, AnswersIf (P a) (toType a)) :
    AnswersIf (∀ a ∈ as, P a) (toTypes as) := by
  induction as with
  | nil => exact .of_ok [] nofun
  | cons a rest ih =>
    rw [List.forall_mem_cons] at each
    have both := each.1.bind fun t _ =>
      (ih each.2).andThen (k := fun more => pure (t :: more)) fun _ _ => .pure _
    exact both.congr List.forall_mem_cons

private theorem toTypesPresent_eq (as : List Annotation) :
    toTypesPresent as = toTypes (as.filter fun a => !isNoneClass a) := by
  induction as with
  | nil => rfl
  | cons a rest ih =>
    rw [toTypesPresent]
    split
    case isTrue absent => rw [List.filter_cons_of_neg (by simp [absent]), ih]
    case isFalse present => rw [List.filter_cons_of_pos (by simp [present]), toTypes, ih]

private theorem lastType_eq (filled : as ≠ []) : lastType as = toType (as.getLast filled) := by
  induction as with
  | nil => exact absurd rfl filled
  | cons a rest ih =>
    cases rest with
    | nil => rfl
    | cons b rest => exact ih (List.cons_ne_nil b rest)

private theorem answers_firstType (each : ∀ a ∈ as.take 1, AnswersIf (P a) (toType a)) :
    AnswersIf (¬ as.length < 1 ∧ ∀ a ∈ as.take 1, P a) (firstType as) := by
  cases as with
  | nil => exact .of_missing fun both => both.1 Nat.zero_lt_one
  | cons a rest =>
    have first : AnswersIf (P a) (firstType (a :: rest)) := each a List.mem_cons_self
    exact first.congr (by simp)

private theorem answers_lastType (each : ∀ a ∈ as.getLast?.toList, AnswersIf (P a) (toType a)) :
    AnswersIf (∀ a ∈ as.getLast?.toList, P a) (lastType as) := by
  by_cases filled : as = []
  case pos =>
    subst filled
    exact .of_ok _ nofun
  case neg =>
    rw [List.getLast?_eq_some_getLast filled, Option.toList_some, List.forall_mem_singleton] at *
    rw [lastType_eq filled]
    exact each

private theorem succeeds_applyTo (name : TypeExpr) {ts : List TypeExpr} (filled : ts ≠ []) :
    Succeeds (applyTo name ts) := by
  obtain ⟨t, rest, rfl⟩ := List.exists_cons_of_ne_nil filled
  rw [applyTo, TypeExpr.apply, Value.commaText, toTexts_describe]
  exact ⟨_, rfl⟩

private theorem succeeds_tuple {ts : List TypeExpr} (filled : ts ≠ []) :
    Succeeds (TypeExpr.tuple (ts.map TypeExpr.describe)) := by
  obtain ⟨t, rest, rfl⟩ := List.exists_cons_of_ne_nil filled
  rw [TypeExpr.tuple, Value.commaText, toTexts_describe]
  exact ⟨_, rfl⟩

private theorem answers_recordType (each : ∀ a ∈ as.take 2, AnswersIf (P a) (toType a)) :
    AnswersIf (¬ as.length < 2 ∧ ∀ a ∈ as.take 2, P a) (recordType as) := by
  match as with
  | [] => exact .of_missing fun both => both.1 Nat.zero_lt_two
  | [k] =>
    -- The key is looked at first: it has a type, or is itself where an argument is missing.
    exact (each k List.mem_cons_self).thenMissing (fun _ => rfl) fun both => both.1 Nat.one_lt_two
  | k :: v :: rest =>
    have key := each k List.mem_cons_self
    have value := each v (List.mem_cons_of_mem k List.mem_cons_self)
    have both := key.bind fun t _ => value.andThen fun u _ =>
      succeeds_applyTo ⟨"Record"⟩ (List.cons_ne_nil t [u])
    exact both.congr (by simp)

private theorem succeeds_literalTypes (values : List LiteralValue) :
    ∃ ts, literalTypes values = .ok ts ∧ ts.length = values.length := by
  induction values with
  | nil => exact ⟨[], rfl, rfl⟩
  | cons v rest ih =>
    obtain ⟨ts, done, length⟩ := ih
    obtain ⟨t, first⟩ : Succeeds (literalType v) := by
      cases v with
      | text s => exact ⟨_, rfl⟩
      | int n => exact ⟨_, rfl⟩
      | bool b => cases b <;> exact ⟨_, rfl⟩
      | none => exact ⟨_, rfl⟩
    refine ⟨t :: ts, ?_, congrArg Nat.succ length⟩
    rw [literalTypes, first, done]
    rfl

/-! One step down. -/

private theorem answers_someTypes {t : TypeExpr} {k : List TypeExpr → Except Fault TypeExpr}
    (each : ∀ a ∈ as, AnswersIf (P a) (toType a)) (rest : ∀ ts, ts ≠ [] → Succeeds (k ts)) :
    AnswersIf (∀ a ∈ as, P a) (if as.isEmpty then .ok t else toTypes as >>= k) := by
  cases as with
  | nil => exact .of_ok _ nofun
  | cons a more =>
    refine (answers_toTypes each).andThen fun ts done => rest ts ?_
    exact List.ne_nil_of_length_eq_add_one (length_toTypes done)

private theorem answers_applied (spelling : Spelling) (c : ClassRef)
    (each : ∀ a ∈ parts (.applied spelling c as), AnswersIf (P a) (toType a)) :
    AnswersIf (¬ FallsShort (.applied spelling c as) ∧ ∀ a ∈ parts (.applied spelling c as), P a)
      (toType (.applied spelling c as)) := by
  rw [FallsShort]
  cases kind : role c with
  | tuple =>
    refine .congr ?_ (and_iff_right (Nat.not_lt_zero _))
    rw [toType, kind]
    simp only [parts, kind] at each ⊢
    split
    case isTrue variadic =>
      rw [if_pos variadic] at each
      have used : ¬ as.length < 1 := by
        rintro short
        cases List.length_eq_zero_iff.mp (Nat.lt_one_iff.mp short)
        cases variadic
      exact ((answers_firstType each).andThen fun _ _ => .pure _).congr (and_iff_right used).symm
    case isFalse fixed =>
      rw [if_neg fixed] at each
      exact answers_someTypes each fun _ filled => succeeds_tuple filled
  | awaitable =>
    refine .congr ?_ (and_iff_right (Nat.not_lt_zero _))
    rw [toType, kind]
    simp only [parts, kind] at each ⊢
    exact (answers_lastType each).andThen fun t _ => succeeds_applyTo _ (List.cons_ne_nil t [])
  | mapping =>
    rw [toType, kind]
    simp only [parts, kind] at each ⊢
    exact answers_recordType each
  | set =>
    rw [toType, kind]
    simp only [parts, kind] at each ⊢
    exact (answers_firstType each).andThen fun t _ => succeeds_applyTo _ (List.cons_ne_nil t [])
  | sequence =>
    rw [toType, kind]
    simp only [parts, kind] at each ⊢
    exact (answers_firstType each).andThen fun _ _ => .pure _
  | other =>
    refine .congr ?_ (and_iff_right (Nat.not_lt_zero _))
    rw [toType, kind]
    simp only [parts, kind] at each ⊢
    exact answers_someTypes each fun _ filled => succeeds_applyTo _ filled

private theorem answers_bare (form : String) (c : ClassRef) :
    AnswersIf (¬ FallsShort (.bare form c)) (toType (.bare form c)) := by
  rw [toType, FallsShort]
  cases role c with
  | tuple => exact .of_ok _ (Nat.not_lt_zero 0)
  | awaitable => exact .of_ok _ (Nat.not_lt_zero 0)
  | other => exact .of_ok _ (Nat.not_lt_zero 0)
  | mapping => exact .of_missing (not_not_intro Nat.zero_lt_two)
  | set => exact .of_missing (not_not_intro Nat.zero_lt_one)
  | sequence => exact .of_missing (not_not_intro Nat.zero_lt_one)

/-- A union needs the types of its members. One of them says something, so there is a type. -/
private theorem answers_union (spelling : Spelling) (present : ∃ a ∈ as, isNoneClass a = false)
    (each : ∀ a ∈ parts (.union spelling as), AnswersIf (P a) (toType a)) :
    AnswersIf (∀ a ∈ parts (.union spelling as), P a) (toType (.union spelling as)) := by
  rw [toType, toTypesPresent_eq]
  refine (answers_toTypes each).andThen fun ts done => ?_
  have filled : ts ≠ [] := by
    obtain ⟨a, member, real⟩ := present
    have kept : a ∈ as.filter fun a => !isNoneClass a :=
      List.mem_filter.mpr ⟨member, congrArg not real⟩
    refine List.ne_nil_of_length_pos ?_
    rw [length_toTypes done]
    exact List.length_pos_of_mem kept
  rw [unionType_eq filled]
  exact .pure _

private theorem succeeds_literal {values : List LiteralValue} (present : values ≠ []) :
    Succeeds (toType (.literal values)) := by
  obtain ⟨ts, done, length⟩ := succeeds_literalTypes values
  have filled : ts ≠ [] := by
    rintro rfl
    exact present (List.eq_nil_of_length_eq_zero length.symm)
  rw [toType, done]
  exact ⟨_, unionType_eq filled⟩

/-! Any number of steps down. -/

private theorem forall_reaches {a : Annotation} {Q : Annotation → Prop} :
    (∀ b, Reaches a b → Q b) ↔ Q a ∧ ∀ b ∈ parts a, ∀ d, Reaches b d → Q d := by
  constructor
  · exact fun all => ⟨all a .refl, fun b part d further => all d (.head part further)⟩
  · rintro ⟨own, below⟩ d reached
    obtain rfl | ⟨b, part, further⟩ := Relation.ReflTransGen.cases_head reached
    · exact own
    · exact below b part d further

private theorem answers_whole {a : Annotation} (whole : parts a = [])
    (own : AnswersIf (¬ FallsShort a) (toType a)) :
    AnswersIf (∀ b, Reaches a b → ¬ FallsShort b) (toType a) := by
  refine own.congr (forall_reaches.trans (and_iff_left ?_))
  rw [whole]
  nofun

private theorem mem_of_mem_parts {spelling : Spelling} {c : ClassRef} {b : Annotation}
    (part : b ∈ parts (.applied spelling c as)) : b ∈ as := by
  rw [parts] at part
  cases kind : role c with
  | tuple =>
    simp only [kind] at part
    split at part
    · exact List.mem_of_mem_take part
    · exact part
  | awaitable =>
    simp only [kind] at part
    exact List.mem_of_getLast? (Option.mem_toList.mp part)
  | mapping =>
    simp only [kind] at part
    exact List.mem_of_mem_take part
  | set =>
    simp only [kind] at part
    exact List.mem_of_mem_take part
  | sequence =>
    simp only [kind] at part
    exact List.mem_of_mem_take part
  | other =>
    simp only [kind] at part
    exact part

theorem Supported.answers {a : Annotation} (supported : Supported a) :
    AnswersIf (∀ b, Reaches a b → ¬ FallsShort b) (toType a) := by
  induction supported with
  | none => exact answers_whole rfl (.of_ok _ not_false)
  | any => exact answers_whole rfl (.of_ok _ not_false)
  | ellipsis => exact answers_whole rfl (.of_ok _ not_false)
  | ofClass c => exact answers_whole rfl (.of_ok _ not_false)
  | text s => exact answers_whole rfl (.of_ok _ not_false)
  | forward s => exact answers_whole rfl (.of_ok _ not_false)
  | typeVariable serial name => exact answers_whole rfl (.of_ok _ not_false)
  | bare form c => exact answers_whole rfl (answers_bare form c)
  | literal some =>
    exact answers_whole rfl ⟨fun _ => succeeds_literal some, fun fails => absurd not_false fails⟩
  | applied spelling c _ ih =>
    have below := answers_applied spelling c fun a part => ih a (mem_of_mem_parts part)
    exact below.congr forall_reaches
  | union spelling _ present ih =>
    have below := answers_union spelling present fun a part => ih a (List.mem_filter.mp part).1
    exact below.congr (forall_reaches.trans (and_iff_right not_false))

/-! Unions are supported as they are built. -/

private def gather (kept : List Annotation) (a : Annotation) : List Annotation :=
  if kept.any (same a) then kept else kept ++ [a]

/-- Each of the annotations satisfies `P`, and none equals an earlier one. -/
private structure Gathered (P : Annotation → Prop) (kept : List Annotation) : Prop where
  each : ∀ a ∈ kept, P a
  apart : kept.Pairwise fun earlier a => same a earlier = false

private theorem Gathered.step {kept : List Annotation} (gathered : Gathered P kept)
    {a : Annotation} (holds : P a) : Gathered P (gather kept a) := by
  unfold gather
  split
  case isTrue => exact gathered
  case isFalse unknown =>
    constructor
    · intro b member
      rcases List.mem_append.mp member with old | new
      · exact gathered.each b old
      · exact List.mem_singleton.mp new ▸ holds
    · refine List.pairwise_append.mpr ⟨gathered.apart, List.pairwise_singleton _ a, ?_⟩
      intro earlier old b new
      cases List.mem_singleton.mp new
      simp only [List.any_eq_true, not_exists, not_and, Bool.not_eq_true] at unknown
      exact unknown earlier old

private theorem Gathered.run {kept : List Annotation} (gathered : Gathered P kept)
    (each : ∀ a ∈ as, P a) : Gathered P (as.foldl gather kept) := by
  induction as generalizing kept with
  | nil => exact gathered
  | cons a rest ih =>
    rw [List.forall_mem_cons] at each
    exact ih (gathered.step each.1) each.2

private theorem gather_ne_nil (kept : List Annotation) (a : Annotation) : gather kept a ≠ [] := by
  unfold gather
  split
  case isTrue known =>
    rintro rfl
    cases known
  case isFalse => exact List.append_ne_nil_of_right_ne_nil _ (List.cons_ne_nil a [])

private theorem foldl_gather_ne_nil {kept : List Annotation} (filled : kept ≠ []) :
    as.foldl gather kept ≠ [] := by
  induction as generalizing kept with
  | nil => exact filled
  | cons a rest ih => exact ih (gather_ne_nil kept a)

private theorem distinct_ne_nil (filled : as ≠ []) : distinct as ≠ [] := by
  obtain ⟨a, rest, rfl⟩ := List.exists_cons_of_ne_nil filled
  have more : rest.foldl gather (gather [] a) ≠ [] := foldl_gather_ne_nil (gather_ne_nil [] a)
  exact more

private theorem gathered_distinct (each : ∀ a ∈ as, P a) : Gathered P (distinct as) :=
  Gathered.run ⟨nofun, .nil⟩ each

private theorem Gathered.present {a b : Annotation} {rest : List Annotation}
    (gathered : Gathered P (a :: b :: rest)) :
    ∃ d ∈ a :: b :: rest, isNoneClass d = false := by
  by_contra absent
  have nothing : ∀ d ∈ a :: b :: rest, d = .ofClass noneClass := by
    intro d member
    have isNone : isNoneClass d = true := by
      by_contra real
      exact absent ⟨d, member, Bool.eq_false_iff.mpr real⟩
    unfold isNoneClass at isNone
    split at isNone
    · rw [eq_of_beq isNone]
    · cases isNone
  have apart := List.rel_of_pairwise_cons gathered.apart List.mem_cons_self
  rw [nothing a List.mem_cons_self, nothing b (List.mem_cons_of_mem a List.mem_cons_self)] at apart
  exact absurd apart (by decide +kernel)

private theorem supported_classOfNone {a : Annotation} (supported : Supported a) :
    Supported (classOfNone a) := by
  unfold classOfNone
  split
  · exact .ofClass noneClass
  · exact supported

private theorem supported_members {a : Annotation} (supported : Supported a) :
    members a ≠ [] ∧ ∀ b ∈ members a, Supported b := by
  unfold members
  split
  case h_1 =>
    cases supported with
    | union _ each present =>
      obtain ⟨b, member, _⟩ := present
      exact ⟨List.ne_nil_of_mem member, each⟩
  case h_2 => exact ⟨List.cons_ne_nil a [], List.forall_mem_singleton.mpr supported⟩

theorem Supported.unionOf (spelling : Spelling) (present : as ≠ []) (each : ∀ a ∈ as, Supported a) :
    Supported (unionOf spelling as) := by
  have flat : ∀ b ∈ as.flatMap fun a => members (classOfNone a), Supported b := by
    intro b member
    obtain ⟨a, among, inside⟩ := List.mem_flatMap.mp member
    exact (supported_members (supported_classOfNone (each a among))).2 b inside
  have filled : as.flatMap (fun a => members (classOfNone a)) ≠ [] := by
    obtain ⟨a, rest, rfl⟩ := List.exists_cons_of_ne_nil present
    have first := supported_members (supported_classOfNone (each a List.mem_cons_self))
    exact List.append_ne_nil_of_left_ne_nil first.1 _
  have gathered := gathered_distinct flat
  have nonempty := distinct_ne_nil filled
  unfold Annotation.unionOf
  split
  case h_1 a single => exact gathered.each a (single ▸ List.mem_singleton_self a)
  case h_2 ms more =>
    obtain ⟨a, rest, listed⟩ := List.exists_cons_of_ne_nil nonempty
    rw [listed] at gathered more ⊢
    cases rest with
    | nil => exact absurd rfl (more a)
    | cons b rest => exact .union spelling gathered.each gathered.present

private theorem tuple_of_role {c : ClassRef} (kind : role c = .tuple) : c = builtin "tuple" := by
  obtain ⟨home, name⟩ := c
  cases home with
  | builtin =>
    simp only [role] at kind
    split at kind
    case isTrue known => rw [eq_of_beq known, builtin]
    case isFalse =>
      -- The other built-in classes have other roles.
      (repeat' split at kind) <;> cases kind
  | collections =>
    simp only [role] at kind
    (repeat' split at kind) <;> cases kind
  | program serial => cases kind

theorem toType_bare {form : String} {c : ClassRef} (enough : ¬ FallsShort (.bare form c))
    (plain : role c ≠ .awaitable) : toType (.bare form c) = toType (.ofClass c) := by
  rw [FallsShort] at enough
  cases kind : role c with
  | tuple =>
    rw [toType, toType, kind]
    cases tuple_of_role kind
    rfl
  | awaitable => exact absurd kind plain
  | mapping =>
    rw [kind] at enough
    exact absurd Nat.zero_lt_two enough
  | set =>
    rw [kind] at enough
    exact absurd Nat.zero_lt_one enough
  | sequence =>
    rw [kind] at enough
    exact absurd Nat.zero_lt_one enough
  | other => rw [toType, toType, kind]

/-- Main theorem. An annotation has a type exactly if every generic that its type is put together
from has the arguments that it uses; otherwise the outcome is the fault of a missing argument. A
generic without arguments that uses none has the type of its class, and an awaitable is one of
nothing. -/
theorem toType_succeeds_iff {a : Annotation} (supported : Supported a) :
    (Succeeds (toType a) ↔ ∀ b, Reaches a b → ¬ FallsShort b) ∧
    (toType a = .error noArgument ↔ ∃ b, Reaches a b ∧ FallsShort b) ∧
    (∀ form c, ¬ FallsShort (.bare form c) → role c ≠ .awaitable →
      toType (.bare form c) = toType (.ofClass c)) ∧
    ∀ form c, role c = .awaitable → toType (.bare form c) = .ok ⟨"Promise<void>"⟩ := by
  have answers := supported.answers
  have either : (∃ b, Reaches a b ∧ FallsShort b) ↔ ¬ ∀ b, Reaches a b → ¬ FallsShort b := by
    push Not
    rfl
  refine ⟨⟨?_, answers.value⟩, ⟨?_, ?_⟩, fun form c enough plain => toType_bare enough plain, ?_⟩
  · rintro ⟨type, done⟩
    by_contra short
    rw [answers.missing short] at done
    cases done
  · intro fails
    rw [either]
    intro enough
    obtain ⟨type, done⟩ := answers.value enough
    rw [fails] at done
    cases done
  · exact fun short => answers.missing (either.mp short)
  · intro form c kind
    rw [toType, kind]

/-- Nothing, or what comes of a coroutine. The lists and sets that it takes and gives on the way are
not looked at. -/
private def coroutine : Annotation :=
  unionOf (.typing "Union") [.applied (.typing "Coroutine") (abstractClass "Coroutine")
    [ofName "typing.List", ofName "typing.Set", ofName "typing.Tuple"], .none]

private theorem supported_coroutine : Supported coroutine := by
  refine Supported.unionOf _ (List.cons_ne_nil _ _) ?_
  simp only [List.forall_mem_cons]
  refine ⟨.applied _ _ ?_, .none, nofun⟩
  simp only [List.forall_mem_cons]
  exact ⟨.bare _ _, .bare _ _, .bare _ _, nofun⟩

/-- The theorem at work: the arguments that are used are there, since the text of the type is. -/
theorem toType_succeeds_coroutine :
    toType coroutine = .ok ⟨"Promise<unknown[]> | null"⟩ ∧
    ∀ b, Reaches coroutine b → ¬ FallsShort b := by
  have shown : toType coroutine = .ok ⟨"Promise<unknown[]> | null"⟩ := by decide +kernel
  exact ⟨shown, (toType_succeeds_iff supported_coroutine).1.mp ⟨_, shown⟩⟩

/-- A list without arguments has no type, though its class has one and is supported no less. -/
theorem bare_list_fails :
    Supported (ofName "typing.List") ∧ toType (ofName "typing.List") = .error noArgument ∧
    toType (.ofClass (builtin "list")) = .ok ⟨"unknown[]"⟩ :=
  ⟨.bare "List" (builtin "list"), by decide +kernel, by decide +kernel⟩

end TypeScriptGen.Annotation
