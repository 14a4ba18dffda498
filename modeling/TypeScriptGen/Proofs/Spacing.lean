import Mathlib.Algebra.GroupWithZero.Nat
import Mathlib.Data.List.Chain
import TypeScriptGen.Proofs.Categories

/-!
Empty lines of a declaration. They are separators and nothing else: wherever the indentation can be
seen, a line that shows something is not empty. Main statement: no two empty lines stand side by
side and none at either end, neither of the whole nor of what a class or interface encloses, and
their number is that of the places between categories, between methods and between nested
declarations.
-/

set_option autoImplicit false
set_option relaxedAutoImplicit false

namespace TypeScriptGen

open Rendering Step

/-! Lines with empty ones among them. -/

/-- There are `n` empty lines among these, none of them at either end, and no two side by side. -/
structure Spaced (n : Nat) (ls : List String) : Prop where
  first : ∃ l, ls.head? = some l ∧ l ≠ ""
  last : ∃ l, ls.getLast? = some l ∧ l ≠ ""
  apart : ls.IsChain fun a b => a ≠ "" ∨ b ≠ ""
  count : ls.count "" = n

def AllShown (ls : List String) : Prop := ∀ l ∈ ls, l ≠ ""

namespace AllShown

variable {l : String} {xs ys : List String}

theorem nil : AllShown [] := List.forall_mem_nil _

theorem single (shown : l ≠ "") : AllShown [l] := List.forall_mem_singleton.mpr shown

theorem append (one : AllShown xs) (other : AllShown ys) : AllShown (xs ++ ys) :=
  List.forall_mem_append.mpr ⟨one, other⟩

end AllShown

namespace Spaced

variable {m n : Nat} {xs ys : List String}

theorem of_shown (filled : xs ≠ []) (shown : AllShown xs) : Spaced 0 xs where
  first := ⟨xs.head filled, List.head?_eq_some_head filled, shown _ (List.head_mem filled)⟩
  last := ⟨xs.getLast filled, List.getLast?_eq_some_getLast filled,
    shown _ (List.getLast_mem filled)⟩
  apart := by
    have pairs : xs.Pairwise fun a b => a ≠ "" ∨ b ≠ "" :=
      List.pairwise_of_forall_mem_list fun a member _ _ => .inl (shown a member)
    exact pairs.isChain
  count := List.count_eq_zero.mpr fun member => shown "" member rfl

theorem append (one : Spaced m xs) (other : Spaced n ys) : Spaced (m + n) (xs ++ ys) where
  first := by
    obtain ⟨l, head, shown⟩ := one.first
    exact ⟨l, by rw [List.head?_append, head]; rfl, shown⟩
  last := by
    obtain ⟨l, last, shown⟩ := other.last
    exact ⟨l, by rw [List.getLast?_append, last]; rfl, shown⟩
  apart := by
    refine one.apart.append other.apart fun a last b _ => .inl ?_
    obtain ⟨l, same, shown⟩ := one.last
    cases last.symm.trans same
    exact shown
  count := by rw [List.count_append, one.count, other.count]

theorem gapped (one : Spaced m xs) (other : Spaced n ys) :
    Spaced (m + 1 + n) (xs ++ [""] ++ ys) where
  first := by
    obtain ⟨l, head, shown⟩ := one.first
    exact ⟨l, by rw [List.append_assoc, List.head?_append, head]; rfl, shown⟩
  last := by
    obtain ⟨l, last, shown⟩ := other.last
    exact ⟨l, by rw [List.getLast?_append, last]; rfl, shown⟩
  apart := by
    obtain ⟨before, sameBefore, shownBefore⟩ := one.last
    obtain ⟨after, sameAfter, shownAfter⟩ := other.first
    rw [List.append_assoc]
    refine one.apart.append (.append (List.isChain_singleton _) other.apart ?_) ?_
    · intro a _ b first
      cases first.symm.trans sameAfter
      exact .inr shownAfter
    · intro a last b _
      cases last.symm.trans sameBefore
      exact .inl shownBefore
  count := by
    rw [List.count_append, List.count_append, one.count, other.count]
    rfl

section

variable {ns : List Nat} {blocks : List (List String)} (spaced : List.Forall₂ Spaced ns blocks)
  (filled : blocks ≠ [])
include spaced filled

theorem joined : Spaced (ns.sum + (blocks.length - 1)) ([""].intercalate blocks) := by
  induction spaced with
  | nil => exact absurd rfl filled
  | @cons n block ns blocks first others ih =>
    cases others with
    | nil => simpa [List.intercalate_singleton] using first
    | @cons n' block' ns' blocks' second more =>
      have both := first.gapped (ih (List.cons_ne_nil _ _))
      have total : n + 1 + ((n' :: ns').sum + ((block' :: blocks').length - 1)) =
          (n :: n' :: ns').sum + ((block :: block' :: blocks').length - 1) := by
        simp only [List.sum_cons, List.length_cons]
        omega
      rw [List.intercalate_cons_cons, ← total]
      exact both

theorem adjoined : Spaced ns.sum (List.intercalate [] blocks) := by
  induction spaced with
  | nil => exact absurd rfl filled
  | @cons n block ns blocks first others ih =>
    cases others with
    | nil => simpa [List.intercalate_singleton] using first
    | @cons n' block' ns' blocks' second more =>
      rw [List.intercalate_cons_cons, List.append_nil, List.sum_cons]
      exact first.append (ih (List.cons_ne_nil _ _))

end

end Spaced

namespace Category

/-- The empty lines of a category whose items have `ns` of them. -/
def gapCount (ns : List Nat) (c : Category) : Nat :=
  ns.sum + if c.isSpaced then c.items.length - 1 else 0

theorem spaced_shown {ns : List Nat} {c : Category} (spaced : List.Forall₂ Spaced ns c.items) :
    ∃ ms, List.Forall₂ Spaced ms c.shown ∧ ms.sum = c.gapCount ns := by
  obtain ⟨isSpaced, items⟩ := c
  cases spaced with
  | nil => exact ⟨[], .nil, by cases isSpaced <;> rfl⟩
  | cons first others =>
    have blocks : List.Forall₂ Spaced _ _ := .cons first others
    cases isSpaced with
    | true =>
      exact ⟨[_], .cons (Spaced.joined blocks (List.cons_ne_nil _ _)) .nil, List.sum_singleton⟩
    | false =>
      exact ⟨[_], .cons (Spaced.adjoined blocks (List.cons_ne_nil _ _)) .nil, List.sum_singleton⟩

theorem spaced_joined {nss : List (List Nat)} {cs : List Category}
    (spaced : List.Forall₂ (fun ns c => List.Forall₂ Spaced ns c.items) nss cs) :
    joined cs = [] ∧ cs.flatMap shown = [] ∧ (List.zipWith gapCount nss cs).sum = 0 ∨
      Spaced ((List.zipWith gapCount nss cs).sum + ((cs.flatMap shown).length - 1))
        (joined cs) := by
  have blocks : ∃ ms, List.Forall₂ Spaced ms (cs.flatMap shown) ∧
      ms.sum = (List.zipWith gapCount nss cs).sum := by
    induction spaced with
    | nil => exact ⟨[], .nil, rfl⟩
    | cons first others ih =>
      obtain ⟨ms, one, sum⟩ := spaced_shown first
      obtain ⟨ms', more, sum'⟩ := ih
      refine ⟨ms ++ ms', List.rel_append one more, ?_⟩
      rw [List.sum_append, sum, sum', List.zipWith_cons_cons, List.sum_cons]
  obtain ⟨ms, shown, sum⟩ := blocks
  rw [← sum]
  by_cases empty : cs.flatMap Category.shown = []
  · rw [empty, List.forall₂_nil_right_iff] at shown
    exact .inl ⟨by rw [joined, empty, List.intercalate_nil], empty, by rw [shown]; rfl⟩
  · exact .inr (Spaced.joined shown empty)

end Category

/-! Lines that show something, where the indent can be seen. -/

/-- The lines are some, and none of them is empty. -/
abbrev Solid (ls : List String) : Prop := ls ≠ [] ∧ AllShown ls

namespace Rendering

theorem deeper_eq {s : Settings} {unit indent inner : String}
    (indented : s.indentation = .text unit) (deeper : s.deeper indent = .ok inner) :
    inner = indent ++ unit := by
  unfold Settings.deeper at deeper
  rw [indented] at deeper
  exact (Except.ok.inj deeper).symm

theorem visible_deeper {s : Settings} {unit : String} (indented : s.indentation = .text unit)
    (visible : unit ≠ "") (indent : String) : Ensures (· ≠ "") (s.deeper indent) := by
  intro inner deeper
  rw [deeper_eq indented deeper]
  simp [visible]

theorem shown_classHead (indent : String) (d : Surface) : Ensures (· ≠ "") (classHead indent d) :=
  .after fun name => .pure (by simp)

theorem shown_decoratorLines (indent : String) (vs : List Value) :
    Ensures AllShown (decoratorLines indent vs) := by
  refine .bind (ensures_each (P := AllShown) (fun v => .after fun t => .pure ?_) vs)
    fun groups shown => .pure ?_
  · refine List.forall_mem_singleton.mpr ?_
    by_cases empty : t = ""
    · rw [empty]
      simp [flag, Text.beginsWith]
    · simp [empty]
  · intro l member
    obtain ⟨ls, present, member⟩ := List.mem_flatten.mp member
    exact shown ls present l member

theorem shown_docLines (indent : String) (doc : Value) :
    Ensures AllShown (docLines indent doc) := by
  unfold docLines
  split
  · exact .pure (List.forall_mem_nil _)
  · refine .after fun t => .pure ?_
    intro l member
    simp only [List.mem_append, List.mem_singleton, Text.leadLines, List.mem_map] at member
    rcases member with (rfl | ⟨line, _, rfl⟩) | rfl <;> simp

theorem shown_leadLines (indent : String) (d : Surface) : Ensures AllShown (leadLines indent d) :=
  .bind (shown_docLines indent d.doc) fun _ documented =>
    .bind (shown_decoratorLines indent d.decorators) fun _ decorated =>
      .pure (List.forall_mem_append.mpr ⟨documented, decorated⟩)

section Members

variable {s : Settings} {indent inner : String} (visible : indent ≠ "") (within : inner ≠ "")

include visible in
theorem shown_signatureLines (vs : List Value) : Ensures AllShown (signatureLines s indent vs) := by
  refine .after fun texts => .pure ?_
  intro l member
  obtain ⟨t, _, rfl⟩ := List.mem_map.mp member
  simp [visible]

include within in
theorem shown_bodyLines (body : Supplied Body) : Ensures AllShown (bodyLines inner body) := by
  refine .after fun b => .pure ?_
  intro l member
  obtain ⟨t, _, member⟩ := List.mem_flatMap.mp member
  obtain ⟨line, _, rfl⟩ := List.mem_map.mp member
  simp [within]

include within in
theorem shown_optionalBodyLines (body : Option (Supplied Body)) :
    Ensures AllShown (optionalBodyLines inner body) := by
  cases body with
  | none => exact .pure (List.forall_mem_nil _)
  | some supplied => exact shown_bodyLines within supplied

include visible in
theorem solid_fieldLines (f : Supplied Field) : Ensures Solid (fieldLines s indent f) := by
  cases f with
  | stray v => exact .after fun _ => .after fun _ => .error _
  | good f =>
    refine .bind (P := (· ≠ "")) (.after fun access => .pure ?_) fun line shown =>
      .pure ⟨List.cons_ne_nil _ _, List.forall_mem_singleton.mpr shown⟩
    simp [visible]

include visible within in
theorem solid_constructorBlock (c : Constructor) :
    Ensures Solid (constructorBlock s indent inner c) := by
  unfold constructorBlock
  refine .bind (shown_signatureLines visible c.overloads) fun overloads signed =>
    .after fun access => .after fun ps => ?_
  dsimp only
  split
  · refine .pure ⟨by simp, List.forall_mem_append.mpr ⟨signed, ?_⟩⟩
    simp [visible]
  · refine .bind (shown_optionalBodyLines within c.body) fun body shown => .pure ⟨by simp, ?_⟩
    have call : AllShown (if c.superArguments.isEmpty then []
        else [inner ++ "super(" ++ ", ".intercalate c.superArguments ++ ")" ++ s.semicolon]) := by
      split
      · exact List.forall_mem_nil _
      · refine List.forall_mem_singleton.mpr ?_
        simp [within]
    exact (((signed.append (.single (by simp))).append call).append shown).append
      (.single (by simp))

include within in
theorem shown_getterLines (modifiers : String) (p : Property) :
    Ensures (fun ls => AllShown ls ∧ (p.hasGetter = true → ls ≠ []))
      (getterLines s indent inner modifiers p) := by
  unfold getterLines
  split
  case isTrue absent =>
    refine .pure ⟨.nil, fun given => ?_⟩
    simp [given] at absent
  case isFalse =>
    have block : ∀ body, AllShown body →
        Solid ([indent ++ modifiers ++ "get " ++ p.name ++ "(): " ++ p.type ++ " \x7b"] ++ body ++
          [indent ++ "\x7d"]) := fun body shown =>
      ⟨by simp, ((AllShown.single (by simp)).append shown).append (.single (by simp))⟩
    split
    case h_1 e _ =>
      have returned : AllShown [inner ++ "return " ++ e ++ s.semicolon] := .single (by simp)
      obtain ⟨filled, shown⟩ := block _ returned
      exact .pure ⟨shown, fun _ => filled⟩
    case h_2 =>
      refine .bind (shown_optionalBodyLines within p.getterBody) fun body shown => ?_
      obtain ⟨filled, shown⟩ := block body shown
      exact .pure ⟨shown, fun _ => filled⟩

include within in
theorem shown_setterLines (modifiers : String) (p : Property) :
    Ensures (fun ls => AllShown ls ∧ (p.setterBody.isSome = true → ls ≠ []))
      (setterLines indent inner modifiers p) := by
  unfold setterLines
  cases p.setterBody with
  | none => exact .pure ⟨.nil, fun given => by cases given⟩
  | some supplied =>
    exact .bind (shown_bodyLines within supplied) fun body shown =>
      .pure ⟨((AllShown.single (by simp)).append shown).append (.single (by simp)),
        fun _ => by simp⟩

include visible in
theorem shown_methodHead (d : Method) : Ensures (· ≠ "") (methodHead indent d) := by
  refine .after fun access => .after fun ps => .pure ?_
  simp [visible]

include visible within in
theorem solid_methodBlock (kind : Kind) (d : Method) :
    Ensures Solid (methodBlock s kind indent inner d) := by
  unfold methodBlock
  refine .bind (shown_decoratorLines indent d.decorators) fun decorators decorated =>
    .bind (shown_signatureLines visible d.overloads) fun overloads signed =>
      .bind (shown_methodHead visible d) fun head headed => ?_
  have lead : AllShown (decorators ++ overloads) := decorated.append signed
  dsimp only
  split
  · exact .pure ⟨by simp, lead.append (.single (by simp [headed]))⟩
  · split
    case h_1 e _ =>
      have opening : AllShown [head ++ " \x7b"] := .single (by simp)
      have returned : AllShown [inner ++ "return " ++ e ++ s.semicolon] := .single (by simp)
      exact .pure ⟨by simp, lead.append (opening.append (returned.append (.single (by simp))))⟩
    case h_2 supplied _ _ =>
      exact .bind (shown_bodyLines within supplied) fun body shown =>
        .pure ⟨by simp, ((lead.append (.single (by simp))).append shown).append
          (.single (by simp))⟩
    case h_3 => exact .pure ⟨by simp, lead.append (.single (by simp))⟩

end Members

section Blocks

variable {s : Settings} {unit indent : String} (indented : s.indentation = .text unit)
  (filled : unit ≠ "")
include indented filled

theorem solid_constructorLines (visible : indent ≠ "") (c : Supplied Constructor) :
    Ensures Solid (constructorLines s indent c) := by
  refine .bind (visible_deeper indented filled indent) fun inner within => ?_
  cases c with
  | good c => exact solid_constructorBlock visible within c
  | stray v =>
    unfold strayConstructor
    exact .after fun overloads => .after fun items => .after fun _ => .after fun access =>
      .after fun _ => .after fun parameters => .after fun ps => .after fun _ => .error _

theorem solid_methodLines (visible : indent ≠ "") (kind : Kind) (m : Supplied Method) :
    Ensures Solid (methodLines s kind indent m) := by
  refine .bind (visible_deeper indented filled indent) fun inner within => ?_
  cases m with
  | good d => exact solid_methodBlock visible within kind d
  | stray v => exact .after fun _ => .after fun _ => .after fun _ => .error _

theorem solid_propertyLines (visible : indent ≠ "") (p : Supplied Property) :
    Ensures Solid (propertyLines s indent p) := by
  refine .after fun p => ?_
  by_cases accessors : p.hasAccessor = true
  · rw [if_neg (by simp [accessors])]
    refine .bind (visible_deeper indented filled indent) fun inner within => .after fun access =>
      .bind (shown_getterLines within _ p) fun getter got =>
        .bind (shown_setterLines within _ p) fun setter set => .pure ⟨?_, got.1.append set.1⟩
    intro empty
    obtain ⟨noGetter, noSetter⟩ := List.append_eq_nil_iff.mp empty
    rcases (Bool.or_eq_true _ _).mp accessors with given | given
    · exact got.2 given noGetter
    · exact set.2 given noSetter
  · rw [if_pos (by simp [accessors])]
    refine .bind (P := (· ≠ "")) (.after fun access => .pure ?_) fun line shown =>
      .pure ⟨List.cons_ne_nil _ _, .single shown⟩
    simp [visible]

theorem solid_enumLines (d : Surface) : Ensures Solid (enumLines s indent d) := by
  refine .bind (visible_deeper indented filled indent) fun inner within => .after fun name => ?_
  have line : ∀ comma name value, Ensures (· ≠ "") (enumMemberLine inner comma name value) :=
    fun comma name value => .after fun text => .pure (by simp [within])
  have members : ∀ comma ms, Ensures AllShown (enumMemberLines inner comma ms) := by
    intro comma ms
    fun_induction enumMemberLines inner comma ms with
    | case1 => exact .pure .nil
    | case2 name value =>
      exact .bind (line comma name value) fun _ shown => .pure (.single shown)
    | case3 name value rest _ ih =>
      exact .bind (line "," name value) fun _ shown => .bind ih fun _ others =>
        .pure (List.forall_mem_cons.mpr ⟨shown, others⟩)
  exact .bind (members _ d.enumMembers) fun _ shown =>
    .pure ⟨by simp, ((AllShown.single (by simp)).append shown).append (.single (by simp))⟩

end Blocks

end Rendering

/-! Classes and interfaces of a declaration. -/

mutual

/-- The classes and interfaces that a declaration shows, itself among them, each with the indent at
which it stands. -/
def Declaration.containers (unit indent : String) : Declaration → List (String × Declaration)
  | ⟨d, nested⟩ =>
    if d.kind.hasMembers then
      (indent, ⟨d, nested⟩) :: nestedContainers unit (indent ++ unit) nested
    else []

def nestedContainers (unit indent : String) :
    List (Supplied Declaration) → List (String × Declaration)
  | [] => []
  | .good d :: rest => d.containers unit indent ++ nestedContainers unit indent rest
  | .stray _ :: rest => nestedContainers unit indent rest

end

namespace Declaration

/-- The places for an empty line that a class or interface has itself: between its categories,
between its methods and between its nested declarations. -/
def ownGaps (d : Declaration) : Nat :=
  (d.categoryCount - 1) + (d.methods.length - 1) + (d.nested.length - 1)

/-- The places for an empty line that classes and interfaces have. -/
def gapsOf (containers : List (String × Declaration)) : Nat :=
  (containers.map fun c => c.2.ownGaps).sum

theorem containers_shown {d : Declaration} (container : d.kind.hasMembers = true)
    (unit indent : String) : d.containers unit indent =
      (indent, d) :: nestedContainers unit (indent ++ unit) d.nested := by
  obtain ⟨d, nested⟩ := d
  exact if_pos container

theorem containers_unshown {d : Declaration} (plain : d.kind.hasMembers = false)
    (unit indent : String) : d.containers unit indent = [] := by
  obtain ⟨d, nested⟩ := d
  exact if_neg (Bool.eq_false_iff.mp plain)

end Declaration

namespace Rendering

theorem spaced_each {α : Type} {render : α → Except Fault (List String)}
    (solid : ∀ a, Ensures Solid (render a)) (items : List α) :
    Ensures (fun found => ∃ ns, List.Forall₂ Spaced ns found ∧ ns.sum = 0) (each render items) := by
  intro found given
  have all := ensures_each solid items found given
  clear given
  induction found with
  | nil => exact ⟨[], .nil, rfl⟩
  | cons ls found ih =>
    obtain ⟨⟨filled, shown⟩, others⟩ := List.forall_mem_cons.mp all
    obtain ⟨ns, more, sum⟩ := ih others
    exact ⟨0 :: ns, .cons (.of_shown filled shown) more, by rw [List.sum_cons, sum]⟩

theorem spaced_nested {s : Settings} {unit indent : String} {nested : List (Supplied Declaration)}
    (all : ∀ n, .good n ∈ nested →
      Ensures (Spaced (Declaration.gapsOf (n.containers unit indent))) (n.lines s indent)) :
    Ensures (fun found => ∃ ns, List.Forall₂ Spaced ns found ∧
      ns.sum = Declaration.gapsOf (nestedContainers unit indent nested))
      (each (suppliedLines s indent) nested) := by
  intro found given
  have items := each_eq_ok.mp given
  clear given
  induction items with
  | nil => exact ⟨[], .nil, rfl⟩
  | @cons n ls nested found first _ ih =>
    obtain ⟨ns, more, sum⟩ := ih fun m member => all m (List.mem_cons_of_mem n member)
    cases n with
    | stray v => cases first
    | good d =>
      refine ⟨_, .cons (all d List.mem_cons_self ls first) more, ?_⟩
      rw [List.sum_cons, sum, nestedContainers, Declaration.gapsOf, Declaration.gapsOf,
        Declaration.gapsOf, List.map_append, List.sum_append]

end Rendering

namespace Declaration

variable {s : Settings} {unit : String} (indented : s.indentation = .text unit) (filled : unit ≠ "")
include indented filled

/-- Between the braces of a class or interface: no lines at all, or lines with as many empty ones
among them as there are places for them, those of what is nested being counted. -/
theorem spaced_inside {d : Declaration} (container : d.kind.hasMembers = true) {indent : String}
    {cs : List Category} (gathered : gather (d.categories s (indent ++ unit)) = .ok cs)
    (within : ∀ n, .good n ∈ d.nested →
      Ensures (Spaced (gapsOf (n.containers unit (indent ++ unit)))) (n.lines s (indent ++ unit))) :
    Category.joined cs = [] ∧ gapsOf (d.containers unit indent) = 0 ∨
      Spaced (gapsOf (d.containers unit indent)) (Category.joined cs) := by
  have visible : indent ++ unit ≠ "" := by simp [filled]
  obtain ⟨signatures, fields, constructors, properties, methods, nested, first, second, third,
    fourth, fifth, sixth, same⟩ := gather_categories gathered
  obtain ⟨ns₁, one, sum₁⟩ :=
    spaced_each (fun t => .pure ⟨by simp, .single (by simp [filled])⟩) _ _ first
  obtain ⟨ns₂, two, sum₂⟩ := spaced_each (solid_fieldLines visible) _ _ second
  obtain ⟨ns₃, three, sum₃⟩ :=
    spaced_each (solid_constructorLines indented filled visible) _ _ third
  obtain ⟨ns₄, four, sum₄⟩ := spaced_each (solid_propertyLines indented filled visible) _ _ fourth
  obtain ⟨ns₅, five, sum₅⟩ :=
    spaced_each (solid_methodLines indented filled visible d.kind) _ _ fifth
  obtain ⟨ns₆, six, sum₆⟩ := spaced_nested within _ sixth
  have items : List.Forall₂ (fun ns (c : Category) => List.Forall₂ Spaced ns c.items)
      [ns₁, ns₂, ns₃, ns₄, ns₅, ns₆] cs := by
    rw [same]
    exact .cons one (.cons two (.cons three (.cons four (.cons five (.cons six .nil)))))
  -- Four categories have no empty lines at all; methods have one between two of them, and nested
  -- declarations those that are counted as well.
  have gaps : (List.zipWith Category.gapCount [ns₁, ns₂, ns₃, ns₄, ns₅, ns₆] cs).sum =
      (methods.length - 1) + (ns₆.sum + (nested.length - 1)) := by
    rw [same]
    simp [Category.gapCount, sum₁, sum₂, sum₃, sum₄, sum₅]
  have total : gapsOf (d.containers unit indent) = d.ownGaps + ns₆.sum := by
    rw [containers_shown container, sum₆]
    rfl
  have own : d.ownGaps = (d.categoryCount - 1) + (methods.length - 1) + (nested.length - 1) := by
    rw [length_of_each fifth, length_of_each sixth]
    rfl
  have count := length_shown gathered
  rcases Category.spaced_joined items with ⟨nothing, unshown, zero⟩ | spaced
  · rw [unshown, List.length_nil] at count
    exact .inl ⟨nothing, by omega⟩
  · have places : (List.zipWith Category.gapCount [ns₁, ns₂, ns₃, ns₄, ns₅, ns₆] cs).sum +
        ((cs.flatMap Category.shown).length - 1) = gapsOf (d.containers unit indent) := by omega
    rw [places] at spaced
    exact .inr spaced

theorem spaced_plain {d : Declaration} (plain : d.kind.hasMembers = false) (indent : String) :
    Ensures (Spaced 0) (d.lines s indent) := by
  obtain ⟨d, nested⟩ := d
  change d.kind.hasMembers = false at plain
  unfold lines
  refine .bind (shown_docLines indent d.doc) fun doc documented =>
    .bind (shown_decoratorLines indent d.decorators) fun decorators decorated => ?_
  have lead : AllShown (doc ++ decorators) := documented.append decorated
  have enum : Ensures (Spaced 0) (do return doc ++ decorators ++ (← enumLines s indent d)) :=
    .bind (solid_enumLines indented filled d) fun ls solid => .pure
      (.of_shown (List.append_ne_nil_of_right_ne_nil _ solid.1) (lead.append solid.2))
  cases kind : d.kind with
  | typeAlias =>
    have line : Ensures (· ≠ "") (aliasLine s indent d) := .after fun name => .pure (by simp)
    exact .bind line fun _ shown => .pure (.of_shown (by simp) (lead.append (.single shown)))
  | enumDecl => exact enum
  | constEnum => exact enum
  | classDecl => simp [kind, Kind.hasMembers] at plain
  | interfaceDecl => simp [kind, Kind.hasMembers] at plain

/-- The empty lines of a declaration: nowhere but in the places for them that its classes and
interfaces have, and in each of these. -/
theorem spaced_lines (d : Declaration) : ∀ indent,
    Ensures (Spaced (gapsOf (d.containers unit indent))) (d.lines s indent) := by
  induction d using nestedInduction with
  | step d within =>
    intro indent
    cases container : d.kind.hasMembers with
    | false =>
      rw [containers_unshown container]
      exact spaced_plain indented filled container indent
    | true =>
      intro ls given
      obtain ⟨lead, inner, head, cs, led, deeper, headed, gathered, rfl⟩ :=
        (lines_eq_ok container).mp given
      rw [deeper_eq indented deeper] at gathered
      have inside := spaced_inside indented filled container gathered
        fun n member => within n member (indent ++ unit)
      have shownHead : AllShown (lead ++ [head]) :=
        (shown_leadLines indent _ lead led).append (.single (shown_classHead indent _ head headed))
      have front : Spaced 0 (lead ++ [head]) := .of_shown (by simp) shownHead
      have brace : Spaced 0 [indent ++ "\x7d"] := .of_shown (by simp) (.single (by simp))
      -- Without anything inside, the brace follows the opening line.
      rcases inside with ⟨empty, zero⟩ | spaced
      · rw [empty, zero, List.append_nil]
        exact front.append brace
      · have all := (front.append spaced).append brace
        rwa [Nat.zero_add, Nat.add_zero] at all

end Declaration

namespace Rendering

private theorem infix_intercalate {sep block : List String} {blocks : List (List String)}
    (present : block ∈ blocks) : block <:+: sep.intercalate blocks := by
  induction blocks with
  | nil => cases present
  | cons b rest ih =>
    cases rest with
    | nil =>
      cases List.mem_singleton.mp present
      have whole : sep.intercalate [block] = block := List.intercalate_singleton
      exact ⟨[], [], by rw [whole, List.nil_append, List.append_nil]⟩
    | cons b' rest =>
      rw [List.intercalate_cons_cons]
      rcases List.mem_cons.mp present with rfl | later
      · rw [List.append_assoc]
        exact (List.prefix_append _ _).isInfix
      · exact (ih later).trans (List.suffix_append _ _).isInfix

theorem infix_joined {block : List String} {c : Category} {cs : List Category}
    (item : block ∈ c.items) (present : c ∈ cs) : block <:+: Category.joined cs := by
  have filled : c.items.isEmpty = false := by
    rw [List.isEmpty_eq_false_iff]
    exact List.ne_nil_of_mem item
  have shown : c.gap.intercalate c.items ∈ cs.flatMap Category.shown := by
    refine List.mem_flatMap.mpr ⟨c, present, ?_⟩
    rw [Category.shown, filled]
    exact List.mem_singleton_self _
  exact (infix_intercalate item).trans (infix_intercalate shown)

end Rendering

namespace Declaration

private theorem mem_nestedContainers {unit indent : String} {nested : List (Supplied Declaration)}
    {c : String × Declaration} (member : c ∈ nestedContainers unit indent nested) :
    ∃ n, .good n ∈ nested ∧ c ∈ n.containers unit indent := by
  induction nested with
  | nil => cases member
  | cons n rest ih =>
    cases n with
    | stray v =>
      obtain ⟨m, present, within⟩ := ih member
      exact ⟨m, List.mem_cons_of_mem _ present, within⟩
    | good d =>
      rcases List.mem_append.mp member with here | later
      · exact ⟨d, List.mem_cons_self, here⟩
      · obtain ⟨m, present, within⟩ := ih later
        exact ⟨m, List.mem_cons_of_mem _ present, within⟩

theorem lines_of_nested {d n : Declaration} (container : d.kind.hasMembers = true)
    (member : .good n ∈ d.nested) {s : Settings} {indent : String} {ls : List String}
    (given : d.lines s indent = .ok ls) :
    ∃ inner own, s.deeper indent = .ok inner ∧ n.lines s inner = .ok own ∧ own <:+: ls := by
  obtain ⟨lead, inner, head, cs, _, deeper, _, gathered, rfl⟩ := (lines_eq_ok container).mp given
  obtain ⟨_, _, _, _, _, nested, _, _, _, _, _, found, same⟩ := gather_categories gathered
  have last : ⟨true, nested⟩ ∈ cs := by
    rw [same]
    simp
  obtain ⟨own, item, rendered⟩ := mem_of_each found member
  have among : Category.joined cs <:+:
      lead ++ [head] ++ Category.joined cs ++ [indent ++ "\x7d"] := ⟨_, _, rfl⟩
  exact ⟨inner, own, deeper, rendered, (infix_joined item last).trans among⟩

theorem lines_of_container {s : Settings} {unit : String} (indented : s.indentation = .text unit)
    (d : Declaration) : ∀ {indent ls}, d.lines s indent = .ok ls →
      ∀ {place c}, (place, c) ∈ d.containers unit indent →
        c.kind.hasMembers = true ∧ ∃ own, c.lines s place = .ok own ∧ own <:+: ls := by
  induction d using nestedInduction with
  | step d within =>
    intro indent ls given place c member
    cases container : d.kind.hasMembers with
    | false =>
      rw [containers_unshown container] at member
      cases member
    | true =>
      rw [containers_shown container] at member
      rcases List.mem_cons.mp member with same | below
      · cases same
        exact ⟨container, ls, given, List.infix_rfl⟩
      · obtain ⟨n, present, inside⟩ := mem_nestedContainers below
        obtain ⟨inner, block, deeper, rendered, part⟩ := lines_of_nested container present given
        rw [deeper_eq indented deeper] at rendered
        obtain ⟨kind, own, alone, within⟩ := within n present rendered inside
        exact ⟨kind, own, alone, within.trans part⟩

/-- Main theorem. Under an indentation that can be seen, the lines of a declaration neither begin
nor end with an empty one, no two empty ones stand side by side, and there are as many as its
classes and interfaces have places between two categories, two methods or two nested declarations.
None stands next to the opening line or the closing brace of a class or interface, inside its
braces. -/
theorem lines_spacing {s : Settings} {unit : String} (indented : s.indentation = .text unit)
    (filled : unit ≠ "") (d : Declaration) (indent : String) :
    (d.Typed → Succeeds (d.lines s indent)) ∧ ∀ ls, d.lines s indent = .ok ls →
      Spaced (gapsOf (d.containers unit indent)) ls ∧
      ∀ place c, (place, c) ∈ d.containers unit indent → ∃ lead head inside,
        c.lines s place = .ok (lead ++ [head] ++ inside ++ [place ++ "\x7d"]) ∧
        classHead place c.toSurface = .ok head ∧
        (lead ++ [head] ++ inside ++ [place ++ "\x7d"]) <:+: ls ∧
        (inside ++ [place ++ "\x7d"]).head? ≠ .some "" ∧
        ([head] ++ inside).getLast? ≠ .some "" := by
  refine ⟨fun typed => typed.succeeds_lines ⟨unit, indented⟩ indent, fun ls given =>
    ⟨spaced_lines indented filled d indent ls given, fun place c member => ?_⟩⟩
  obtain ⟨container, own, alone, part⟩ := lines_of_container indented d given member
  obtain ⟨lead, inner, head, cs, _, deeper, headed, gathered, rfl⟩ :=
    (lines_eq_ok container).mp alone
  rw [deeper_eq indented deeper] at gathered
  have spaced := spaced_inside indented filled container gathered
    fun n _ => spaced_lines indented filled n (place ++ unit)
  refine ⟨lead, head, Category.joined cs, alone, headed, part, ?_⟩
  have visible : head ≠ "" := shown_classHead place c.toSurface head headed
  rcases spaced with ⟨empty, _⟩ | spaced
  · rw [empty]
    refine ⟨?_, ?_⟩
    · simp
    · simp [visible]
  · obtain ⟨first, starts, shown⟩ := spaced.first
    obtain ⟨last, ends, shown'⟩ := spaced.last
    rw [List.head?_append, List.getLast?_append, starts, ends]
    refine ⟨?_, ?_⟩
    · simp [shown]
    · simp [shown']

/-- A class with a field, two methods and an interface nested in it. -/
def shelf : Declaration where
  name := "Shelf"
  fields := [.good { name := "width", type := "number" }]
  methods := [.good { name := "push" }, .good { name := "pop" }]
  nested := [.good
    { name := "Item", kind := .interfaceDecl, indexSignatures := ["[key: string]: string"] }]

/-- The theorem at work: two empty lines between three categories, and one between two methods. -/
theorem lines_spacing_shelf : ∃ ls, shelf.lines {} "" = .ok ls ∧ Spaced 3 ls := by
  have visible : "  " ≠ "" := by decide
  obtain ⟨ls, rendered⟩ : Succeeds (shelf.lines {} "") := ⟨_, rfl⟩
  obtain ⟨_, spaced⟩ := lines_spacing (s := {}) rfl visible shelf ""
  exact ⟨ls, rendered, (spaced ls rendered).1⟩

end Declaration

end TypeScriptGen
