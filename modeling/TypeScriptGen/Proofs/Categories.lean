import Mathlib.Data.List.Forall2
import TypeScriptGen.Proofs.Pruning

/-!
Classes and interfaces by categories. Between the braces stand index signatures, fields,
constructors, properties, methods and nested declarations, in this order; an empty line separates
two of these categories, and two methods or nested declarations from each other. Main statement: a
class or interface is its opening line, its categories and its closing brace, where each category is
known by the lines that its items have on their own.
-/

set_option autoImplicit false
set_option relaxedAutoImplicit false

namespace TypeScriptGen

open Rendering Step

/-- The items of one category, each as its lines, and whether an empty line stands between two of
them. -/
structure Category where
  isSpaced : Bool
  items : List (List String)

namespace Category

/-- What stands between two items. -/
def gap (c : Category) : List String := if c.isSpaced then [""] else []

def shown (c : Category) : List (List String) :=
  if c.items.isEmpty then [] else [c.gap.intercalate c.items]

/-- The lines of categories, an empty line between those that are shown. -/
def joined (cs : List Category) : List String := [""].intercalate (cs.flatMap shown)

end Category

namespace Rendering

/-- The lines of the items of categories, found one after the other. -/
def gather : List (Bool × Except Fault (List (List String))) → Except Fault (List Category)
  | [] => .ok []
  | (isSpaced, found) :: rest => do
    let items ← found
    let more ← gather rest
    return ⟨isSpaced, items⟩ :: more

def suppliedLines (s : Settings) (indent : String) :
    Supplied Declaration → Except Fault (List String)
  | .good d => d.lines s indent
  | .stray v => .error (v.lacking ["js_doc"])

def leadLines (indent : String) (d : Surface) : Except Fault (List String) := do
  let doc ← docLines indent d.doc
  let decorators ← decoratorLines indent d.decorators
  return doc ++ decorators

end Rendering

def Surface.shownConstructors (d : Surface) : List (Supplied Constructor) :=
  if d.kind == .classDecl then d.constructors else []

/-- The categories of a class or interface whose items stand at `inner`. -/
def Declaration.categories (s : Settings) (inner : String) (d : Declaration) :
    List (Bool × Except Fault (List (List String))) :=
  [(false, each (fun t => pure [inner ++ t ++ s.semicolon]) d.indexSignatures),
    (false, each (fieldLines s inner) d.fields),
    (false, each (constructorLines s inner) d.shownConstructors),
    (false, each (propertyLines s inner) d.properties),
    (true, each (methodLines s d.kind inner) d.methods),
    (true, each (suppliedLines s inner) d.nested)]

def Declaration.categoryCount (d : Declaration) : Nat :=
  [d.indexSignatures.isEmpty, d.fields.isEmpty, d.shownConstructors.isEmpty, d.properties.isEmpty,
    d.methods.isEmpty, d.nested.isEmpty].count false

mutual

@[elab_as_elim]
theorem Declaration.nestedInduction {motive : Declaration → Prop}
    (step : ∀ d : Declaration, (∀ n, .good n ∈ d.nested → motive n) → motive d) :
    ∀ d : Declaration, motive d
  | ⟨d, nested⟩ => step ⟨d, nested⟩ (nestedInduction_within step nested)

private theorem nestedInduction_within {motive : Declaration → Prop}
    (step : ∀ d : Declaration, (∀ n, .good n ∈ d.nested → motive n) → motive d) :
    ∀ nested : List (Supplied Declaration), ∀ n, .good n ∈ nested → motive n
  | [], _, member => by cases member
  | .good d :: rest, n, member => by
    have first := Declaration.nestedInduction step d
    have others := nestedInduction_within step rest n
    rcases List.mem_cons.mp member with same | within
    · cases same
      exact first
    · exact others within
  | .stray _ :: rest, n, member => by
    have others := nestedInduction_within step rest n
    rcases List.mem_cons.mp member with same | within
    · cases same
    · exact others within

end

namespace Rendering

/-! Items one by one. -/

variable {α : Type} {render : α → Except Fault (List String)}

theorem each_eq_ok {items : List α} {found : List (List String)} :
    each render items = .ok found ↔ List.Forall₂ (fun a ls => render a = .ok ls) items found := by
  induction items generalizing found with
  | nil =>
    rw [List.forall₂_nil_left_iff]
    exact ⟨fun same => by cases same; rfl, fun same => by rw [same]; rfl⟩
  | cons a rest ih =>
    rw [each, bind_eq_ok, List.forall₂_cons_left_iff]
    constructor
    · rintro ⟨ls, first, given⟩
      obtain ⟨more, others, same⟩ := bind_eq_ok.mp given
      cases same
      exact ⟨ls, more, first, ih.mp others, rfl⟩
    · rintro ⟨ls, more, first, others, rfl⟩
      exact ⟨ls, first, bind_eq_ok.mpr ⟨more, ih.mpr others, rfl⟩⟩

theorem length_of_each {items : List α} {found : List (List String)}
    (given : each render items = .ok found) : found.length = items.length :=
  (each_eq_ok.mp given).length_eq.symm

theorem isEmpty_of_each {items : List α} {found : List (List String)}
    (given : each render items = .ok found) : found.isEmpty = items.isEmpty := by
  rw [Bool.eq_iff_iff, List.isEmpty_iff_length_eq_zero, List.isEmpty_iff_length_eq_zero,
    length_of_each given]

theorem ensures_each {P : List String → Prop} (all : ∀ a, Ensures P (render a)) (items : List α) :
    Ensures (fun found => ∀ ls ∈ found, P ls) (each render items) := by
  intro found given
  have one := each_eq_ok.mp given
  induction one with
  | nil => exact List.forall_mem_nil _
  | @cons a ls items found first others ih =>
    exact List.forall_mem_cons.mpr ⟨all a ls first, ih (each_eq_ok.mpr others)⟩

theorem mem_of_each {items : List α} {found : List (List String)}
    (given : each render items = .ok found) {a : α} (member : a ∈ items) :
    ∃ ls ∈ found, render a = .ok ls := by
  have one := each_eq_ok.mp given
  clear given
  induction one with
  | nil => cases member
  | @cons b ls items found first _ ih =>
    rcases List.mem_cons.mp member with rfl | within
    · exact ⟨ls, List.mem_cons_self, first⟩
    · obtain ⟨ls', present, same⟩ := ih within
      exact ⟨ls', List.mem_cons_of_mem _ present, same⟩

theorem gather_eq_ok {parts : List (Bool × Except Fault (List (List String)))}
    {cs : List Category} : gather parts = .ok cs ↔
      List.Forall₂ (fun part c => c.isSpaced = part.1 ∧ part.2 = .ok c.items) parts cs := by
  induction parts generalizing cs with
  | nil =>
    rw [List.forall₂_nil_left_iff]
    exact ⟨fun same => by cases same; rfl, fun same => by rw [same]; rfl⟩
  | cons part rest ih =>
    obtain ⟨isSpaced, found⟩ := part
    rw [gather, bind_eq_ok, List.forall₂_cons_left_iff]
    constructor
    · rintro ⟨items, first, given⟩
      obtain ⟨more, others, same⟩ := bind_eq_ok.mp given
      cases same
      exact ⟨_, more, ⟨rfl, first⟩, ih.mp others, rfl⟩
    · rintro ⟨⟨_, items⟩, more, ⟨rfl, first⟩, others, rfl⟩
      exact ⟨items, first, bind_eq_ok.mpr ⟨more, ih.mpr others, rfl⟩⟩

/-! The lines of a class or interface. -/

private theorem nestedLines_eq (s : Settings) (indent : String)
    (nested : List (Supplied Declaration)) :
    nestedLines s indent nested = each (suppliedLines s indent) nested := by
  induction nested with
  | nil => rfl
  | cons n rest ih =>
    cases n with
    | good d =>
      rw [nestedLines, ih]
      rfl
    | stray v => rfl

private theorem category_eq (isSpaced : Bool) (items : List α) :
    category (if isSpaced then [""] else []) render items =
      (each render items).map fun found => (Category.mk isSpaced found).shown := by
  unfold category
  cases items with
  | nil => rfl
  | cons a rest =>
    rw [List.isEmpty_cons, if_neg (by decide)]
    cases given : each render (a :: rest) with
    | error fault => rfl
    | ok found =>
      have filled : found.isEmpty = false := isEmpty_of_each given
      change Except.ok _ = Except.ok (if found.isEmpty then _ else _)
      rw [filled]
      rfl

private theorem bind_spaced {β : Type} (items : List α) (k : List (List String) → Except Fault β) :
    (each render items >>= fun found =>
      k (if items.isEmpty then [] else [[""].intercalate found])) =
    each render items >>= fun found => k (Category.mk true found).shown := by
  cases given : each render items with
  | error fault => rfl
  | ok found =>
    rw [ok_bind, ok_bind, ← isEmpty_of_each given]
    rfl

private theorem shown_gathered (s : Settings) (inner : String) (d : Declaration) :
    (do
      let members ← memberCategories s inner d.toSurface
      let inside ← nestedLines s inner d.nested
      return members ++ if d.nested.isEmpty then [] else [[""].intercalate inside]) =
    (gather (d.categories s inner)).map (List.flatMap Category.shown) := by
  unfold memberCategories Declaration.categories
  simp only [gather, bind_assoc, pure_bind]
  refine bind_shift (category_eq false _) fun signatures =>
    bind_shift (category_eq false _) fun fields =>
    bind_shift (category_eq false _) fun constructors =>
    bind_shift (category_eq false _) fun properties =>
    bind_shift (category_eq true _) fun methods => ?_
  rw [nestedLines_eq, bind_spaced d.nested fun shown => pure (_ ++ shown)]
  refine bind_same _ fun nested => return_shift ?_
  simp

end Rendering

theorem Declaration.lines_container {d : Declaration} (container : d.kind.hasMembers = true)
    (s : Settings) (indent : String) : d.lines s indent = (do
      let lead ← leadLines indent d.toSurface
      let inner ← s.deeper indent
      let head ← classHead indent d.toSurface
      let cs ← gather (d.categories s inner)
      return lead ++ [head] ++ Category.joined cs ++ [indent ++ "\x7d"]) := by
  have opened : d.lines s indent = (do
      let lead ← leadLines indent d.toSurface
      let inner ← s.deeper indent
      let head ← classHead indent d.toSurface
      let groups ← (do
        let members ← memberCategories s inner d.toSurface
        let inside ← nestedLines s inner d.nested
        return members ++ if d.nested.isEmpty then [] else [[""].intercalate inside])
      return lead ++ [head] ++ [""].intercalate groups ++ [indent ++ "\x7d"]) := by
    obtain ⟨d, nested⟩ := d
    unfold Declaration.lines leadLines
    simp only [bind_assoc, pure_bind]
    cases kind : d.kind with
    | classDecl => rfl
    | interfaceDecl => rfl
    | typeAlias => simp [kind, Kind.hasMembers] at container
    | enumDecl => simp [kind, Kind.hasMembers] at container
    | constEnum => simp [kind, Kind.hasMembers] at container
  rw [opened]
  simp only [shown_gathered]
  congr 1
  funext lead
  congr 1
  funext inner
  congr 1
  funext head
  cases gather (d.categories s inner) <;> rfl

theorem Declaration.lines_eq_ok {d : Declaration} (container : d.kind.hasMembers = true)
    {s : Settings} {indent : String} {ls : List String} : d.lines s indent = .ok ls ↔
      ∃ lead inner head cs, leadLines indent d.toSurface = .ok lead ∧
        s.deeper indent = .ok inner ∧ classHead indent d.toSurface = .ok head ∧
        gather (d.categories s inner) = .ok cs ∧
        ls = lead ++ [head] ++ Category.joined cs ++ [indent ++ "\x7d"] := by
  rw [lines_container container]
  constructor
  · intro given
    obtain ⟨lead, led, given⟩ := bind_eq_ok.mp given
    obtain ⟨inner, deeper, given⟩ := bind_eq_ok.mp given
    obtain ⟨head, headed, given⟩ := bind_eq_ok.mp given
    obtain ⟨cs, gathered, same⟩ := bind_eq_ok.mp given
    cases same
    exact ⟨lead, inner, head, cs, led, deeper, headed, gathered, rfl⟩
  · rintro ⟨lead, inner, head, cs, led, deeper, headed, gathered, rfl⟩
    rw [led, ok_bind, deeper, ok_bind, headed, ok_bind, gathered]
    rfl

theorem Declaration.gather_categories {d : Declaration} {s : Settings} {inner : String}
    {cs : List Category} (gathered : gather (d.categories s inner) = .ok cs) :
    ∃ signatures fields constructors properties methods nested,
      each (fun t => pure [inner ++ t ++ s.semicolon]) d.indexSignatures = .ok signatures ∧
      each (fieldLines s inner) d.fields = .ok fields ∧
      each (constructorLines s inner) d.shownConstructors = .ok constructors ∧
      each (propertyLines s inner) d.properties = .ok properties ∧
      each (methodLines s d.kind inner) d.methods = .ok methods ∧
      each (suppliedLines s inner) d.nested = .ok nested ∧
      cs = [⟨false, signatures⟩, ⟨false, fields⟩, ⟨false, constructors⟩, ⟨false, properties⟩,
        ⟨true, methods⟩, ⟨true, nested⟩] := by
  have parts := gather_eq_ok.mp gathered
  rcases parts with _ | @⟨_, ⟨_, signatures⟩, _, _, ⟨rfl, one⟩, parts⟩
  rcases parts with _ | @⟨_, ⟨_, fields⟩, _, _, ⟨rfl, two⟩, parts⟩
  rcases parts with _ | @⟨_, ⟨_, constructors⟩, _, _, ⟨rfl, three⟩, parts⟩
  rcases parts with _ | @⟨_, ⟨_, properties⟩, _, _, ⟨rfl, four⟩, parts⟩
  rcases parts with _ | @⟨_, ⟨_, methods⟩, _, _, ⟨rfl, five⟩, parts⟩
  rcases parts with _ | @⟨_, ⟨_, nested⟩, _, _, ⟨rfl, six⟩, parts⟩
  cases parts
  exact ⟨signatures, fields, constructors, properties, methods, nested, one, two, three, four, five,
    six, rfl⟩

theorem Declaration.length_shown {d : Declaration} {s : Settings} {inner : String}
    {cs : List Category} (gathered : gather (d.categories s inner) = .ok cs) :
    (cs.flatMap Category.shown).length = d.categoryCount := by
  obtain ⟨signatures, fields, constructors, properties, methods, nested, one, two, three, four,
    five, six, rfl⟩ := gather_categories gathered
  have counted : ∀ cs : List Category, (cs.flatMap Category.shown).length =
      (cs.map fun c => c.items.isEmpty).count false := by
    intro cs
    induction cs with
    | nil => rfl
    | cons c rest ih =>
      rw [List.flatMap_cons, List.length_append, ih, List.map_cons, List.count_cons, Nat.add_comm]
      unfold Category.shown
      cases c.items.isEmpty <;> rfl
  rw [counted, categoryCount, ← isEmpty_of_each one, ← isEmpty_of_each two, ← isEmpty_of_each three,
    ← isEmpty_of_each four, ← isEmpty_of_each five, ← isEmpty_of_each six]
  rfl

end TypeScriptGen
