import TypeScriptGen.Proofs.CallOrder
import TypeScriptGen.Proofs.Categories

/-!
What one more member changes. A class or interface shows its members by categories, and whether an
empty line is needed beside a new member depends on which categories have members already. Main
statement: a call that adds a member puts the lines of that member, with at most one empty line
beside them, in one place between the lines that were there before.
-/

set_option autoImplicit false
set_option relaxedAutoImplicit false

namespace TypeScriptGen

open Rendering Step

/-- What can be added between the braces of a class or interface. -/
inductive Member where
  | indexSignature (text : String)
  | field (f : Supplied Field)
  | constructor (c : Supplied Constructor)
  | property (p : Supplied Property)
  | method (f : Supplied Method)
  | nested (n : Supplied Declaration)

def Mutator.addsMember : Mutator → Bool
  | .indexSignature | .field | .constructor | .property | .method | .nested => true
  | _ => false

namespace Member

def mutator : Member → Mutator
  | .indexSignature _ => .indexSignature
  | .field _ => .field
  | .constructor _ => .constructor
  | .property _ => .property
  | .method _ => .method
  | .nested _ => .nested

def addTo (d : Declaration) : Member → Declaration
  | .indexSignature t => { d with indexSignatures := d.indexSignatures ++ [t] }
  | .field f => d.addField f
  | .constructor c => d.addConstructor c
  | .property p => d.addProperty p
  | .method f => d.addMethod f
  | .nested n => d.addNested n

/-- Declarations of the kind show the member: an interface shows no constructors. -/
def isShown (kind : Kind) : Member → Bool
  | .constructor _ => kind == .classDecl
  | _ => true

def hasPeers (d : Declaration) : Member → Bool
  | .indexSignature _ => !d.indexSignatures.isEmpty
  | .field _ => !d.fields.isEmpty
  | .constructor _ => !d.constructors.isEmpty
  | .property _ => !d.properties.isEmpty
  | .method _ => !d.methods.isEmpty
  | .nested _ => !d.nested.isEmpty

/-- Members of the category are kept apart by empty lines. -/
def isSpaced : Member → Bool
  | .method _ | .nested _ => true
  | _ => false

/-- The lines of the member alone, in a declaration of a kind whose members stand at `inner`. -/
def lines (s : Settings) (kind : Kind) (inner : String) : Member → Except Fault (List String)
  | .indexSignature t => .ok [inner ++ t ++ s.semicolon]
  | .field f => fieldLines s inner f
  | .constructor c => constructorLines s inner c
  | .property p => propertyLines s inner p
  | .method f => methodLines s kind inner f
  | .nested n => suppliedLines s inner n

/-- The lines of the member alone, in a declaration of a kind that stands at `indent`. -/
def linesIn (s : Settings) (kind : Kind) (indent : String) (m : Member) :
    Except Fault (List String) := do
  m.lines s kind (← s.deeper indent)

/-- The member needs an empty line beside it: there is something else, and the member either is the
first of its category or has to be kept apart from its peers. -/
def opensGap (d : Declaration) (m : Member) : Bool :=
  d.categoryCount != 0 && (m.isSpaced || !m.hasPeers d)

end Member

/-- The block is these lines, by themselves or with one empty line on one side of them. -/
def IsBlock (apart : Bool) (own block : List String) : Prop :=
  if apart then block = "" :: own ∨ block = own ++ [""] else block = own

/-! One more item in one of several categories. -/

namespace Category

def add (c : Category) (item : List String) : Category := { c with items := c.items ++ [item] }

/-- What stands between two parts, if there are both. -/
private def joint (gap : List String) (xs ys : List (List String)) : List String :=
  if xs.isEmpty || ys.isEmpty then [] else gap

private theorem intercalate_append (gap : List String) (xs ys : List (List String)) :
    gap.intercalate (xs ++ ys) = gap.intercalate xs ++ joint gap xs ys ++ gap.intercalate ys := by
  induction xs with
  | nil => simp [joint]
  | cons x rest ih =>
    cases rest with
    | nil =>
      cases ys with
      | nil => simp [joint]
      | cons y ys => simp [joint, List.intercalate_cons_cons]
    | cons next rest =>
      have step : gap.intercalate (x :: next :: rest ++ ys) =
          x ++ gap ++ gap.intercalate (next :: rest ++ ys) := List.intercalate_cons_cons
      rw [step, ih, List.intercalate_cons_cons]
      simp [joint]

private theorem shown_eq_nil {c : Category} (empty : c.items = []) : c.shown = [] := by
  simp [shown, empty]

private theorem shown_add_first {c : Category} (empty : c.items = []) (own : List String) :
    (c.add own).shown = [own] := by
  simp [shown, add, empty]

private theorem shown_add_further {c : Category} (filled : c.items ≠ []) (own : List String) :
    c.shown = [c.gap.intercalate c.items] ∧
      (c.add own).shown = [c.gap.intercalate c.items ++ c.gap ++ own] := by
  have grown : ¬ (c.add own).items.isEmpty = true := by simp [add]
  have joined :
      c.gap.intercalate (c.items ++ [own]) = c.gap.intercalate c.items ++ c.gap ++ own := by
    rw [intercalate_append, List.intercalate_singleton]
    simp [joint, filled]
  refine ⟨by simp [shown, filled], ?_⟩
  rw [← joined, shown, if_neg grown]
  rfl

theorem joined_add (front back : List Category) (c : Category) (own : List String) :
    ∃ left block right, joined (front ++ c :: back) = left ++ right ∧
      joined (front ++ c.add own :: back) = left ++ block ++ right ∧
      IsBlock (decide ((front ++ c :: back).flatMap shown ≠ []) && (c.isSpaced || c.items.isEmpty))
        own block := by
  let before := front.flatMap shown
  let behind := back.flatMap shown
  have parts (c : Category) :
      (front ++ c :: back).flatMap shown = before ++ (c.shown ++ behind) := by
    rw [List.flatMap_append, List.flatMap_cons]
  have lines (c : Category) : joined (front ++ c :: back) =
      [""].intercalate (before ++ (c.shown ++ behind)) := by
    rw [joined, parts]
  rw [lines, lines, parts]
  by_cases empty : c.items = []
  · rw [shown_eq_nil empty, shown_add_first empty, List.nil_append, List.singleton_append]
    cases first : before with
    | nil =>
      cases last : behind with
      | nil => exact ⟨[], own, [], by simp, by simp, by simp [IsBlock]⟩
      | cons y ys =>
        -- Only later categories are shown: the new one comes in front of them.
        refine ⟨[], own ++ [""], [""].intercalate (y :: ys), by simp, ?_, ?_⟩
        · rw [List.nil_append, List.intercalate_cons_cons, List.nil_append]
        · simp [IsBlock, empty]
    | cons x xs =>
      -- The new category comes behind those in front of it.
      refine ⟨[""].intercalate (x :: xs), "" :: own,
        joint [""] (x :: xs) behind ++ [""].intercalate behind, ?_, ?_, ?_⟩
      · rw [intercalate_append, List.append_assoc]
      · have rest : own :: behind = [own] ++ behind := rfl
        rw [intercalate_append, rest, intercalate_append]
        simp [joint]
      · simp [IsBlock, empty]
  · obtain ⟨old, new⟩ := shown_add_further empty own
    rw [old, new]
    -- The other items of the category, and all in front of them, stay where they are.
    refine ⟨[""].intercalate before ++ joint [""] before [[]] ++ c.gap.intercalate c.items,
      c.gap ++ own, joint [""] [[]] behind ++ [""].intercalate behind, ?_, ?_, ?_⟩
    · rw [intercalate_append, intercalate_append]
      simp [joint]
    · rw [intercalate_append, intercalate_append]
      simp [joint]
    · cases spaced : c.isSpaced <;> simp [IsBlock, empty, gap, spaced]

end Category

namespace Rendering

variable {α : Type} {render : α → Except Fault (List String)}

private theorem forall₂_append_left {α β : Type} {R : α → β → Prop} {xs ys : List α}
    {zs : List β} : List.Forall₂ R (xs ++ ys) zs ↔
      ∃ us vs, List.Forall₂ R xs us ∧ List.Forall₂ R ys vs ∧ zs = us ++ vs := by
  constructor
  · intro all
    induction xs generalizing zs with
    | nil => exact ⟨[], zs, .nil, all, rfl⟩
    | cons x rest ih =>
      obtain ⟨z, others, first, more, rfl⟩ := List.forall₂_cons_left_iff.mp all
      obtain ⟨us, vs, front, back, rfl⟩ := ih more
      exact ⟨z :: us, vs, .cons first front, back, rfl⟩
  · rintro ⟨us, vs, front, back, rfl⟩
    exact List.rel_append front back

private theorem each_concat {items : List α} {a : α} {found' : List (List String)} :
    each render (items ++ [a]) = .ok found' ↔ ∃ found own, each render items = .ok found ∧
      render a = .ok own ∧ found' = found ++ [own] := by
  rw [each_eq_ok, forall₂_append_left]
  constructor
  · rintro ⟨found, last, front, back, rfl⟩
    obtain ⟨own, others, given, rest, rfl⟩ := List.forall₂_cons_left_iff.mp back
    cases rest
    exact ⟨found, own, each_eq_ok.mpr front, given, rfl⟩
  · rintro ⟨found, own, front, given, rfl⟩
    exact ⟨found, [own], each_eq_ok.mp front, .cons given .nil, rfl⟩

private theorem gather_around {front back : List (Bool × Except Fault (List (List String)))}
    {isSpaced : Bool} {found : Except Fault (List (List String))} {cs : List Category} :
    gather (front ++ (isSpaced, found) :: back) = .ok cs ↔ ∃ before items behind,
      gather front = .ok before ∧ found = .ok items ∧ gather back = .ok behind ∧
        cs = before ++ ⟨isSpaced, items⟩ :: behind := by
  rw [gather_eq_ok, forall₂_append_left]
  constructor
  · rintro ⟨before, rest, ahead, others, rfl⟩
    obtain ⟨c, behind, ⟨spaced, given⟩, last, rfl⟩ := List.forall₂_cons_left_iff.mp others
    obtain ⟨_, items⟩ := c
    cases spaced
    exact ⟨before, items, behind, gather_eq_ok.mpr ahead, given, gather_eq_ok.mpr last, rfl⟩
  · rintro ⟨before, items, behind, ahead, given, last, rfl⟩
    exact ⟨before, _, gather_eq_ok.mp ahead, .cons ⟨rfl, given⟩ (gather_eq_ok.mp last), rfl⟩

end Rendering

namespace Member

private theorem categories_addTo {m : Member} {d : Declaration} (shown : m.isShown d.kind = true)
    (s : Settings) (inner : String) : ∃ front back found found',
      d.categories s inner = front ++ (m.isSpaced, found) :: back ∧
      (m.addTo d).categories s inner = front ++ (m.isSpaced, found') :: back ∧
      (∀ items', found' = .ok items' ↔ ∃ items own, found = .ok items ∧
        m.lines s d.kind inner = .ok own ∧ items' = items ++ [own]) ∧
      ∀ items, found = .ok items → items.isEmpty = !m.hasPeers d := by
  cases m with
  | indexSignature t =>
    refine ⟨[], _, _, _, rfl, rfl, fun _ => each_concat, fun items given => ?_⟩
    rw [isEmpty_of_each given, hasPeers, Bool.not_not]
  | field f =>
    refine ⟨[_], _, _, _, rfl, rfl, fun _ => each_concat, fun items given => ?_⟩
    rw [isEmpty_of_each given, hasPeers, Bool.not_not]
  | constructor c =>
    have old : d.shownConstructors = d.constructors := if_pos shown
    have new : (d.addConstructor c).shownConstructors = d.constructors ++ [c] := if_pos shown
    refine ⟨[_, _], [_, _, _], _, _, rfl, rfl, fun _ => ?_, fun items given => ?_⟩
    · rw [old, addTo, new]
      exact each_concat
    · rw [isEmpty_of_each given, old, hasPeers, Bool.not_not]
  | property p =>
    refine ⟨[_, _, _], _, _, _, rfl, rfl, fun _ => each_concat, fun items given => ?_⟩
    rw [isEmpty_of_each given, hasPeers, Bool.not_not]
  | method f =>
    refine ⟨[_, _, _, _], _, _, _, rfl, rfl, fun _ => each_concat, fun items given => ?_⟩
    rw [isEmpty_of_each given, hasPeers, Bool.not_not]
  | nested n =>
    refine ⟨[_, _, _, _, _], _, _, _, rfl, rfl, fun _ => each_concat, fun items given => ?_⟩
    rw [isEmpty_of_each given, hasPeers, Bool.not_not]

private theorem surface_addTo (m : Member) (d : Declaration) :
    (m.addTo d).kind = d.kind ∧
      (∀ indent, leadLines indent (m.addTo d).toSurface = leadLines indent d.toSurface) ∧
      ∀ indent, classHead indent (m.addTo d).toSurface = classHead indent d.toSurface := by
  cases m <;> exact ⟨rfl, fun _ => rfl, fun _ => rfl⟩

private theorem lines_unshown {m : Member} {d : Declaration} (container : d.kind.hasMembers = true)
    (hidden : m.isShown d.kind = false) (s : Settings) (indent : String) :
    (m.addTo d).lines s indent = d.lines s indent := by
  cases m with
  | constructor c =>
    have other : ¬ (d.kind == .classDecl) = true := by
      intro isClass
      exact absurd (hidden.symm.trans isClass) (by decide)
    have old : d.shownConstructors = [] := if_neg other
    have new : (d.addConstructor c).shownConstructors = [] := if_neg other
    have same (inner : String) :
        (d.addConstructor c).categories s inner = d.categories s inner := by
      unfold Declaration.categories
      rw [old, new]
      rfl
    rw [addTo, Declaration.lines_container (d := d.addConstructor c) container,
      Declaration.lines_container container]
    simp only [same]
    rfl
  | _ => cases hidden

private theorem lines_shown {m : Member} {d : Declaration} (container : d.kind.hasMembers = true)
    (shown : m.isShown d.kind = true) (s : Settings) (indent : String) :
    (Succeeds (d.lines s indent) → Succeeds (m.linesIn s d.kind indent) →
      Succeeds ((m.addTo d).lines s indent)) ∧
    ∀ ls', (m.addTo d).lines s indent = .ok ls' → ∃ left block right own,
      d.lines s indent = .ok (left ++ right) ∧ m.linesIn s d.kind indent = .ok own ∧
        ls' = left ++ block ++ right ∧ IsBlock (m.opensGap d) own block := by
  obtain ⟨sameKind, sameLead, sameHead⟩ := surface_addTo m d
  have container' : (m.addTo d).kind.hasMembers = true := by rw [sameKind, container]
  constructor
  · rintro ⟨ls, rendered⟩ ⟨own, alone⟩
    obtain ⟨lead, inner, head, cs, led, deeper, headed, gathered, rfl⟩ :=
      (Declaration.lines_eq_ok container).mp rendered
    obtain ⟨front, back, found, found', old, new, grown, _⟩ := categories_addTo shown s inner
    rw [old] at gathered
    obtain ⟨before, items, behind, ahead, given, last, rfl⟩ := gather_around.mp gathered
    rw [linesIn, deeper] at alone
    have whole : gather ((m.addTo d).categories s inner) =
        .ok (before ++ ⟨m.isSpaced, items ++ [own]⟩ :: behind) := by
      rw [new]
      exact gather_around.mpr
        ⟨before, _, behind, ahead, (grown _).mpr ⟨items, own, given, alone, rfl⟩, last, rfl⟩
    rw [← sameLead] at led
    rw [← sameHead] at headed
    exact ⟨_, (Declaration.lines_eq_ok container').mpr
      ⟨lead, inner, head, _, led, deeper, headed, whole, rfl⟩⟩
  · intro ls' rendered
    obtain ⟨lead, inner, head, cs, led, deeper, headed, gathered, rfl⟩ :=
      (Declaration.lines_eq_ok container').mp rendered
    obtain ⟨front, back, found, found', old, new, grown, peers⟩ := categories_addTo shown s inner
    rw [new] at gathered
    obtain ⟨before, items', behind, ahead, given', last, rfl⟩ := gather_around.mp gathered
    obtain ⟨items, own, given, alone, rfl⟩ := (grown _).mp given'
    have whole : gather (d.categories s inner) =
        .ok (before ++ ⟨m.isSpaced, items⟩ :: behind) := by
      rw [old]
      exact gather_around.mpr ⟨before, items, behind, ahead, given, last, rfl⟩
    obtain ⟨left, block, right, without, within, isBlock⟩ :=
      Category.joined_add before behind ⟨m.isSpaced, items⟩ own
    rw [sameLead] at led
    rw [sameHead] at headed
    refine ⟨lead ++ [head] ++ left, block, right ++ [indent ++ "\x7d"], own, ?_, ?_, ?_, ?_⟩
    · refine (Declaration.lines_eq_ok container).mpr
        ⟨lead, inner, head, _, led, deeper, headed, whole, ?_⟩
      rw [without]
      simp only [List.append_assoc]
    · rw [linesIn, deeper]
      exact alone
    · rw [Category.add] at within
      rw [within]
      simp only [List.append_assoc]
    · have count : (d.categoryCount != 0) =
          decide ((before ++ ⟨m.isSpaced, items⟩ :: behind).flatMap Category.shown ≠ []) := by
        rw [← Declaration.length_shown whole, Bool.eq_iff_iff, decide_eq_true_iff, bne_iff_ne,
          ne_eq, List.length_eq_zero_iff]
      rw [opensGap, count, ← peers items given]
      exact isBlock

end Member

namespace Mutation

private theorem addTo_of_apply {call : Mutation} {b b' : Declaration}
    (adding : call.mutator.addsMember = true) (done : call.apply b = .ok b') :
    ∃ m : Member, m.mutator = call.mutator ∧ b' = m.addTo b := by
  cases call with
  | field f =>
    cases done
    exact ⟨.field (.good f), rfl, rfl⟩
  | newField name type configure =>
    obtain ⟨f, _, same⟩ := bind_eq_ok.mp done
    cases same
    exact ⟨.field f, rfl, rfl⟩
  | property p =>
    cases done
    exact ⟨.property (.good p), rfl, rfl⟩
  | newProperty name type configure =>
    obtain ⟨p, _, same⟩ := bind_eq_ok.mp done
    cases same
    exact ⟨.property p, rfl, rfl⟩
  | method f =>
    cases done
    exact ⟨.method (.good f), rfl, rfl⟩
  | newMethod name configure =>
    obtain ⟨f, _, same⟩ := bind_eq_ok.mp done
    cases same
    exact ⟨.method f, rfl, rfl⟩
  | constructor c =>
    cases done
    exact ⟨.constructor (.good c), rfl, rfl⟩
  | newConstructor configure =>
    cases configure with
    | none =>
      cases done
      exact ⟨.constructor (.good {}), rfl, rfl⟩
    | some configure =>
      obtain ⟨c, _, same⟩ := bind_eq_ok.mp done
      cases same
      exact ⟨.constructor c, rfl, rfl⟩
  | indexSignature keyName keyType valueType =>
    obtain ⟨name, _, done⟩ := bind_eq_ok.mp done
    obtain ⟨key, _, done⟩ := bind_eq_ok.mp done
    obtain ⟨value, _, same⟩ := bind_eq_ok.mp done
    cases same
    exact ⟨.indexSignature _, rfl, rfl⟩
  | nested n =>
    cases done
    exact ⟨.nested n, rfl, rfl⟩
  | _ => cases adding

/-- Main theorem. A call that adds a member to a class or interface adds it to one category. If the
kind shows the member, then the declaration has lines as before and one block between them, which is
the lines that the member has alone, with one empty line on one side of them if there was something
else and the member is the first of its category, or a method or nested declaration. If the kind
does not show it, all lines are as before. -/
theorem apply_inserts {b b' : Declaration} {call : Mutation} (container : b.kind.hasMembers = true)
    (adding : call.mutator.addsMember = true) (done : call.apply b = .ok b') :
    ∃ m : Member, m.mutator = call.mutator ∧ b' = m.addTo b ∧ ∀ (s : Settings) (indent : String),
      (m.isShown b.kind = false → b'.lines s indent = b.lines s indent) ∧
      (m.isShown b.kind = true →
        (Succeeds (b.lines s indent) → Succeeds (m.linesIn s b.kind indent) →
          Succeeds (b'.lines s indent)) ∧
        ∀ ls', b'.lines s indent = .ok ls' → ∃ left block right own,
          b.lines s indent = .ok (left ++ right) ∧ m.linesIn s b.kind indent = .ok own ∧
            ls' = left ++ block ++ right ∧ IsBlock (m.opensGap b) own block) := by
  obtain ⟨m, same, rfl⟩ := addTo_of_apply adding done
  exact ⟨m, same, rfl, fun s indent =>
    ⟨fun hidden => Member.lines_unshown container hidden s indent,
      fun shown => Member.lines_shown container shown s indent⟩⟩

def runner : Declaration where
  name := "Box"
  methods := [.good { name := "run" }]

/-- The theorem at work: the first field of a class that has a method, in front of which it stands
with an empty line behind it. -/
theorem apply_inserts_field :
    ∃ b', apply (.newField "x" "number" none) runner = .ok b' ∧ runner.kind.hasMembers = true ∧
      ∃ left block right, runner.lines {} "" = .ok (left ++ right) ∧
        b'.lines {} "" = .ok (left ++ block ++ right) ∧
        (block = "" :: ["  x: number;"] ∨ block = ["  x: number;"] ++ [""]) := by
  have done : apply (.newField "x" "number" none) runner = .ok _ := rfl
  refine ⟨_, done, rfl, ?_⟩
  obtain ⟨m, same, grown, inserts⟩ := apply_inserts (b := runner) rfl rfl done
  cases m with
  | field f =>
    have new : f = .good { name := "x", type := "number" } := by
      have fields := congrArg (fun d : Declaration => d.fields) grown
      exact (List.cons.inj fields).1.symm
    subst new
    obtain ⟨left, block, right, own, before, alone, after, isBlock⟩ :=
      ((inserts {} "").2 rfl).2 _ rfl
    cases alone
    exact ⟨left, block, right, before, congrArg Except.ok after, isBlock⟩
  | _ => cases same

end Mutation

end TypeScriptGen
