import TypeScriptGen.Proofs.Categories
import TypeScriptGen.Proofs.LineBreaks

/-!
What the lines of a declaration are. The declaration alone says which lines it has, what each of
them is, and so which of them are ended like a statement; the settings say with what. Main
statement: two renderings whose settings differ in the semicolons only have the same lines but for a
semicolon behind each of those, and two whose settings differ in the trailing commas only have the
same lines but for a comma behind the last member of each enum.
-/

set_option autoImplicit false
set_option relaxedAutoImplicit false

namespace TypeScriptGen

open Rendering Step

/-! Roles of lines. -/

/-- What a line is, of a declaration or of the file that holds it. -/
inductive LineRole where
  | heading | imported | separator | doc | decorator | opening | closing | emptyBlock | statement
  | aliased | indexSignature | field | property | overload | signature | superCall | returned
  | enumMember | lastEnumMember
deriving DecidableEq, Repr

namespace LineRole

/-- The line is ended like a statement, if the settings want that. -/
def isTerminated : LineRole → Bool
  | .aliased | .indexSignature | .field | .property | .overload | .signature | .superCall
  | .returned => true
  | .heading | .imported | .separator | .doc | .decorator | .opening | .closing | .emptyBlock
  | .statement | .enumMember | .lastEnumMember => false

/-- The line is the same whatever the settings have for the ends of lines. -/
def isFixed (r : LineRole) : Bool := !r.isTerminated && r != .lastEnumMember

def ending (s : Settings) (r : LineRole) : String :=
  if r.isTerminated then s.semicolon
  else if r == .lastEnumMember then flag s.trailingCommas.holds "," else ""

/-- A line with what the settings put behind it. -/
def finish (s : Settings) (r : LineRole) (t : String) : String := t ++ r.ending s

/-- A line with a semicolon, if it is ended like a statement. -/
def terminated (r : LineRole) (t : String) : String := if r.isTerminated then t ++ ";" else t

/-- A line with a comma, if it is the last member of an enum. -/
def trailed (r : LineRole) (t : String) : String := if r = .lastEnumMember then t ++ "," else t

end LineRole

def Supplied.bodyRoles : Supplied Body → List LineRole
  | .good b => .replicate (b.statements.flatMap Text.lines).length .statement
  | .stray _ => []

def Constructor.roles (c : Constructor) : List LineRole :=
  let lead : List LineRole := .replicate c.overloads.length .overload
  if c.body.isNone && c.superArguments.isEmpty then lead ++ [.emptyBlock]
  else lead ++ [.opening] ++ (if c.superArguments.isEmpty then [] else [.superCall]) ++
    c.body.elim [] Supplied.bodyRoles ++ [.closing]

def Property.getterRoles (p : Property) : List LineRole :=
  if p.hasGetter then
    [.opening] ++ (if p.getterExpression.isSome then [.returned]
      else p.getterBody.elim [] Supplied.bodyRoles) ++ [.closing]
  else []

def Property.setterRoles (p : Property) : List LineRole :=
  p.setterBody.elim [] fun body => [.opening] ++ body.bodyRoles ++ [.closing]

def Property.roles (p : Property) : List LineRole :=
  if p.hasAccessor then p.getterRoles ++ p.setterRoles else [.property]

def Method.roles (kind : Kind) (d : Method) : List LineRole :=
  let lead : List LineRole :=
    .replicate d.decorators.length .decorator ++ .replicate d.overloads.length .overload
  if isSignature kind d then lead ++ [.signature]
  else if d.expressionBody.isSome then lead ++ [.opening, .returned, .closing]
  else d.body.elim (lead ++ [.emptyBlock]) fun body =>
    lead ++ [.opening] ++ body.bodyRoles ++ [.closing]

def Value.docRoles : Value → List LineRole
  | .text t => [.doc] ++ .replicate (Text.lines t).length .doc ++ [.doc]
  | _ => []

def enumRoles : List (Value × Option String) → List LineRole
  | [] => []
  | [_] => [.lastEnumMember]
  | _ :: rest => .enumMember :: enumRoles rest

def Supplied.rolesBy {α : Type} (roles : α → List LineRole) : Supplied α → List LineRole
  | .good a => roles a
  | .stray _ => []

/-- The roles of the lines of one category of items, `gap` between two items, if it has any. -/
def roleCategory (gap : List LineRole) (items : List (List LineRole)) : List (List LineRole) :=
  if items.isEmpty then [] else [gap.intercalate items]

def Surface.memberRoles (d : Surface) : List (List LineRole) :=
  roleCategory [] (d.indexSignatures.map fun _ => [.indexSignature]) ++
    roleCategory [] (d.fields.map fun _ => [.field]) ++
    roleCategory [] (d.shownConstructors.map (Supplied.rolesBy Constructor.roles)) ++
    roleCategory [] (d.properties.map (Supplied.rolesBy Property.roles)) ++
    roleCategory [.separator] (d.methods.map (Supplied.rolesBy (Method.roles d.kind)))

mutual

def Declaration.roles : Declaration → List LineRole
  | ⟨d, nested⟩ =>
    let lead := d.doc.docRoles ++ .replicate d.decorators.length .decorator
    match d.kind with
    | .typeAlias => lead ++ [.aliased]
    | .enumDecl | .constEnum => lead ++ ([.opening] ++ enumRoles d.enumMembers ++ [.closing])
    | .classDecl | .interfaceDecl =>
      let categories := d.memberRoles ++ roleCategory [.separator] (nestedRoles nested)
      lead ++ [.opening] ++ [.separator].intercalate categories ++ [.closing]

def nestedRoles : List (Supplied Declaration) → List (List LineRole)
  | [] => []
  | .good d :: rest => d.roles :: nestedRoles rest
  | .stray _ :: rest => [] :: nestedRoles rest

end

/-- The roles of the lines in front of a declaration in its file. -/
def Settings.preambleRoles (s : Settings) (d : Surface) : List LineRole :=
  (if s.header.isNone then [] else [.heading, .separator]) ++
    (if d.imports.isEmpty then [] else .replicate d.imports.length .imported ++ [.separator])

def Declaration.fileRoles (s : Settings) (d : Declaration) : List LineRole :=
  s.preambleRoles d.toSurface ++ d.roles

/-! Lines of the same roles. -/

/-- Three lists of the same length whose items are related one by one. -/
inductive Aligned {α β γ : Type} (R : α → β → γ → Prop) : List α → List β → List γ → Prop where
  | nil : Aligned R [] [] []
  | cons {a : α} {b : β} {c : γ} {as : List α} {bs : List β} {cs : List γ} (first : R a b c)
      (others : Aligned R as bs cs) : Aligned R (a :: as) (b :: bs) (c :: cs)

namespace Aligned

variable {α β γ : Type} {R : α → β → γ → Prop}

theorem single {a : α} {b : β} {c : γ} (one : R a b c) : Aligned R [a] [b] [c] := .cons one .nil

theorem append {as as' : List α} {bs bs' : List β} {cs cs' : List γ} (one : Aligned R as bs cs)
    (other : Aligned R as' bs' cs') : Aligned R (as ++ as') (bs ++ bs') (cs ++ cs') := by
  induction one with
  | nil => exact other
  | cons first _ ih => exact .cons first ih

theorem intercalate {gap : List α} {gap' : List β} {gap'' : List γ} {rss : List (List α)}
    {bss : List (List β)} {css : List (List γ)} (between : Aligned R gap gap' gap'')
    (parts : Aligned (Aligned R) rss bss css) :
    Aligned R (gap.intercalate rss) (gap'.intercalate bss) (gap''.intercalate css) := by
  induction parts with
  | nil => exact .nil
  | cons first others ih =>
    cases others with
    | nil => simpa only [List.intercalate_singleton] using first
    | cons second more =>
      simp only [List.intercalate_cons_cons]
      exact (first.append between).append ih

end Aligned

def Settings.bare (s : Settings) : Settings :=
  { s with semicolons := .bool false, trailingCommas := .bool false }

/-- The lines of these roles, finished as the settings want it. -/
abbrev Finished (s : Settings) : List LineRole → List String → List String → Prop :=
  Aligned fun r bare shown => shown = r.finish s bare

namespace Finished

variable {s : Settings}

theorem terminated {r : LineRole} (ended : r.isTerminated = true) (t : String) :
    Finished s [r] [t ++ s.bare.semicolon] [t ++ s.semicolon] := by
  have empty : s.bare.semicolon = "" := rfl
  refine .single ?_
  rw [empty, String.append_empty, LineRole.finish, LineRole.ending, if_pos ended]

theorem last (t : String) : Finished s [.lastEnumMember] [t ++ flag s.bare.trailingCommas.holds ","]
    [t ++ flag s.trailingCommas.holds ","] := by
  have empty : flag s.bare.trailingCommas.holds "," = "" := rfl
  refine .single ?_
  rw [empty, String.append_empty]
  rfl

theorem fixed {roles : List LineRole} {ls : List String} (fixed : ∀ r ∈ roles, r.isFixed = true)
    (count : roles.length = ls.length) : Finished s roles ls ls := by
  induction roles generalizing ls with
  | nil =>
    rw [List.eq_nil_of_length_eq_zero count.symm]
    exact .nil
  | cons r roles ih =>
    obtain ⟨first, others⟩ := List.forall_mem_cons.mp fixed
    cases ls with
    | nil => cases count
    | cons l ls =>
      refine .cons ?_ (ih others (Nat.succ.inj count))
      simp only [LineRole.isFixed, Bool.and_eq_true, Bool.not_eq_true', bne_iff_ne] at first
      simp [LineRole.finish, LineRole.ending, first]

theorem one {r : LineRole} (always : r.isFixed = true) (l : String) : Finished s [r] [l] [l] :=
  fixed (List.forall_mem_singleton.mpr always) rfl

theorem replicate {r : LineRole} (always : r.isFixed = true) {n : Nat} {ls : List String}
    (count : ls.length = n) : Finished s (.replicate n r) ls ls := by
  refine fixed (fun r' member => ?_) (by rw [List.length_replicate, count])
  rw [List.eq_of_mem_replicate member]
  exact always

end Finished

namespace Rendering

theorem length_toTexts (vs : List Value) :
    Ensures (fun ts => ts.length = vs.length) (Value.toTexts vs) := by
  induction vs with
  | nil => exact .pure rfl
  | cons v rest ih => exact .after fun t => .bind ih fun ts count => .pure (congrArg (· + 1) count)

variable {s : Settings}

theorem finished_each {α : Type} {roles : α → List LineRole}
    {render render' : α → Except Fault (List String)} (all : ∀ a, Agree (Finished s (roles a))
      (render a) (render' a)) (items : List α) :
    Agree (Aligned (Finished s) (items.map roles)) (each render items) (each render' items) := by
  induction items with
  | nil => exact .value .nil
  | cons a rest ih =>
    exact (all a).bind fun _ _ first => ih.bind fun _ _ others => .pure (.cons first others)

theorem finished_category {gap : List LineRole} {gap' : List String}
    (between : Finished s gap gap' gap') {α : Type} {roles : α → List LineRole}
    {render render' : α → Except Fault (List String)} (all : ∀ a, Agree (Finished s (roles a))
      (render a) (render' a)) (items : List α) :
    Agree (Aligned (Finished s) (roleCategory gap (items.map roles)))
      (category gap' render items) (category gap' render' items) := by
  unfold category
  cases items with
  | nil => exact .pure .nil
  | cons a rest =>
    refine (finished_each all (a :: rest)).bind fun found found' aligned => .pure ?_
    exact .single (.intercalate between aligned)

variable (s)

theorem finished_decoratorLines (indent : String) (vs : List Value) :
    Agree (Finished s (.replicate vs.length .decorator)) (decoratorLines indent vs)
      (decoratorLines indent vs) := by
  -- The settings have no part in these lines; what has to be known is how many there are.
  refine .refl (.bind ?_ fun groups count => .pure (.replicate rfl count))
  induction vs with
  | nil => exact .pure rfl
  | cons v rest ih =>
    refine .bind (P := fun ls => ls.length = 1) (.after fun t => .pure rfl) fun ls one =>
      .bind ih fun more count => .pure ?_
    rw [List.flatten_cons, List.length_append, one, count, List.length_cons, Nat.add_comm]

theorem finished_signatureLines (indent : String) (vs : List Value) :
    Agree (Finished s (.replicate vs.length .overload)) (signatureLines s.bare indent vs)
      (signatureLines s indent vs) := by
  refine .ensured (length_toTexts vs) fun texts count => .pure ?_
  rw [← count]
  clear count
  induction texts with
  | nil => exact .nil
  | cons t rest ih => exact (Finished.terminated rfl (indent ++ t)).append ih

theorem finished_docLines (indent : String) (doc : Value) :
    Agree (Finished s doc.docRoles) (docLines indent doc) (docLines indent doc) := by
  cases doc with
  | none => exact .value .nil
  | text t =>
    have count : (Text.leadLines (indent ++ " * ") t).length = (Text.lines t).length :=
      List.length_map _
    exact .value (((Finished.one rfl _).append (Finished.replicate rfl count)).append
      (Finished.one rfl _))
  | _ => exact .fault _

theorem finished_bodyLines (indent : String) (body : Supplied Body) :
    Agree (Finished s body.bodyRoles) (bodyLines indent body) (bodyLines indent body) := by
  cases body with
  | stray v => exact .fault _
  | good b =>
    refine .value (Finished.replicate rfl ?_)
    simp only [Text.leadLines, List.length_flatMap, List.length_map]

theorem finished_optionalBodyLines (indent : String) (body : Option (Supplied Body)) :
    Agree (Finished s (body.elim [] Supplied.bodyRoles)) (optionalBodyLines indent body)
      (optionalBodyLines indent body) := by
  cases body with
  | none => exact .value .nil
  | some supplied => exact finished_bodyLines s indent supplied

theorem finished_fieldLines (indent : String) (f : Supplied Field) :
    Agree (Finished s [.field]) (fieldLines s.bare indent f) (fieldLines s indent f) := by
  cases f with
  | stray v => exact .refl (.after fun _ => .after fun _ => .error _)
  | good f =>
    have line : Agree (fun l l' => Finished s [.field] [l] [l']) (fieldLine s.bare indent f)
        (fieldLine s indent f) := .same _ fun access => .pure (Finished.terminated rfl _)
    exact line.bind fun _ _ shown => .pure shown

theorem finished_constructorLines (indent : String) (c : Supplied Constructor) :
    Agree (Finished s (c.rolesBy Constructor.roles)) (constructorLines s.bare indent c)
      (constructorLines s indent c) := by
  refine .same (s.deeper indent) fun inner => ?_
  cases c with
  | stray v =>
    refine .refl ?_
    exact .after fun overloads => .after fun items => .after fun _ => .after fun access =>
      .after fun _ => .after fun parameters => .after fun ps => .after fun _ => .error _
  | good c =>
    refine (finished_signatureLines s indent c.overloads).bind fun _ _ overloads =>
      .same _ fun access => .same _ fun parameters => ?_
    change Agree (Finished s c.roles) _ _
    unfold Constructor.roles
    split
    · exact .pure (overloads.append (Finished.one rfl _))
    · refine (finished_optionalBodyLines s inner c.body).bind fun _ _ body => .pure ?_
      -- The call stands in front of the statements of the body.
      have call (front : String) : Finished s
          (if c.superArguments.isEmpty then [] else [.superCall])
          (if c.superArguments.isEmpty then [] else [front ++ s.bare.semicolon])
          (if c.superArguments.isEmpty then [] else [front ++ s.semicolon]) := by
        split
        · exact .nil
        · exact Finished.terminated rfl _
      exact (((overloads.append (Finished.one rfl _)).append (call _)).append body).append
        (Finished.one rfl _)

theorem finished_getterLines (indent inner modifiers : String) (p : Property) :
    Agree (Finished s p.getterRoles) (getterLines s.bare indent inner modifiers p)
      (getterLines s indent inner modifiers p) := by
  unfold getterLines Property.getterRoles
  cases p.hasGetter with
  | false => exact .value .nil
  | true =>
    cases p.getterExpression with
    | some e =>
      exact .value (((Finished.one rfl _).append (Finished.terminated rfl _)).append
        (Finished.one rfl _))
    | none =>
      exact (finished_optionalBodyLines s inner p.getterBody).bind fun _ _ body =>
        .pure (((Finished.one rfl _).append body).append (Finished.one rfl _))

theorem finished_setterLines (indent inner modifiers : String) (p : Property) :
    Agree (Finished s p.setterRoles) (setterLines indent inner modifiers p)
      (setterLines indent inner modifiers p) := by
  unfold setterLines Property.setterRoles
  cases p.setterBody with
  | none => exact .value .nil
  | some supplied =>
    exact (finished_bodyLines s inner supplied).bind fun _ _ body =>
      .pure (((Finished.one rfl _).append body).append (Finished.one rfl _))

theorem finished_propertyLines (indent : String) (p : Supplied Property) :
    Agree (Finished s (p.rolesBy Property.roles)) (propertyLines s.bare indent p)
      (propertyLines s indent p) := by
  cases p with
  | stray v => exact .fault _
  | good p =>
    change Agree (Finished s p.roles) (if !p.hasAccessor then _ else _)
      (if !p.hasAccessor then _ else _)
    unfold Property.roles
    cases p.hasAccessor with
    | false =>
      have line : Agree (fun l l' => Finished s [.property] [l] [l']) (propertyLine s.bare indent p)
          (propertyLine s indent p) := .same _ fun access => .pure (Finished.terminated rfl _)
      exact line.bind fun _ _ shown => .pure shown
    | true =>
      exact .same (s.deeper indent) fun inner => .same _ fun access =>
        (finished_getterLines s indent inner _ p).bind fun _ _ getter =>
          (finished_setterLines s indent inner _ p).bind fun _ _ setter =>
            .pure (getter.append setter)

theorem finished_methodLines (kind : Kind) (indent : String) (m : Supplied Method) :
    Agree (Finished s (m.rolesBy (Method.roles kind))) (methodLines s.bare kind indent m)
      (methodLines s kind indent m) := by
  refine .same (s.deeper indent) fun inner => ?_
  cases m with
  | stray v => exact .refl (.after fun _ => .after fun _ => .after fun _ => .error _)
  | good d =>
    refine (finished_decoratorLines s indent d.decorators).bind fun _ _ decorators =>
      (finished_signatureLines s indent d.overloads).bind fun _ _ overloads =>
        .same _ fun head => ?_
    have lead := decorators.append overloads
    change Agree (Finished s (d.roles kind)) _ _
    unfold Method.roles
    split
    · exact .pure (lead.append (Finished.terminated rfl head))
    · cases d.expressionBody with
      | some e =>
        exact .pure (lead.append ((Finished.one rfl _).append ((Finished.terminated rfl _).append
          (Finished.one rfl _))))
      | none =>
        cases d.body with
        | none => exact .pure (lead.append (Finished.one rfl _))
        | some supplied =>
          exact (finished_bodyLines s inner supplied).bind fun _ _ body =>
            .pure (((lead.append (Finished.one rfl _)).append body).append (Finished.one rfl _))

theorem finished_aliasLine (indent : String) (d : Surface) :
    Agree (fun l l' => Finished s [.aliased] [l] [l']) (aliasLine s.bare indent d)
      (aliasLine s indent d) :=
  .same _ fun _ => .pure (Finished.terminated rfl _)

theorem finished_enumMemberLines (inner : String) (members : List (Value × Option String)) :
    Agree (Finished s (enumRoles members))
      (enumMemberLines inner (flag s.bare.trailingCommas.holds ",") members)
      (enumMemberLines inner (flag s.trailingCommas.holds ",") members) := by
  induction members with
  | nil => exact .value .nil
  | cons m rest ih =>
    obtain ⟨name, value⟩ := m
    cases rest with
    | nil =>
      have line : Agree (fun l l' => Finished s [.lastEnumMember] [l] [l'])
          (enumMemberLine inner (flag s.bare.trailingCommas.holds ",") name value)
          (enumMemberLine inner (flag s.trailingCommas.holds ",") name value) :=
        .same name.toText fun _ => .pure (Finished.last _)
      exact line.bind fun _ _ shown => .pure shown
    | cons m' rest =>
      exact .same (enumMemberLine inner "," name value) fun l => ih.bind fun _ _ more =>
        .pure ((Finished.one (r := .enumMember) rfl l).append more)

theorem finished_enumLines (indent : String) (d : Surface) :
    Agree (Finished s ([.opening] ++ enumRoles d.enumMembers ++ [.closing]))
      (enumLines s.bare indent d) (enumLines s indent d) :=
  .same (s.deeper indent) fun inner => .same _ fun _ =>
    (finished_enumMemberLines s inner d.enumMembers).bind fun _ _ members =>
      .pure (((Finished.one rfl _).append members).append (Finished.one rfl _))

theorem finished_memberCategories (inner : String) (d : Surface) :
    Agree (Aligned (Finished s) d.memberRoles) (memberCategories s.bare inner d)
      (memberCategories s inner d) := by
  refine (finished_category .nil (fun _ => .pure (Finished.terminated (r := .indexSignature) rfl _))
    d.indexSignatures).bind fun _ _ signatures => ?_
  refine (finished_category .nil (finished_fieldLines s inner) d.fields).bind fun _ _ fields => ?_
  refine (finished_category .nil (finished_constructorLines s inner) d.shownConstructors).bind
    fun _ _ constructors => ?_
  refine (finished_category .nil (finished_propertyLines s inner) d.properties).bind
    fun _ _ properties => ?_
  refine (finished_category (Finished.one (r := .separator) rfl "")
    (finished_methodLines s d.kind inner) d.methods).bind fun _ _ methods => .pure ?_
  exact (((signatures.append fields).append constructors).append properties).append methods

theorem finished_nestedLines {indent : String} {nested : List (Supplied Declaration)}
    (all : ∀ n, .good n ∈ nested →
      Agree (Finished s n.roles) (n.lines s.bare indent) (n.lines s indent)) :
    Agree (Aligned (Finished s) (nestedRoles nested)) (nestedLines s.bare indent nested)
      (nestedLines s indent nested) := by
  induction nested with
  | nil => exact .value .nil
  | cons n rest ih =>
    have others := ih fun m member => all m (List.mem_cons_of_mem n member)
    cases n with
    | stray v => exact .fault _
    | good d =>
      exact (all d List.mem_cons_self).bind fun _ _ first => others.bind fun _ _ more =>
        .pure (.cons first more)

theorem finished_nestedGroup {nested : List (Supplied Declaration)}
    {found found' : List (List String)}
    (aligned : Aligned (Finished s) (nestedRoles nested) found found') :
    Aligned (Finished s) (roleCategory [.separator] (nestedRoles nested))
      (if nested.isEmpty then [] else [[""].intercalate found])
      (if nested.isEmpty then [] else [[""].intercalate found']) := by
  cases nested with
  | nil => exact .nil
  | cons n rest =>
    have group :=
      Aligned.single (Aligned.intercalate (Finished.one (r := .separator) rfl "") aligned)
    cases n <;> exact group

theorem finished_container {indent : String} {d : Surface} {nested : List (Supplied Declaration)}
    (within : ∀ inner, Agree (Aligned (Finished s) (nestedRoles nested))
      (nestedLines s.bare inner nested) (nestedLines s inner nested)) {lead : List LineRole}
    {ls ls' : List String} (front : Finished s lead ls ls') :
    Agree (Finished s (lead ++ [.opening] ++ [.separator].intercalate
        (d.memberRoles ++ roleCategory [.separator] (nestedRoles nested)) ++ [.closing]))
      (do
        let inner ← s.bare.deeper indent
        let head ← classHead indent d
        let members ← memberCategories s.bare inner d
        let inside ← nestedLines s.bare inner nested
        let categories := members ++ if nested.isEmpty then [] else [[""].intercalate inside]
        return ls ++ [head] ++ [""].intercalate categories ++ [indent ++ "\x7d"])
      (do
        let inner ← s.deeper indent
        let head ← classHead indent d
        let members ← memberCategories s inner d
        let inside ← nestedLines s inner nested
        let categories := members ++ if nested.isEmpty then [] else [[""].intercalate inside]
        return ls' ++ [head] ++ [""].intercalate categories ++ [indent ++ "\x7d"]) := by
  refine .same (s.deeper indent) fun inner => .same _ fun head =>
    (finished_memberCategories s inner d).bind fun _ _ members =>
      (within inner).bind fun _ _ inside => .pure ?_
  have categories := members.append (finished_nestedGroup s inside)
  exact ((front.append (Finished.one rfl head)).append
    (.intercalate (Finished.one rfl "") categories)).append (Finished.one rfl _)

end Rendering

namespace Declaration

/-- The lines of a declaration have its roles, and are those without semicolons and trailing commas
but for what the settings put behind them. -/
theorem finished_lines (s : Settings) (d : Declaration) : ∀ indent,
    Agree (Finished s d.roles) (d.lines s.bare indent) (d.lines s indent) := by
  induction d using nestedInduction with
  | step d within =>
    intro indent
    obtain ⟨d, nested⟩ := d
    unfold lines roles
    refine (finished_docLines s indent d.doc).bind fun _ _ doc =>
      (finished_decoratorLines s indent d.decorators).bind fun _ _ decorators => ?_
    have lead := doc.append decorators
    cases d.kind with
    | typeAlias =>
      exact (finished_aliasLine s indent d).bind fun _ _ line => .pure (lead.append line)
    | enumDecl =>
      exact (finished_enumLines s indent d).bind fun _ _ enum => .pure (lead.append enum)
    | constEnum =>
      exact (finished_enumLines s indent d).bind fun _ _ enum => .pure (lead.append enum)
    | classDecl =>
      exact finished_container s (fun inner => finished_nestedLines s fun n member =>
        within n member inner) lead
    | interfaceDecl =>
      exact finished_container s (fun inner => finished_nestedLines s fun n member =>
        within n member inner) lead

end Declaration

/-! The lines of a file. -/

namespace Rendering

theorem fixed_preambleRoles (s : Settings) (d : Surface) :
    ∀ r ∈ s.preambleRoles d, r.isFixed = true := by
  unfold Settings.preambleRoles
  refine List.forall_mem_append.mpr ⟨?_, ?_⟩
  · split
    · exact List.forall_mem_nil _
    · decide
  · split
    · exact List.forall_mem_nil _
    · refine List.forall_mem_append.mpr ⟨fun r member => ?_, by decide⟩
      rw [List.eq_of_mem_replicate member]
      rfl

theorem length_preambleRoles (s : Settings) (d : Surface) :
    (s.preambleRoles d).length = (preamble s d).length := by
  unfold Settings.preambleRoles preamble
  rw [List.length_append, List.length_append]
  congr 1
  · split <;> rfl
  · split
    · rfl
    · rw [List.length_append, List.length_append, List.length_replicate]
      rfl

theorem finished_lineTexts {s : Settings} {above roles : List LineRole} {vs : List Value}
    {ls ls' : List String} (fixed : ∀ r ∈ above, r.isFixed = true)
    (count : above.length = vs.length) (below : Finished s roles ls ls') (index : Nat) :
    Agree (Finished s (above ++ roles)) (lineTexts index (vs ++ ls.map .text))
      (lineTexts index (vs ++ ls'.map .text)) := by
  induction vs generalizing above index with
  | nil =>
    rw [List.eq_nil_of_length_eq_zero count]
    clear count fixed
    induction below generalizing index with
    | nil => exact .value .nil
    | cons first _ ih => exact (ih (index + 1)).bind fun _ _ more => .pure (.cons first more)
  | cons v rest ih =>
    cases above with
    | nil => cases count
    | cons r above =>
      obtain ⟨first, others⟩ := List.forall_mem_cons.mp fixed
      cases v with
      | text t =>
        exact (ih others (Nat.succ.inj count) (index + 1)).bind fun _ _ more =>
          .pure ((Finished.one first t).append more)
      | _ => exact .fault _

end Rendering

theorem Declaration.finished_fileLines (s : Settings) (d : Declaration) :
    Agree (Finished s (d.fileRoles s)) (d.fileLines s.bare) (d.fileLines s) :=
  (d.finished_lines s "").bind fun _ _ below =>
    finished_lineTexts (fixed_preambleRoles s d.toSurface) (length_preambleRoles s d.toSurface)
      below 0

/-! Two renderings. -/

/-- The first rendering has lines of these roles, and the second one has the same lines, each
changed by its role. -/
def DiffersBy (change : LineRole → String → String) (roles : List LineRole)
    (x y : Except Fault (List String)) : Prop :=
  Ensures (fun ls => ls.length = roles.length) x ∧ y = x.map (List.zipWith change roles)

section TwoSettings

variable {s s' : Settings} {change : LineRole → String → String}
  (turns : ∀ r t, change r (r.finish s t) = r.finish s' t) {roles : List LineRole}
include turns

private theorem zipWith_of_finished {texts ls ls' : List String} (one : Finished s roles texts ls)
    (other : Finished s' roles texts ls') :
    ls.length = roles.length ∧ ls' = List.zipWith change roles ls := by
  induction one generalizing ls' with
  | nil =>
    cases other
    exact ⟨rfl, rfl⟩
  | cons first _ ih =>
    cases other with
    | cons first' others =>
      obtain ⟨count, same⟩ := ih others
      refine ⟨congrArg (· + 1) count, ?_⟩
      rw [List.zipWith_cons_cons, ← same, first, first', turns]

private theorem differsBy_of_agree {bare x y : Except Fault (List String)}
    (one : Agree (Finished s roles) bare x) (other : Agree (Finished s' roles) bare y) :
    DiffersBy change roles x y := by
  cases one with
  | fault wrong =>
    cases other
    exact ⟨.error wrong, rfl⟩
  | value shown =>
    cases other with
    | value shown' =>
      obtain ⟨count, same⟩ := zipWith_of_finished turns shown shown'
      exact ⟨.pure count, congrArg Except.ok same⟩

end TwoSettings

namespace LineRole

variable {on off : Value} (yes : on.holds = true) (no : off.holds = false)
include yes no

theorem terminated_finish (s : Settings) (r : LineRole) (t : String) :
    terminated r (r.finish { s with semicolons := off } t) =
      r.finish { s with semicolons := on } t := by
  have wanted : Settings.semicolon { s with semicolons := on } = ";" := if_pos yes
  have unwanted : Settings.semicolon { s with semicolons := off } = "" :=
    if_neg (Bool.eq_false_iff.mp no)
  unfold terminated finish ending
  rw [wanted, unwanted]
  cases r.isTerminated with
  | false => rfl
  | true => rw [if_pos rfl, if_pos rfl, if_pos rfl, String.append_empty]

theorem trailed_finish (s : Settings) (r : LineRole) (t : String) :
    trailed r (r.finish { s with trailingCommas := off } t) =
      r.finish { s with trailingCommas := on } t := by
  unfold trailed finish ending
  rw [yes, no]
  by_cases last : r = .lastEnumMember
  · rw [last]
    exact congrArg (· ++ ",") (String.append_empty (s := t))
  · have other : (r == .lastEnumMember) = false := beq_eq_false_iff_ne.mpr last
    rw [if_neg last, other]
    rfl

end LineRole

namespace Declaration

/-- Main theorem. Semicolons stand behind the lines of a declaration, and of its file, that are
ended like a statement, and trailing commas behind the last member of each enum; with them and
without them, all lines are the same but for these. -/
theorem lines_endings {on off : Value} (yes : on.holds = true) (no : off.holds = false)
    (d : Declaration) (s : Settings) :
    (∀ indent,
      DiffersBy LineRole.terminated d.roles (d.lines { s with semicolons := off } indent)
        (d.lines { s with semicolons := on } indent) ∧
      DiffersBy LineRole.trailed d.roles (d.lines { s with trailingCommas := off } indent)
        (d.lines { s with trailingCommas := on } indent) ∧
      (d.Typed → s.indentation.IsText → Succeeds (d.lines s indent))) ∧
    DiffersBy LineRole.terminated (d.fileRoles s) (d.fileLines { s with semicolons := off })
      (d.fileLines { s with semicolons := on }) ∧
    DiffersBy LineRole.trailed (d.fileRoles s) (d.fileLines { s with trailingCommas := off })
      (d.fileLines { s with trailingCommas := on }) ∧
    (d.Typed → s.indentation.IsText → s.header.IsOptionalText → Succeeds (d.fileLines s)) := by
  have semicolons := LineRole.terminated_finish yes no s
  have commas := LineRole.trailed_finish yes no s
  refine ⟨fun indent => ⟨?_, ?_, fun typed text => typed.succeeds_lines text indent⟩, ?_, ?_,
    fun typed text headed => ?_⟩
  · exact differsBy_of_agree semicolons (d.finished_lines _ indent) (d.finished_lines _ indent)
  · exact differsBy_of_agree commas (d.finished_lines _ indent) (d.finished_lines _ indent)
  · exact differsBy_of_agree semicolons (d.finished_fileLines _) (d.finished_fileLines _)
  · exact differsBy_of_agree commas (d.finished_fileLines _) (d.finished_fileLines _)
  · exact .bind (typed.succeeds_lines text "") fun ls => succeeds_fileLines typed headed ls

/-- A class with a field, a method that returns an expression, and an enum nested in it. -/
def lantern : Declaration where
  name := "Lantern"
  fields := [.good { name := "color", type := "Color" }]
  methods := [.good { name := "bright", expressionBody := some "true" }]
  nested := [.good
    { name := "Color", kind := .enumDecl, enumMembers := [("Red", none), ("Green", none)] }]

/-- The theorem at work: what the lines of the class are; the line of its field and the line that
returns the expression are ended. -/
theorem lines_endings_lantern : ∃ ls,
    lantern.lines { semicolons := .bool false } "" = .ok ls ∧
    lantern.lines { semicolons := .bool true } "" = .ok (List.zipWith LineRole.terminated
      [.opening, .field, .separator, .opening, .returned, .closing, .separator, .opening,
        .enumMember, .lastEnumMember, .closing, .closing] ls) := by
  have yes : (Value.bool true).holds = true := rfl
  have no : (Value.bool false).holds = false := rfl
  obtain ⟨ls, rendered⟩ : Succeeds (lantern.lines { semicolons := .bool false } "") := ⟨_, rfl⟩
  obtain ⟨within, _⟩ := lines_endings yes no lantern {}
  obtain ⟨_, same⟩ := (within "").1
  rw [rendered] at same
  exact ⟨ls, rendered, same⟩

end Declaration

end TypeScriptGen
