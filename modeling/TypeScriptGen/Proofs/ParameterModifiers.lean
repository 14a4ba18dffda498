import TypeScriptGen.Expression.ObjectLiteral
import TypeScriptGen.Proofs.Typed

/-!
Modifiers of parameters. An accessibility and `readonly` turn a parameter of a constructor into a
property and mean nothing to any other function. Main statement: arrow functions and methods of
object literals do not show them, whereas methods of classes and interfaces show them just as
constructors do, in the list of parameters and nowhere else; so a method is rendered as one without
modifiers exactly if none of its parameters has any.
-/

set_option autoImplicit false
set_option relaxedAutoImplicit false

namespace TypeScriptGen

open Rendering Step

namespace Parameter

def plain (p : Parameter) : Parameter := { p with access := .good .unmarked, isReadonly := false }

structure IsPlain (p : Parameter) : Prop where
  access : p.access = .good .unmarked
  isReadonly : p.isReadonly = false

def plainSupplied : Supplied Parameter → Supplied Parameter
  | .good p => .good p.plain
  | .stray v => .stray v

def Unmodified (ps : List (Supplied Parameter)) : Prop := ∀ p, .good p ∈ ps → p.IsPlain

def modifiers (p : Parameter) : String :=
  (match p.access with
    | .good a => Access.spaced a.keyword
    | .stray _ => "") ++ flag p.isReadonly "readonly "

end Parameter

def Method.plain (d : Method) : Method :=
  { d with parameters := d.parameters.map Parameter.plainSupplied }

def Constructor.plain (c : Constructor) : Constructor :=
  { c with parameters := c.parameters.map Parameter.plainSupplied }

def Arrow.plain (a : Arrow) : Arrow :=
  { a with parameters := a.parameters.map Parameter.plainSupplied }

namespace Parameter

variable {ps : List (Supplied Parameter)}

/-! Where modifiers are not asked for. -/

private theorem renderTexts_plain (ps : List (Supplied Parameter)) :
    renderTexts false (ps.map plainSupplied) = renderTexts false ps := by
  induction ps with
  | nil => rfl
  | cons p rest ih =>
    rw [List.map_cons, renderTexts, renderTexts, ih]
    cases p <;> rfl

theorem renderAll_plain (ps : List (Supplied Parameter)) :
    renderAll false (ps.map plainSupplied) = renderAll false ps := by
  unfold renderAll
  rw [renderTexts_plain]

/-! Where modifiers are asked for. -/

private theorem lead_good (a : Access) : Access.lead (.good a) = .ok (Access.spaced a.keyword) := by
  cases a <;> rfl

private theorem render_modified {p : Parameter} (typed : p.Typed) :
    ∃ t, p.render false = .ok t ∧ p.render true = .ok (p.modifiers ++ t) := by
  have good := typed.access
  cases access : p.access with
  | stray v =>
    rw [access] at good
    exact good.elim
  | good a =>
    refine ⟨_, rfl, ?_⟩
    have shown : p.render true = (Access.lead p.access >>= fun access => pure (access ++
        flag p.isReadonly "readonly " ++ flag p.isRest "..." ++ p.name ++ flag p.isOptional "?" ++
        ": " ++ p.type ++ assigned p.defaultValue)) := rfl
    rw [shown, access, lead_good, ok_bind, modifiers, access]
    simp [String.append_assoc]
    rfl

private theorem modifiers_eq_empty {p : Parameter} (typed : p.Typed) :
    p.modifiers = "" ↔ p.IsPlain := by
  obtain ⟨name, type, defaultValue, isOptional, isRest, access, isReadonly⟩ := p
  cases access with
  | stray v => exact typed.access.elim
  | good a =>
    constructor
    · intro empty
      obtain ⟨keyword, word⟩ : Access.spaced a.keyword = "" ∧ flag isReadonly "readonly " = "" :=
        String.append_eq_empty_iff.mp empty
      refine ⟨?_, ?_⟩
      · cases a <;> first | rfl | exact absurd keyword (by decide)
      · cases isReadonly <;> first | rfl | exact absurd word (by decide)
    · rintro ⟨same, writable⟩
      cases same
      cases writable
      rfl

private theorem renderSupplied_of_isPlain {p : Supplied Parameter} (typed : p.Fits Typed)
    (plain : ∀ q, p = .good q → q.IsPlain) : renderSupplied true p = renderSupplied false p := by
  cases p with
  | stray v => exact typed.elim
  | good p =>
    obtain ⟨t, without, modified⟩ := render_modified typed
    rw [(modifiers_eq_empty typed).mpr (plain p rfl), String.empty_append] at modified
    exact modified.trans without.symm

private theorem renderAll_of_unmodified (typed : ∀ p ∈ ps, p.Fits Typed) (plain : Unmodified ps) :
    renderAll true ps = renderAll false ps := by
  have texts : renderTexts true ps = renderTexts false ps := by
    induction ps with
    | nil => rfl
    | cons p rest ih =>
      have first := renderSupplied_of_isPlain (typed p List.mem_cons_self) fun q same =>
        plain q (same ▸ List.mem_cons_self)
      have others := ih (fun q member => typed q (List.mem_cons_of_mem p member))
        fun q member => plain q (List.mem_cons_of_mem p member)
      rw [renderTexts, renderTexts, first, others]
  rw [renderAll, renderAll, texts]

private theorem renderSupplied_modified {p : Supplied Parameter} (typed : p.Fits Typed) :
    ∃ shown bare, renderSupplied true p = .ok shown ∧ renderSupplied false p = .ok bare ∧
      bare.length ≤ shown.length ∧ (shown.length = bare.length → Unmodified [p]) := by
  cases p with
  | stray v => exact typed.elim
  | good p =>
    obtain ⟨t, without, modified⟩ := render_modified typed
    refine ⟨_, t, modified, without, ?_, fun same => ?_⟩
    · rw [String.length_append]
      exact Nat.le_add_left ..
    · rw [String.length_append, Nat.add_eq_right, String.length_eq_zero_iff] at same
      rintro q member
      cases List.mem_singleton.mp member
      exact (modifiers_eq_empty typed).mp same

private theorem renderTexts_modified (typed : ∀ p ∈ ps, p.Fits Typed) :
    ∃ shown bare, renderTexts true ps = .ok shown ∧ renderTexts false ps = .ok bare ∧
      shown.length = bare.length ∧
      (", ".intercalate bare).length ≤ (", ".intercalate shown).length ∧
      ((", ".intercalate shown).length = (", ".intercalate bare).length → Unmodified ps) := by
  -- Lengths are compared and not the texts themselves: a type may have commas in it, so that a
  -- joined text does not tell where a parameter ends.
  induction ps with
  | nil => exact ⟨[], [], rfl, rfl, rfl, Nat.le_refl _, fun _ _ member => by cases member⟩
  | cons p rest ih =>
    obtain ⟨t, t', first, first', less, one⟩ :=
      renderSupplied_modified (typed p List.mem_cons_self)
    obtain ⟨ts, ts', others, others', count, fewer, all⟩ :=
      ih fun q member => typed q (List.mem_cons_of_mem p member)
    have both : t.length = t'.length →
        (", ".intercalate ts).length = (", ".intercalate ts').length → Unmodified (p :: rest) := by
      intro same sames q member
      rcases List.mem_cons.mp member with here | later
      · exact one same q (here ▸ List.mem_singleton_self _)
      · exact all sames q later
    refine ⟨t :: ts, t' :: ts', ?_, ?_, congrArg (· + 1) count, ?_⟩
    · rw [renderTexts, first, others]
      rfl
    · rw [renderTexts, first', others']
      rfl
    · cases ts with
      | nil =>
        rw [List.eq_nil_of_length_eq_zero count.symm] at both ⊢
        simp only [String.intercalate_singleton]
        exact ⟨less, fun same => both same rfl⟩
      | cons u us =>
        cases ts' with
        | nil => cases count
        | cons u' us' =>
          simp only [String.intercalate_cons_cons, String.length_append]
          refine ⟨by omega, fun same => both ?_ ?_⟩ <;> omega

theorem renderAll_modified (typed : ∀ p ∈ ps, p.Fits Typed) :
    ∃ shown bare, renderAll true ps = .ok shown ∧ renderAll false ps = .ok bare ∧
      (shown = bare ↔ Unmodified ps) := by
  obtain ⟨ts, ts', shown, bare, _, _, unmodified⟩ := renderTexts_modified typed
  have all : renderAll true ps = .ok (", ".intercalate ts) := by
    rw [renderAll, shown]
    rfl
  have all' : renderAll false ps = .ok (", ".intercalate ts') := by
    rw [renderAll, bare]
    rfl
  refine ⟨_, _, all, all', fun same => unmodified (congrArg String.length same), fun plain => ?_⟩
  rw [renderAll_of_unmodified typed plain, all'] at all
  exact (Except.ok.inj all).symm

private theorem typed_plain (typed : ∀ p ∈ ps, p.Fits Typed) :
    ∀ p ∈ ps.map plainSupplied, p.Fits Typed := by
  intro p member
  obtain ⟨q, present, rfl⟩ := List.mem_map.mp member
  cases q with
  | stray v => exact (typed _ present).elim
  | good q => exact ⟨trivial⟩

private theorem unmodified_plain (ps : List (Supplied Parameter)) :
    Unmodified (ps.map plainSupplied) := by
  intro p member
  obtain ⟨q, _, same⟩ := List.mem_map.mp member
  cases q with
  | stray v => cases same
  | good q =>
    cases same
    exact ⟨rfl, rfl⟩

end Parameter

/-- The two texts are the same but for a list of parameters, which the one shows with modifiers and
the other one without. -/
structure ModifiedText (ps : List (Supplied Parameter)) (t t' : String) : Prop where
  parts : ∃ front shown bare back, Parameter.renderAll true ps = .ok shown ∧
    Parameter.renderAll false ps = .ok bare ∧ t = front ++ shown ++ back ∧
    t' = front ++ bare ++ back

/-- The two lists of lines are the same but for a list of parameters in one line. -/
def ModifiedLine (ps : List (Supplied Parameter)) (ls ls' : List String) : Prop :=
  ∃ before t t' after, ModifiedText ps t t' ∧ ls = before ++ t :: after ∧
    ls' = before ++ t' :: after

variable {ps : List (Supplied Parameter)}

namespace ModifiedText

theorem behind {t t' : String} (modified : ModifiedText ps t t') (front : String) :
    ModifiedText ps (front ++ t) (front ++ t') := by
  obtain ⟨before, shown, bare, after, all, all', rfl, rfl⟩ := modified
  exact ⟨front ++ before, shown, bare, after, all, all', by simp only [String.append_assoc],
    by simp only [String.append_assoc]⟩

theorem followed {t t' : String} (modified : ModifiedText ps t t') (back : String) :
    ModifiedText ps (t ++ back) (t' ++ back) := by
  obtain ⟨before, shown, bare, after, all, all', rfl, rfl⟩ := modified
  exact ⟨before, shown, bare, after ++ back, all, all', by simp only [String.append_assoc],
    by simp only [String.append_assoc]⟩

theorem eq_iff (typed : ∀ p ∈ ps, p.Fits Parameter.Typed) {t t' : String}
    (modified : ModifiedText ps t t') : t = t' ↔ Parameter.Unmodified ps := by
  obtain ⟨front, shown, bare, back, all, all', rfl, rfl⟩ := modified
  obtain ⟨_, _, again, again', same⟩ := Parameter.renderAll_modified typed
  cases all.symm.trans again
  cases all'.symm.trans again'
  rw [← same, String.append_left_inj, String.append_right_inj]

theorem among {t t' : String} (modified : ModifiedText ps t t') (before after : List String) :
    ModifiedLine ps (before ++ t :: after) (before ++ t' :: after) :=
  ⟨before, t, t', after, modified, rfl, rfl⟩

theorem opening {t t' : String} (modified : ModifiedText ps t t')
    (before inside after : List String) :
    ModifiedLine ps (before ++ [t] ++ inside ++ after) (before ++ [t'] ++ inside ++ after) :=
  ⟨before, t, t', inside ++ after, modified, by simp, by simp⟩

end ModifiedText

theorem ModifiedLine.eq_iff (typed : ∀ p ∈ ps, p.Fits Parameter.Typed) {ls ls' : List String}
    (modified : ModifiedLine ps ls ls') : ls = ls' ↔ Parameter.Unmodified ps := by
  obtain ⟨before, t, t', after, one, rfl, rfl⟩ := modified
  rw [← one.eq_iff typed]
  simp

namespace Rendering

private theorem modified_renderAll (typed : ∀ p ∈ ps, p.Fits Parameter.Typed) :
    Agree (ModifiedText ps) (Parameter.renderAll true ps)
      (Parameter.renderAll true (ps.map Parameter.plainSupplied)) := by
  obtain ⟨shown, bare, all, all', _⟩ := Parameter.renderAll_modified typed
  rw [Parameter.renderAll_of_unmodified (Parameter.typed_plain typed)
    (Parameter.unmodified_plain ps), Parameter.renderAll_plain, all, all']
  exact .value ⟨"", shown, bare, "", all, all', by simp, by simp⟩

theorem modified_methodLines {d : Method} (typed : ∀ p ∈ d.parameters, p.Fits Parameter.Typed)
    (s : Settings) (kind : Kind) (indent : String) :
    Agree (ModifiedLine d.parameters) (methodLines s kind indent (.good d))
      (methodLines s kind indent (.good d.plain)) := by
  have head : Agree (ModifiedText d.parameters) (methodHead indent d)
      (methodHead indent d.plain) :=
    .same (Access.lead d.access) fun access => (modified_renderAll typed).bind fun _ _ modified =>
      .pure (((modified.behind _).followed _).followed _)
  refine .same (s.deeper indent) fun inner => .same (decoratorLines indent d.decorators)
    fun decorators => .same (signatureLines s indent d.overloads) fun overloads =>
      head.bind fun t t' modified => ?_
  have sameKind : isSignature kind d.plain = isSignature kind d := rfl
  have sameExpression : d.plain.expressionBody = d.expressionBody := rfl
  have sameBody : d.plain.body = d.body := rfl
  rw [sameKind, sameExpression, sameBody]
  by_cases signature : isSignature kind d = true
  · rw [if_pos signature, if_pos signature]
    exact .pure ((modified.followed _).among _ [])
  · rw [if_neg signature, if_neg signature]
    cases d.expressionBody with
    | some e => exact .pure ((modified.followed _).among _ _)
    | none =>
      cases d.body with
      | some body =>
        exact .same (bodyLines inner body) fun ls => .pure ((modified.followed _).opening _ _ _)
      | none => exact .pure ((modified.followed _).among _ [])

theorem modified_constructorLines {c : Constructor}
    (typed : ∀ p ∈ c.parameters, p.Fits Parameter.Typed) (s : Settings) (indent : String) :
    Agree (ModifiedLine c.parameters) (constructorLines s indent (.good c))
      (constructorLines s indent (.good c.plain)) := by
  refine .same (s.deeper indent) fun inner => .same (signatureLines s indent c.overloads)
    fun overloads => .same (Access.lead c.access) fun access =>
      (modified_renderAll typed).bind fun t t' modified => ?_
  have head := ((modified.behind (indent ++ access ++ "constructor(")).followed ")")
  have sameBody : c.plain.body = c.body := rfl
  have sameSuper : c.plain.superArguments = c.superArguments := rfl
  rw [sameBody, sameSuper]
  by_cases bare : (c.body.isNone && c.superArguments.isEmpty) = true
  · rw [if_pos bare, if_pos bare]
    exact .pure ((head.followed _).among _ [])
  · rw [if_neg bare, if_neg bare]
    refine .same (optionalBodyLines inner c.body) fun ls => .pure ?_
    simpa only [List.append_assoc] using (head.followed " \x7b").opening overloads
      ((if c.superArguments.isEmpty then [] else
        [inner ++ "super(" ++ ", ".intercalate c.superArguments ++ ")" ++ s.semicolon]) ++ ls)
      [indent ++ "\x7d"]

/-- The lines are the same but for the modifiers of the parameters, and just the same exactly if
there are none. -/
def ShowsModifiers (ps : List (Supplied Parameter)) (ls ls' : List String) : Prop :=
  ModifiedLine ps ls ls' ∧ (ls = ls' ↔ Parameter.Unmodified ps)

private theorem showsModifiers (typed : ∀ p ∈ ps, p.Fits Parameter.Typed)
    {x y : Except Fault (List String)} (modified : Agree (ModifiedLine ps) x y) :
    Agree (ShowsModifiers ps) x y := by
  cases modified with
  | fault wrong => exact .fault wrong
  | value modified => exact .value ⟨modified, modified.eq_iff typed⟩

/-- Main theorem. Let a function of any sort have the parameters. As an arrow function or a method
of an object literal it has the text that it has with plain ones. As a method of a declaration of
any kind it does not: just as those of a constructor, its lines show the modifiers, and so are those
with plain parameters only if no parameter has any. -/
theorem modifiers_shown (typed : ∀ p ∈ ps, p.Fits Parameter.Typed) (s : Settings)
    (indent : String) :
    (∀ a : Arrow, a.parameters = ps → a.build = a.plain.build) ∧
    (∀ d : Method, d.parameters = ps →
      ObjectLiteral.methodText d = ObjectLiteral.methodText d.plain ∧
      ∀ kind, Agree (ShowsModifiers ps) (methodLines s kind indent (.good d))
        (methodLines s kind indent (.good d.plain))) ∧
    ∀ c : Constructor, c.parameters = ps → Agree (ShowsModifiers ps)
      (constructorLines s indent (.good c)) (constructorLines s indent (.good c.plain)) := by
  refine ⟨fun a _ => ?_, fun d same => ⟨?_, fun kind => ?_⟩, fun c same => ?_⟩
  · unfold Arrow.build Arrow.plain
    rw [Parameter.renderAll_plain]
  · unfold ObjectLiteral.methodText Method.plain
    rw [Parameter.renderAll_plain]
  · subst same
    exact showsModifiers typed (modified_methodLines typed s kind indent)
  · subst same
    exact showsModifiers typed (modified_constructorLines typed s indent)

end Rendering

def opener : Method where
  name := "open"
  parameters :=
    [.good { name := "key", type := "string", access := .good .markedPrivate, isReadonly := true }]

def door : Declaration where
  name := "Door"
  kind := .interfaceDecl
  methods := [.good opener]

namespace Rendering

/-- The theorem at work: as a signature in an interface, the method shows both modifiers. -/
theorem modifiers_shown_opener :
    ∃ ls ls', methodLines {} .interfaceDecl "  " (.good opener) = .ok ls ∧
      methodLines {} .interfaceDecl "  " (.good opener.plain) = .ok ls' ∧
      ModifiedLine opener.parameters ls ls' ∧ ls ≠ ls' := by
  have typed : ∀ p ∈ opener.parameters, p.Fits Parameter.Typed := by
    intro p member
    cases List.mem_singleton.mp member
    exact ⟨trivial⟩
  have shown : methodLines {} .interfaceDecl "  " (.good opener) =
      .ok ["  open(private readonly key: string);"] := rfl
  have plain : methodLines {} .interfaceDecl "  " (.good opener.plain) =
      .ok ["  open(key: string);"] := rfl
  obtain ⟨_, methods, _⟩ := modifiers_shown typed {} "  "
  have agree := (methods opener rfl).2 .interfaceDecl
  rw [shown, plain] at agree
  cases agree with
  | value related =>
    refine ⟨_, _, shown, plain, related.1, fun same => ?_⟩
    have writable := (related.2.mp same _ List.mem_cons_self).isReadonly
    cases writable

end Rendering

/-- A file depends on the modifiers of a parameter that belongs to no constructor. -/
theorem door_file :
    door.file { header := .none } =
      .ok "interface Door \x7b\n  open(private readonly key: string);\n\x7d\n" ∧
    door.file { header := .none } ≠
      Declaration.file { header := .none } { door with methods := [.good opener.plain] } := by
  have plain : Declaration.file { header := .none } { door with methods := [.good opener.plain] } =
      .ok "interface Door \x7b\n  open(key: string);\n\x7d\n" := rfl
  refine ⟨rfl, fun same => ?_⟩
  have texts := Except.ok.inj (same.trans plain)
  exact absurd texts (by decide)

end TypeScriptGen
