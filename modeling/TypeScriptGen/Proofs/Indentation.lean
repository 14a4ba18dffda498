import Mathlib.Data.List.Forall2
import TypeScriptGen.Proofs.Typed

/-!
The layout of a declaration apart from its indentation. Every line of a rendered declaration is a
gap, or a text at a depth; which ones there are depends neither on the unit of indentation nor on
the indent that the rendering starts from. Main statement: rendering shows these rows, and what is
nested in a class or interface contributes its own rows, one level deeper.
-/

set_option autoImplicit false
set_option relaxedAutoImplicit false

namespace TypeScriptGen

/-- A line of a layout: an empty line between others, or a text at a depth. -/
inductive Row where
  | gap
  | line (depth : Nat) (text : String)
deriving DecidableEq, Repr

namespace Row

/-- The row as a line, given what one level of depth and the start of a line look like. -/
def shown (unit indent : String) : Row → String
  | .gap => ""
  | .line depth text => indent ++ String.join (List.replicate depth unit) ++ text

def deeper : Row → Row
  | .gap => .gap
  | .line depth text => .line (depth + 1) text

@[simp] theorem shown_gap (unit indent : String) : shown unit indent .gap = "" := rfl

@[simp] theorem shown_surface (unit indent text : String) :
    shown unit indent (.line 0 text) = indent ++ text := by
  simp [shown]

@[simp] theorem shown_inner (unit indent text : String) :
    shown unit indent (.line 1 text) = indent ++ unit ++ text := by
  simp [shown]

@[simp] theorem shown_deeper (unit indent : String) (r : Row) :
    shown unit indent r.deeper = shown unit (indent ++ unit) r := by
  cases r with
  | gap => rfl
  | line depth text =>
    simp only [deeper, shown, List.replicate_succ, String.join_cons, String.append_assoc]

end Row

def Settings.indentedBy (s : Settings) (unit : String) : Settings :=
  { s with indentation := .text unit }

@[simp] theorem Settings.semicolon_indentedBy (s : Settings) (unit : String) :
    (s.indentedBy unit).semicolon = s.semicolon := rfl

@[simp] theorem Settings.deeper_indentedBy (s : Settings) (unit indent : String) :
    (s.indentedBy unit).deeper indent = .ok (indent ++ unit) := rfl

namespace Rendering

def rowsAt (depth : Nat) (texts : List String) : List Row := texts.map (.line depth)

def constructorRows (s : Settings) : Supplied Constructor → Except Fault (List Row)
  | .stray v => (strayConstructor v).map (rowsAt 0)
  | .good c => do
    let overloads ← signatureLines s "" c.overloads
    let access ← Access.lead c.access
    let parameters ← Parameter.renderAll true c.parameters
    let head := access ++ "constructor(" ++ parameters ++ ")"
    if c.body.isNone && c.superArguments.isEmpty then
      return rowsAt 0 (overloads ++ [head ++ " \x7b\x7d"])
    let body ← optionalBodyLines "" c.body
    let call := if c.superArguments.isEmpty then []
      else ["super(" ++ ", ".intercalate c.superArguments ++ ")" ++ s.semicolon]
    return rowsAt 0 (overloads ++ [head ++ " \x7b"]) ++ rowsAt 1 (call ++ body) ++ [.line 0 "\x7d"]

def getterRows (s : Settings) (modifiers : String) (p : Property) : Except Fault (List Row) := do
  if !p.hasGetter then return []
  let body ← match p.getterExpression with
    | some e => pure ["return " ++ e ++ s.semicolon]
    | Option.none => optionalBodyLines "" p.getterBody
  return [.line 0 (modifiers ++ "get " ++ p.name ++ "(): " ++ p.type ++ " \x7b")] ++
    rowsAt 1 body ++ [.line 0 "\x7d"]

def setterRows (modifiers : String) (p : Property) : Except Fault (List Row) := do
  match p.setterBody with
  | Option.none => return []
  | some supplied =>
    let body ← bodyLines "" supplied
    return [.line 0 (modifiers ++ "set " ++ p.name ++ "(value: " ++ p.type ++ ") \x7b")] ++
      rowsAt 1 body ++ [.line 0 "\x7d"]

def propertyRows (s : Settings) (supplied : Supplied Property) : Except Fault (List Row) := do
  let p ← supplied.need ["has_accessor"]
  if !p.hasAccessor then return [.line 0 (← propertyLine s "" p)]
  let access ← Access.lead p.access
  let modifiers := access ++ flag p.isStatic "static "
  let getter ← getterRows s modifiers p
  let setter ← setterRows modifiers p
  return getter ++ setter

def methodRows (s : Settings) (kind : Kind) : Supplied Method → Except Fault (List Row)
  | .stray v => (strayMethod "" v).map (rowsAt 0)
  | .good d => do
    let decorators ← decoratorLines "" d.decorators
    let overloads ← signatureLines s "" d.overloads
    let head ← methodHead "" d
    let lead := rowsAt 0 (decorators ++ overloads)
    if isSignature kind d then return lead ++ [.line 0 (head ++ s.semicolon)]
    match d.expressionBody, d.body with
    | some e, _ =>
      return lead ++
        [.line 0 (head ++ " \x7b"), .line 1 ("return " ++ e ++ s.semicolon), .line 0 "\x7d"]
    | Option.none, some body =>
      return lead ++ [.line 0 (head ++ " \x7b")] ++ rowsAt 1 (← bodyLines "" body) ++
        [.line 0 "\x7d"]
    | Option.none, Option.none => return lead ++ [.line 0 (head ++ " \x7b\x7d")]

def enumRows (s : Settings) (d : Surface) : Except Fault (List Row) := do
  let name ← d.name.toText
  let members ← enumMemberLines "" (flag s.trailingCommas.holds ",") d.enumMembers
  return [.line 0 (modifiers d ++ flag (d.kind == .constEnum) "const " ++ "enum " ++ name ++
    " \x7b")] ++ rowsAt 1 members ++ [.line 0 "\x7d"]

def categoryRows {α : Type} (gap : List Row) (render : α → Except Fault (List Row))
    (items : List α) : Except Fault (List (List Row)) := do
  if items.isEmpty then return []
  return [gap.intercalate (← items.mapM render)]

def memberRows (s : Settings) (d : Surface) : Except Fault (List (List Row)) := do
  let signatures ← categoryRows [] (fun t => pure [.line 0 (t ++ s.semicolon)]) d.indexSignatures
  let fields ← categoryRows [] (fun f => (fieldLines s "" f).map (rowsAt 0)) d.fields
  let constructors ← categoryRows [] (constructorRows s)
    (if d.kind == .classDecl then d.constructors else [])
  let properties ← categoryRows [] (propertyRows s) d.properties
  let methods ← categoryRows [.gap] (methodRows s d.kind) d.methods
  return signatures ++ fields ++ constructors ++ properties ++ methods

/-- The rows between the braces of a class or interface, from those of its categories. -/
def inside (categories : List (List Row)) : List Row :=
  ([Row.gap].intercalate categories).map Row.deeper

/-- The rows of a class or interface from its opening line on, given those of what is nested in it,
if there is anything. -/
def containerRows (s : Settings) (d : Surface) (isFlat : Bool)
    (within : Except Fault (List (List Row))) : Except Fault (List Row) := do
  let head ← classHead "" d
  let members ← memberRows s d
  let contained ← within
  let categories := members ++ if isFlat then [] else [[Row.gap].intercalate contained]
  return [.line 0 head] ++ inside categories ++ [.line 0 "\x7d"]

end Rendering

open Rendering Step

mutual

def Declaration.rows (s : Settings) : Declaration → Except Fault (List Row)
  | ⟨d, nested⟩ => do
    let doc ← docLines "" d.doc
    let decorators ← decoratorLines "" d.decorators
    let lead := rowsAt 0 (doc ++ decorators)
    match d.kind with
    | .typeAlias => return lead ++ [.line 0 (← aliasLine s "" d)]
    | .enumDecl | .constEnum => return lead ++ (← enumRows s d)
    | .classDecl | .interfaceDecl =>
      return lead ++ (← containerRows s d nested.isEmpty (nestedRows s nested))

def nestedRows (s : Settings) : List (Supplied Declaration) → Except Fault (List (List Row))
  | [] => .ok []
  | .good d :: rest => do
    let rows ← d.rows s
    let more ← nestedRows s rest
    return rows :: more
  | .stray v :: _ => .error (v.lacking ["js_doc"])

end

namespace Rendering

/-! Renderings that know one indent only: it stands in front of every line. -/

private theorem each_map {α : Type} {f g : α → Except Fault (List String)}
    {shift : List String → List String} (same : ∀ a, f a = (g a).map shift) (items : List α) :
    each f items = (each g items).map (List.map shift) := by
  induction items with
  | nil => rfl
  | cons a rest ih =>
    exact bind_shift (same a) fun lines => bind_shift ih fun more => return_shift rfl

private theorem decoratorLines_lead (indent : String) (decorators : List Value) :
    decoratorLines indent decorators =
      (decoratorLines "" decorators).map (List.map (indent ++ ·)) := by
  refine bind_shift (g := List.map (List.map (indent ++ ·)))
    (each_map (fun v => bind_same _ fun s => return_shift ?_) decorators)
    fun lines => return_shift ?_
  · simp [String.append_assoc]
  · exact List.map_flatten.symm

private theorem signatureLines_lead (s : Settings) (unit indent : String)
    (signatures : List Value) :
    signatureLines (s.indentedBy unit) indent signatures =
      (signatureLines s "" signatures).map (List.map (indent ++ ·)) := by
  refine bind_same _ fun texts => return_shift ?_
  simp [String.append_assoc]

private theorem leadLines_lead (lead indent text : String) :
    Text.leadLines (indent ++ lead) text = (Text.leadLines lead text).map (indent ++ ·) := by
  simp [Text.leadLines, String.append_assoc]

private theorem bodyLines_lead (indent : String) (body : Supplied Body) :
    bodyLines indent body = (bodyLines "" body).map (List.map (indent ++ ·)) := by
  refine bind_same _ fun b => return_shift ?_
  rw [List.map_flatMap]
  congr 1
  funext statement
  rw [← leadLines_lead, String.append_empty]

private theorem optionalBodyLines_lead (indent : String) (body : Option (Supplied Body)) :
    optionalBodyLines indent body = (optionalBodyLines "" body).map (List.map (indent ++ ·)) := by
  cases body with
  | none => rfl
  | some body => exact bodyLines_lead indent body

private theorem docLines_lead (indent : String) (doc : Value) :
    docLines indent doc = (docLines "" doc).map (List.map (indent ++ ·)) := by
  unfold docLines
  split
  · rfl
  · refine bind_same _ fun s => return_shift ?_
    simp [leadLines_lead]

private theorem fieldLine_lead (s : Settings) (unit indent : String) (f : Field) :
    fieldLine (s.indentedBy unit) indent f = (fieldLine s "" f).map (indent ++ ·) := by
  refine bind_same _ fun access => return_shift ?_
  simp [String.append_assoc]

private theorem propertyLine_lead (s : Settings) (unit indent : String) (p : Property) :
    propertyLine (s.indentedBy unit) indent p = (propertyLine s "" p).map (indent ++ ·) := by
  refine bind_same _ fun access => return_shift ?_
  simp [String.append_assoc]

private theorem methodHead_lead (indent : String) (d : Method) :
    methodHead indent d = (methodHead "" d).map (indent ++ ·) := by
  refine bind_same _ fun access => bind_same _ fun parameters => return_shift ?_
  simp [String.append_assoc]

private theorem aliasLine_lead (s : Settings) (unit indent : String) (d : Surface) :
    aliasLine (s.indentedBy unit) indent d = (aliasLine s "" d).map (indent ++ ·) := by
  refine bind_same _ fun name => return_shift ?_
  simp [String.append_assoc]

private theorem classHead_lead (indent : String) (d : Surface) :
    classHead indent d = (classHead "" d).map (indent ++ ·) := by
  refine bind_same _ fun name => return_shift ?_
  simp [String.append_assoc]

private theorem enumMemberLine_lead (inner comma : String) (name : Value)
    (value : Option String) :
    enumMemberLine inner comma name value =
      (enumMemberLine "" comma name value).map (inner ++ ·) := by
  refine bind_same _ fun text => return_shift ?_
  simp [String.append_assoc]

private theorem enumMemberLines_lead (inner comma : String)
    (members : List (Value × Option String)) :
    enumMemberLines inner comma members =
      (enumMemberLines "" comma members).map (List.map (inner ++ ·)) := by
  fun_induction enumMemberLines "" comma members with
  | case1 => rfl
  | case2 name value =>
    exact bind_shift (enumMemberLine_lead inner comma name value) fun line => return_shift rfl
  | case3 name value rest unlike ih =>
    rw [enumMemberLines]
    · exact bind_shift (enumMemberLine_lead inner "," name value) fun line =>
        bind_shift ih fun more => return_shift rfl
    · exact unlike

/-! Members: lines at two depths. -/

private theorem map_rowsAt_zero (unit indent : String) (texts : List String) :
    (rowsAt 0 texts).map (Row.shown unit indent) = texts.map (indent ++ ·) := by
  simp [rowsAt]

private theorem map_rowsAt_one (unit indent : String) (texts : List String) :
    (rowsAt 1 texts).map (Row.shown unit indent) = texts.map (indent ++ unit ++ ·) := by
  simp [rowsAt]

private theorem shown_of_lead {unit indent : String} {lines texts : Except Fault (List String)}
    (lead : lines = texts.map (List.map (indent ++ ·))) :
    lines = (texts.map (rowsAt 0)).map (List.map (Row.shown unit indent)) := by
  rw [lead]
  cases texts with
  | error fault => rfl
  | ok texts => exact congrArg Except.ok (map_rowsAt_zero unit indent texts).symm

private theorem strayField_error (v : Value) : ∃ fault, strayField v = .error fault :=
  bind_error _ fun _ => bind_error _ fun _ => ⟨_, rfl⟩

private theorem fieldLines_lead (s : Settings) (unit indent : String) (f : Supplied Field) :
    fieldLines (s.indentedBy unit) indent f =
      (fieldLines s "" f).map (List.map (indent ++ ·)) := by
  cases f with
  | stray v =>
    obtain ⟨fault, failed⟩ := strayField_error v
    change strayField v = (strayField v).map _
    rw [failed]
    rfl
  | good f =>
    rw [fieldLines, fieldLines, fieldLine_lead]
    cases fieldLine s "" f <;> rfl

private theorem strayConstructor_error (v : Value) :
    ∃ fault, strayConstructor v = .error fault := by
  unfold strayConstructor
  exact bind_error _ fun overloads => bind_error _ fun items => bind_error _ fun _ =>
    bind_error _ fun access => bind_error _ fun _ => bind_error _ fun parameters =>
      bind_error _ fun ps => bind_error _ fun _ => ⟨_, rfl⟩

private theorem constructorLines_shown (s : Settings) (unit indent : String)
    (supplied : Supplied Constructor) :
    constructorLines (s.indentedBy unit) indent supplied =
      (constructorRows s supplied).map (List.map (Row.shown unit indent)) := by
  cases supplied with
  | stray v =>
    obtain ⟨fault, failed⟩ := strayConstructor_error v
    change strayConstructor v = ((strayConstructor v).map _).map _
    rw [failed]
    rfl
  | good c =>
    change constructorBlock (s.indentedBy unit) indent (indent ++ unit) c = _
    refine bind_shift (signatureLines_lead s unit indent _) fun overloads =>
      bind_same _ fun access => bind_same _ fun parameters => ?_
    by_cases bare : (c.body.isNone && c.superArguments.isEmpty) = true
    · rw [if_pos bare, if_pos bare]
      refine return_shift ?_
      simp [map_rowsAt_zero, String.append_assoc]
    · rw [if_neg bare, if_neg bare]
      refine bind_shift (optionalBodyLines_lead (indent ++ unit) _) fun body => return_shift ?_
      cases c.superArguments.isEmpty <;>
        simp [map_rowsAt_zero, map_rowsAt_one, String.append_assoc]

private theorem getterLines_shown (s : Settings) (unit indent modifiers : String) (p : Property) :
    getterLines (s.indentedBy unit) indent (indent ++ unit) modifiers p =
      (getterRows s modifiers p).map (List.map (Row.shown unit indent)) := by
  unfold getterLines getterRows
  split
  · rfl
  · cases p.getterExpression with
    | some e =>
      refine return_shift ?_
      simp [map_rowsAt_one, String.append_assoc]
    | none =>
      refine bind_shift (optionalBodyLines_lead (indent ++ unit) _) fun body => return_shift ?_
      simp [map_rowsAt_one, String.append_assoc]

private theorem setterLines_shown (unit indent modifiers : String) (p : Property) :
    setterLines indent (indent ++ unit) modifiers p =
      (setterRows modifiers p).map (List.map (Row.shown unit indent)) := by
  unfold setterLines setterRows
  cases p.setterBody with
  | none => rfl
  | some supplied =>
    refine bind_shift (bodyLines_lead (indent ++ unit) _) fun body => return_shift ?_
    simp [map_rowsAt_one, String.append_assoc]

private theorem propertyLines_shown (s : Settings) (unit indent : String)
    (supplied : Supplied Property) :
    propertyLines (s.indentedBy unit) indent supplied =
      (propertyRows s supplied).map (List.map (Row.shown unit indent)) := by
  refine bind_same _ fun p => ?_
  by_cases plain : (!p.hasAccessor) = true
  · rw [if_pos plain, if_pos plain]
    refine bind_shift (propertyLine_lead s unit indent p) fun line => return_shift ?_
    simp
  · rw [if_neg plain, if_neg plain]
    refine bind_same _ fun access =>
      bind_shift (getterLines_shown s unit indent _ p) fun getter => ?_
    refine bind_shift (setterLines_shown unit indent _ p) fun setter => return_shift ?_
    rw [List.map_append]

private theorem strayMethod_error (v : Value) :
    ∃ fault, ∀ indent, strayMethod indent v = .error fault := by
  have failed : ∃ fault, strayMethod "" v = .error fault :=
    bind_error _ fun _ => bind_error _ fun _ => bind_error _ fun _ => ⟨_, rfl⟩
  obtain ⟨fault, failed⟩ := failed
  refine ⟨fault, fun indent => ?_⟩
  have same : strayMethod indent v = (strayMethod "" v).map id :=
    bind_same _ fun _ => bind_same _ fun items =>
      bind_shift (decoratorLines_lead indent items) fun _ => rfl
  rw [same, failed]
  rfl

private theorem methodLines_shown (s : Settings) (kind : Kind) (unit indent : String)
    (supplied : Supplied Method) :
    methodLines (s.indentedBy unit) kind indent supplied =
      (methodRows s kind supplied).map (List.map (Row.shown unit indent)) := by
  cases supplied with
  | stray v =>
    obtain ⟨fault, failed⟩ := strayMethod_error v
    change strayMethod indent v = ((strayMethod "" v).map _).map _
    rw [failed, failed]
    rfl
  | good d =>
    change methodBlock (s.indentedBy unit) kind indent (indent ++ unit) d = _
    refine bind_shift (decoratorLines_lead indent _) fun decorators =>
      bind_shift (signatureLines_lead s unit indent _) fun overloads =>
        bind_shift (methodHead_lead indent d) fun head => ?_
    by_cases signature : isSignature kind d = true
    · rw [if_pos signature, if_pos signature]
      refine return_shift ?_
      simp [map_rowsAt_zero, String.append_assoc]
    · rw [if_neg signature, if_neg signature]
      cases d.expressionBody with
      | some e =>
        refine return_shift ?_
        simp [map_rowsAt_zero, String.append_assoc]
      | none =>
        cases d.body with
        | some body =>
          refine bind_shift (bodyLines_lead (indent ++ unit) body) fun body => return_shift ?_
          simp [map_rowsAt_zero, map_rowsAt_one, String.append_assoc]
        | none =>
          refine return_shift ?_
          simp [map_rowsAt_zero, String.append_assoc]

private theorem enumLines_shown (s : Settings) (unit indent : String) (d : Surface) :
    enumLines (s.indentedBy unit) indent d =
      (enumRows s d).map (List.map (Row.shown unit indent)) := by
  unfold enumLines enumRows
  rw [Settings.deeper_indentedBy, ok_bind]
  refine bind_same _ fun name => ?_
  refine bind_shift (enumMemberLines_lead (indent ++ unit) _ _) fun members => return_shift ?_
  simp [map_rowsAt_one, String.append_assoc]

/-! Declarations, by induction over what is nested in them. -/

private theorem map_intercalate {α β : Type} (f : α → β) (gap : List α) (parts : List (List α)) :
    (gap.intercalate parts).map f = (gap.map f).intercalate (parts.map (List.map f)) := by
  induction parts with
  | nil => rfl
  | cons part rest ih =>
    cases rest with
    | nil => simp
    | cons next rest =>
      rw [List.intercalate_cons_cons, List.map_append, List.map_append, ih]
      exact List.intercalate_cons_cons.symm

private theorem each_shown {α : Type} {unit indent : String}
    {lines : α → Except Fault (List String)} {rows : α → Except Fault (List Row)}
    (same : ∀ a, lines a = (rows a).map (List.map (Row.shown unit indent))) (items : List α) :
    each lines items = (items.mapM rows).map (List.map (List.map (Row.shown unit indent))) := by
  induction items with
  | nil => rfl
  | cons a rest ih =>
    rw [List.mapM_cons]
    exact bind_shift (same a) fun first => bind_shift ih fun more => return_shift rfl

private theorem category_shown {α : Type} (unit indent : String) {gapLines : List String}
    {gapRows : List Row} {lines : α → Except Fault (List String)}
    {rows : α → Except Fault (List Row)}
    (same : ∀ a, lines a = (rows a).map (List.map (Row.shown unit indent)))
    (gap : gapLines = gapRows.map (Row.shown unit indent)) (items : List α) :
    category gapLines lines items =
      (categoryRows gapRows rows items).map (List.map (List.map (Row.shown unit indent))) := by
  unfold category categoryRows
  split
  · rfl
  · refine bind_shift (each_shown same items) fun parts => return_shift ?_
    rw [gap, List.map_singleton, map_intercalate]

private theorem memberCategories_shown (s : Settings) (unit indent : String) (d : Surface) :
    memberCategories (s.indentedBy unit) indent d =
      (memberRows s d).map (List.map (List.map (Row.shown unit indent))) := by
  refine
    bind_shift (category_shown unit indent (fun t => return_shift ?_) (by rfl) _) fun signatures =>
    bind_shift (category_shown unit indent
      (fun f => shown_of_lead (fieldLines_lead s unit indent f)) (by rfl) _) fun fields =>
    bind_shift (category_shown unit indent
      (constructorLines_shown s unit indent) (by rfl) _) fun constructors =>
    bind_shift (category_shown unit indent
      (propertyLines_shown s unit indent) (by rfl) _) fun properties =>
    bind_shift (category_shown unit indent
      (methodLines_shown s d.kind unit indent) (by rfl) _) fun methods =>
    return_shift ?_
  · simp [String.append_assoc]
  · simp only [List.map_append]

private theorem map_inside (unit indent : String) (categories : List (List Row)) :
    (inside categories).map (Row.shown unit indent) =
      [""].intercalate (categories.map (List.map (Row.shown unit (indent ++ unit)))) := by
  have deeper : Row.shown unit indent ∘ Row.deeper = Row.shown unit (indent ++ unit) := by
    funext r
    exact Row.shown_deeper unit indent r
  unfold inside
  rw [List.map_map, deeper, map_intercalate]
  rfl

private theorem classLines_shown (s : Settings) (unit indent : String) (d : Surface)
    (nested : List (Supplied Declaration)) (doc decorators : List String)
    (within : nestedLines (s.indentedBy unit) (indent ++ unit) nested =
      (nestedRows s nested).map (List.map (List.map (Row.shown unit (indent ++ unit))))) :
    (do
      let inner ← (s.indentedBy unit).deeper indent
      let head ← classHead indent d
      let members ← memberCategories (s.indentedBy unit) inner d
      let inside ← nestedLines (s.indentedBy unit) inner nested
      let categories := members ++ if nested.isEmpty then [] else [[""].intercalate inside]
      return doc.map (indent ++ ·) ++ decorators.map (indent ++ ·) ++ [head] ++
        [""].intercalate categories ++ [indent ++ "\x7d"] : Except Fault (List String)) =
    Except.map (List.map (Row.shown unit indent)) (do
      return rowsAt 0 (doc ++ decorators) ++
        (← containerRows s d nested.isEmpty (nestedRows s nested))) := by
  unfold containerRows
  rw [Settings.deeper_indentedBy, ok_bind]
  simp only [bind_assoc, pure_bind]
  refine bind_shift (classHead_lead indent d) fun head =>
    bind_shift (memberCategories_shown s unit (indent ++ unit) d) fun members =>
      bind_shift within fun contained => return_shift ?_
  simp only [List.map_append, map_rowsAt_zero, map_inside, List.map_singleton, Row.shown_surface,
    List.append_assoc]
  cases nested.isEmpty with
  | true => rfl
  | false =>
    rw [if_neg (by decide), if_neg (by decide), List.map_singleton, map_intercalate]
    rfl

end Rendering

mutual

theorem Declaration.lines_eq_rows (s : Settings) (unit indent : String) :
    (d : Declaration) → d.lines (s.indentedBy unit) indent =
      (d.rows s).map (List.map (Row.shown unit indent))
  | ⟨d, nested⟩ => by
    unfold Declaration.lines Declaration.rows
    refine bind_shift (docLines_lead indent _) fun doc =>
      bind_shift (decoratorLines_lead indent _) fun decorators => ?_
    cases d.kind with
    | typeAlias =>
      refine bind_shift (aliasLine_lead s unit indent d) fun line => return_shift ?_
      simp [map_rowsAt_zero]
    | enumDecl =>
      refine bind_shift (enumLines_shown s unit indent d) fun rows => return_shift ?_
      simp [map_rowsAt_zero]
    | constEnum =>
      refine bind_shift (enumLines_shown s unit indent d) fun rows => return_shift ?_
      simp [map_rowsAt_zero]
    | classDecl =>
      exact classLines_shown s unit indent d nested doc decorators
        (nestedLines_eq_rows s unit (indent ++ unit) nested)
    | interfaceDecl =>
      exact classLines_shown s unit indent d nested doc decorators
        (nestedLines_eq_rows s unit (indent ++ unit) nested)

theorem nestedLines_eq_rows (s : Settings) (unit indent : String) :
    (nested : List (Supplied Declaration)) → nestedLines (s.indentedBy unit) indent nested =
      (nestedRows s nested).map (List.map (List.map (Row.shown unit indent)))
  | [] => rfl
  | .good d :: rest =>
    bind_shift (Declaration.lines_eq_rows s unit indent d) fun _ =>
      bind_shift (nestedLines_eq_rows s unit indent rest) fun _ => return_shift rfl
  | .stray _ :: _ => rfl

end

namespace Row

private theorem length_join_replicate (depth : Nat) :
    (String.join (List.replicate depth "x")).length = depth := by
  induction depth with
  | zero => simp
  | succ depth ih =>
    rw [List.replicate_succ, String.join_cons, String.length_append, ih]
    exact Nat.add_comm 1 depth

private theorem join_replicate_empty (depth : Nat) :
    String.join (List.replicate depth "") = "" := by
  induction depth with
  | zero => simp
  | succ depth ih => rw [List.replicate_succ, String.join_cons, ih, String.append_empty]

private theorem eq_of_shown {a b : Row}
    (same : ∀ unit indent, a.shown unit indent = b.shown unit indent) : a = b := by
  cases a with
  | gap =>
    cases b with
    | gap => rfl
    | line depth text =>
      have lengths : 0 = ("x" ++ _ ++ text).length := congrArg String.length (same "" "x")
      rw [String.length_append, String.length_append] at lengths
      have positive : "x".length = 1 := rfl
      omega
  | line depth text =>
    cases b with
    | gap =>
      have lengths := congrArg String.length (same "" "x")
      simp [shown] at lengths
    | line depth' text' =>
      have texts : text = text' := by
        simpa [shown, join_replicate_empty] using same "" ""
      have lengths := congrArg String.length (same "x" "")
      simp only [shown, String.length_append, length_join_replicate, texts] at lengths
      have depths : depth = depth' := by omega
      rw [texts, depths]

private theorem eq_of_map_shown {rows rows' : List Row}
    (same : ∀ unit indent, rows.map (shown unit indent) = rows'.map (shown unit indent)) :
    rows = rows' := by
  induction rows generalizing rows' with
  | nil => 
    have empty := same "" ""
    exact (List.map_eq_nil_iff.mp empty.symm).symm
  | cons row rest ih =>
    cases rows' with
    | nil => cases same "" ""
    | cons row' rest' =>
      have first : row = row' := eq_of_shown fun unit indent => (List.cons.inj (same unit indent)).1
      have others : rest = rest' := ih fun unit indent => (List.cons.inj (same unit indent)).2
      rw [first, others]

private theorem eq_of_shown_as {lines : String → String → Except Fault (List String)}
    {rows rows' : Except Fault (List Row)}
    (one : ∀ unit indent, lines unit indent = rows.map (List.map (shown unit indent)))
    (other : ∀ unit indent, lines unit indent = rows'.map (List.map (shown unit indent))) :
    rows = rows' := by
  have same := fun unit indent => (one unit indent).symm.trans (other unit indent)
  cases rows with
  | error fault =>
    cases rows' with
    | error fault' =>
      have faults := same "" ""
      injection faults with faults
      rw [faults]
    | ok rows' => cases same "" ""
  | ok rows =>
    cases rows' with
    | error fault' => cases same "" ""
    | ok rows' =>
      have equal : rows = rows' := eq_of_map_shown fun unit indent => by
        have shownSame := same unit indent
        injection shownSame
      rw [equal]

end Row

namespace Rendering

/-- What is nested in a class or interface, and the rows that each of it has on its own. -/
abbrev Contains (s : Settings) : List (Supplied Declaration) → List (List Row) → Prop :=
  List.Forall₂ fun n rows => ∃ d, n = .good d ∧ d.rows s = .ok rows

private theorem contains_of_nestedRows {s : Settings} {nested : List (Supplied Declaration)}
    {contained : List (List Row)} (found : nestedRows s nested = .ok contained) :
    Contains s nested contained := by
  induction nested generalizing contained with
  | nil =>
    cases found
    exact .nil
  | cons n rest ih =>
    cases n with
    | stray v => cases found
    | good d =>
      obtain ⟨rows, own, found⟩ := bind_eq_ok.mp found
      obtain ⟨more, others, same⟩ := bind_eq_ok.mp found
      cases same
      exact .cons ⟨d, rfl, own⟩ (ih others)

private theorem inside_append (categories : List (List Row)) (last : List Row) :
    inside (categories ++ [last]) =
      inside categories ++ (if categories.isEmpty then [] else [.gap]) ++ last.map Row.deeper := by
  have joined : [Row.gap].intercalate (categories ++ [last]) =
      [Row.gap].intercalate categories ++ (if categories.isEmpty then [] else [.gap]) ++ last := by
    induction categories with
    | nil => simp
    | cons first rest ih =>
      cases rest with
      | nil => simp
      | cons next rest =>
        have step : [Row.gap].intercalate (first :: next :: rest ++ [last]) =
            first ++ [Row.gap] ++ [Row.gap].intercalate (next :: rest ++ [last]) :=
          List.intercalate_cons_cons
        rw [step, ih, List.intercalate_cons_cons]
        simp
  unfold inside
  rw [joined, List.map_append, List.map_append]
  split <;> rfl

private theorem containerRows_eq_ok {s : Settings} {d : Surface} {isFlat : Bool}
    {within : Except Fault (List (List Row))} {rows : List Row}
    (found : containerRows s d isFlat within = .ok rows) :
    ∃ front joint contained, within = .ok contained ∧
      containerRows s d true (.ok []) = .ok (front ++ [.line 0 "\x7d"]) ∧
      (joint = [] ∨ joint = [Row.gap]) ∧
      rows = front ++ (if isFlat then [] else
        joint ++ [.gap].intercalate (contained.map (List.map Row.deeper))) ++ [.line 0 "\x7d"] := by
  unfold containerRows at found
  obtain ⟨head, headed, found⟩ := bind_eq_ok.mp found
  obtain ⟨members, membered, found⟩ := bind_eq_ok.mp found
  obtain ⟨contained, nested, same⟩ := bind_eq_ok.mp found
  cases same
  refine ⟨[.line 0 head] ++ inside members, if members.isEmpty then [] else [.gap], contained,
    nested, ?_, ?_, ?_⟩
  · unfold containerRows
    rw [headed, membered, ok_bind, ok_bind, ok_bind, if_pos rfl, List.append_nil]
    rfl
  · split
    · exact .inl rfl
    · exact .inr rfl
  · cases isFlat with
    | true => simp
    | false =>
      rw [if_neg (by decide), if_neg (by decide), inside_append, map_intercalate]
      simp [Row.deeper]

private theorem rows_container (s : Settings) {d : Surface} (nested : List (Supplied Declaration))
    (container : d.kind = .classDecl ∨ d.kind = .interfaceDecl) :
    Declaration.rows s ⟨d, nested⟩ = (do
      let doc ← docLines "" d.doc
      let decorators ← decoratorLines "" d.decorators
      return rowsAt 0 (doc ++ decorators) ++
        (← containerRows s d nested.isEmpty (nestedRows s nested))) := by
  unfold Declaration.rows
  rcases container with kind | kind
  · rw [kind]
  · rw [kind]

private theorem rows_nested {s : Settings} {d : Declaration} {rows : List Row}
    (container : d.kind = .classDecl ∨ d.kind = .interfaceDecl) (found : d.rows s = .ok rows) :
    ∃ front joint contained,
      Declaration.rows s { d with nested := [] } = .ok (front ++ [.line 0 "\x7d"]) ∧
      (joint = [] ∨ joint = [.gap]) ∧ Contains s d.nested contained ∧
      rows = front ++ joint ++ [.gap].intercalate (contained.map (List.map Row.deeper)) ++
        [.line 0 "\x7d"] := by
  obtain ⟨surface, nested⟩ := d
  rw [rows_container s nested container] at found
  obtain ⟨doc, documented, found⟩ := bind_eq_ok.mp found
  obtain ⟨decorators, decorated, found⟩ := bind_eq_ok.mp found
  obtain ⟨own, laid, same⟩ := bind_eq_ok.mp found
  cases same
  obtain ⟨front, joint, contained, within, bare, gaps, rfl⟩ := containerRows_eq_ok laid
  have alone : Declaration.rows s ⟨surface, []⟩ =
      .ok (rowsAt 0 (doc ++ decorators) ++ front ++ [.line 0 "\x7d"]) := by
    rw [rows_container s [] container, documented, decorated, ok_bind, ok_bind]
    change (do return _ ++ (← containerRows s surface true (.ok []))) = _
    rw [bare, ok_bind, List.append_assoc]
    rfl
  cases nested with
  | nil =>
    cases within
    refine ⟨_, [], [], alone, .inl rfl, .nil, ?_⟩
    simp
  | cons n rest =>
    refine ⟨_, joint, contained, alone, gaps, contains_of_nestedRows within, ?_⟩
    simp

end Rendering

namespace Declaration

/-- Main theorem. A declaration has one layout: whatever the unit of indentation and whatever indent
the rendering starts from, its lines are the rows of that layout, shown. A typed declaration has
rows, not a fault. What is nested in a class or interface contributes the rows that it has on its
own, one level deeper. -/
theorem lines_layout (s : Settings) (d : Declaration) :
    (∀ unit indent, d.lines (s.indentedBy unit) indent =
      (d.rows s).map (List.map (Row.shown unit indent))) ∧
    (∀ rows : Except Fault (List Row), (∀ unit indent, d.lines (s.indentedBy unit) indent =
      rows.map (List.map (Row.shown unit indent))) → rows = d.rows s) ∧
    (d.Typed → Succeeds (d.rows s)) ∧
    ∀ rows, d.rows s = .ok rows → d.kind = .classDecl ∨ d.kind = .interfaceDecl →
      ∃ front joint contained,
        Declaration.rows s { d with nested := [] } = .ok (front ++ [.line 0 "\x7d"]) ∧
        (joint = [] ∨ joint = [.gap]) ∧ Contains s d.nested contained ∧
        rows = front ++ joint ++ [.gap].intercalate (contained.map (List.map Row.deeper)) ++
          [.line 0 "\x7d"] := by
  have shown := fun unit indent => lines_eq_rows s unit indent d
  refine ⟨shown, fun rows other => Row.eq_of_shown_as other shown, ?_, ?_⟩
  · intro typed
    have rendered := typed.succeeds_lines (s := s.indentedBy "") ⟨"", rfl⟩ ""
    rw [shown "" ""] at rendered
    cases found : d.rows s with
    | ok rows => exact ⟨rows, rfl⟩
    | error fault =>
      rw [found] at rendered
      obtain ⟨_, wrong⟩ := rendered
      cases wrong
  · intro rows found container
    exact rows_nested container found

/-- The theorem at work: an interface nested in a class, indented by tabs. -/
theorem lines_layout_nested :
    rows {} { ofKind .classDecl "Outer" with nested := [.good (ofKind .interfaceDecl "Inner")] } =
      .ok [.line 0 "class Outer \x7b", .line 1 "interface Inner \x7b", .line 1 "\x7d",
        .line 0 "\x7d"] ∧
    lines (Settings.indentedBy {} "\t") ""
      { ofKind .classDecl "Outer" with nested := [.good (ofKind .interfaceDecl "Inner")] } =
      .ok ["class Outer \x7b", "\tinterface Inner \x7b", "\t\x7d", "\x7d"] := by
  refine ⟨by rfl, ?_⟩
  rw [(lines_layout {} _).1 "\t" ""]
  rfl

end Declaration

end TypeScriptGen
