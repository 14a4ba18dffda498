import TypeScriptGen.Proofs.Balance.Builders
import TypeScriptGen.Proofs.Indentation
import TypeScriptGen.Proofs.Pipeline

/-!
Balance of what is printed. The rows of a declaration are balanced as a whole, though a row on its
own need not be: what opens a block and what closes it stand on different rows. Indentation and line
ends go in between. Main statement: every text that comes from what was made of balanced texts is
balanced, up to the code of an emission.
-/

set_option autoImplicit false
set_option relaxedAutoImplicit false

namespace TypeScriptGen

open Rendering
open Text (balanced_iff_scan)

namespace Row

def content : Row → String
  | .gap => ""
  | .line _ text => text

def Balanced (rows : List Row) : Prop := Text.Together (rows.map content)

abbrev EachBalanced (groups : List (List Row)) : Prop := ∀ rows ∈ groups, Balanced rows

theorem balanced_nil : Balanced [] := Text.Together.nil

theorem Balanced.append {rows rows' : List Row} (first : Balanced rows) (second : Balanced rows') :
    Balanced (rows ++ rows') := by
  unfold Balanced
  rw [List.map_append]
  exact Text.Together.append first second

theorem balanced_line {depth : Nat} {text : String} (balanced : Text.Balanced text) :
    Balanced [.line depth text] :=
  Text.Together.single balanced

theorem balanced_rowsAt (depth : Nat) {texts : List String} (together : Text.Together texts) :
    Balanced (rowsAt depth texts) := by
  have same : (rowsAt depth texts).map content = texts := by
    unfold rowsAt
    rw [List.map_map]
    exact List.map_id texts
  unfold Balanced
  rw [same]
  exact together

theorem balanced_block (depth : Nat) {head : String} {rows : List Row}
    (headed : Text.Balanced head) (within : Balanced rows) :
    Balanced ([.line depth (head ++ " \x7b")] ++ rows ++ [.line depth "\x7d"]) := by
  unfold Balanced
  rw [List.map_append, List.map_append]
  exact Text.together_braces (fun _ => by simp [content, headed]) within
    (fun _ => by simp [content])

theorem Balanced.deeper {rows : List Row} (balanced : Balanced rows) :
    Balanced (rows.map Row.deeper) := by
  have same : content ∘ Row.deeper = content := by
    funext r
    cases r <;> rfl
  unfold Balanced
  rw [List.map_map, same]
  exact balanced

theorem balanced_intercalate {groups : List (List Row)} {gap : List Row} (between : Balanced gap)
    (each : ∀ rows ∈ groups, Balanced rows) : Balanced (gap.intercalate groups) := by
  induction groups with
  | nil => exact balanced_nil
  | cons first rest ih =>
    have one := each first List.mem_cons_self
    have others := ih fun rows member => each rows (List.mem_cons_of_mem first member)
    cases rest with
    | nil =>
      rw [List.intercalate_singleton]
      exact one
    | cons next rest =>
      rw [List.intercalate_cons_cons]
      exact (one.append between).append others

theorem alike_shown {unit indent : String} (fixed : Text.Balanced unit)
    (start : Text.Balanced indent) (r : Row) : Text.Alike (r.shown unit indent) r.content := by
  cases r with
  | gap => exact .refl ""
  | line depth text =>
    have units : ∀ u ∈ List.replicate depth unit, Text.Balanced u := by
      intro u member
      rw [List.eq_of_mem_replicate member]
      exact fixed
    exact .led (start.append (Text.Together.of_each units)) text

theorem Balanced.shown {rows : List Row} (balanced : Balanced rows) {unit indent : String}
    (fixed : Text.Balanced unit) (start : Text.Balanced indent) :
    Text.Together (rows.map (Row.shown unit indent)) :=
  (Text.alike_join fun r _ => alike_shown fixed start r).balanced balanced

end Row

namespace Rendering

@[simp] theorem balanced_flag (applies : Bool) {word : String}
    (fixed : Text.scan word.toList [] = some []) : Text.Balanced (flag applies word) := by
  unfold flag
  split
  · exact balanced_iff_scan.mpr fixed
  · decide

theorem balanced_assigned {o : Option String} (shown : ∀ t ∈ o, Text.Balanced t) :
    Text.Balanced (assigned o) := by
  cases o with
  | none => decide
  | some t => exact Text.Balanced.append (by decide) (shown t rfl)

@[simp] theorem balanced_semicolon (s : Settings) : Text.Balanced s.semicolon := by
  unfold Settings.semicolon
  split <;> decide

theorem balanced_clause {word : String} (fixed : Text.Balanced word) {names : List String}
    (each : ∀ t ∈ names, Text.Balanced t) : Text.Balanced (clause word names) := by
  unfold clause
  split
  · decide
  · have joined : Text.Balanced (", ".intercalate names) :=
      Text.balanced_intercalate (by decide) each
    exact ((Text.Balanced.append (by decide) fixed).append (by decide)).append joined

theorem balanced_each {α : Type} {render : α → Except Fault (List String)} {items : List α}
    (each : ∀ a ∈ items, Ensures Text.Together (render a)) :
    Ensures (fun groups => Text.Together groups.flatten) (Rendering.each render items) := by
  induction items with
  | nil => exact .pure .nil
  | cons a rest ih =>
    have others := ih fun b member => each b (List.mem_cons_of_mem a member)
    exact .bind (each a List.mem_cons_self) fun lines one => .bind others fun groups more =>
      .pure (one.append more)

theorem balanced_decoratorLines {vs : List Value} (each : ∀ v ∈ vs, v.Balanced) :
    Ensures Text.Together (decoratorLines "" vs) := by
  refine .bind (balanced_each fun v member => ?_) fun _ joined => .pure joined
  refine .bind ((each v member).asText _) fun s shown => .pure (.single ?_)
  rw [balanced_iff_scan]
  simp [shown]

theorem balanced_signatureLines (s : Settings) {vs : List Value} (each : ∀ v ∈ vs, v.Balanced) :
    Ensures Text.Together (signatureLines s "" vs) := by
  refine .bind (Value.balanced_toTexts each) fun texts shown => .pure (.of_each ?_)
  intro l member
  obtain ⟨t, present, rfl⟩ := List.mem_map.mp member
  exact (Text.Balanced.append (by decide) (shown t present)).append (balanced_semicolon s)

theorem balanced_bodyLines {supplied : Supplied Body}
    (kept : ∀ b, supplied = .good b → b.Balanced) :
    Ensures Text.Together (bodyLines "" supplied) := by
  cases supplied with
  | stray v => exact .error _
  | good b => exact .pure (Text.together_leadLines (by decide) (kept b rfl))

theorem balanced_optionalBodyLines {body : Option (Supplied Body)}
    (kept : ∀ b, body = some (.good b) → b.Balanced) :
    Ensures Text.Together (optionalBodyLines "" body) := by
  cases body with
  | none => exact .pure .nil
  | some supplied => exact balanced_bodyLines fun b same => kept b (by rw [same])

theorem balanced_docLines {doc : Value} (text : doc.Balanced) :
    Ensures Text.Together (docLines "" doc) := by
  unfold docLines
  split
  · exact .pure .nil
  · refine .bind (text.asText _) fun s shown => .pure ?_
    have inner : Text.Together (Text.leadLines ("" ++ " * ") s) :=
      (Text.alike_leadLines (by decide) s).balanced shown
    exact (Text.Together.append (.single (by decide)) inner).append (.single (by decide))

/-! Members. -/

theorem balanced_fieldLine (s : Settings) {f : Field} (balanced : f.Balanced) :
    Ensures Text.Balanced (fieldLine s "" f) := by
  refine .bind balanced.access fun access lead => .pure ?_
  rw [balanced_iff_scan]
  simp [lead, balanced.name, balanced.type, balanced_assigned balanced.initializer]

theorem balanced_fieldLines (s : Settings) {f : Supplied Field} (fits : f.Fits Field.Balanced) :
    Ensures Text.Together (fieldLines s "" f) := by
  cases f with
  | stray v => exact fits.elim
  | good f =>
    exact .bind (balanced_fieldLine s fits) fun line shown => .pure (.single shown)

theorem balanced_constructorRows (s : Settings) {c : Supplied Constructor}
    (fits : c.Fits Constructor.Balanced) : Ensures Row.Balanced (constructorRows s c) := by
  cases c with
  | stray v => exact fits.elim
  | good c =>
    have balanced : c.Balanced := fits
    unfold constructorRows
    refine .bind (balanced_signatureLines s balanced.overloads) fun overloads signed =>
      .bind balanced.access fun access lead =>
      .bind (Parameter.balanced_renderAll true balanced.parameters) fun ps rendered => ?_
    have head : Text.Balanced (access ++ "constructor(" ++ ps ++ ")") := by
      rw [balanced_iff_scan]
      simp [lead, rendered]
    dsimp only
    split
    · exact .pure (Row.balanced_rowsAt 0 (signed.append (.single (head.append (by decide)))))
    · refine .bind (balanced_optionalBodyLines balanced.body) fun body shown => .pure ?_
      have call : Text.Together (if c.superArguments.isEmpty then []
          else ["super(" ++ ", ".intercalate c.superArguments ++ ")" ++ s.semicolon]) := by
        split
        · exact .nil
        · have joined : Text.Balanced (", ".intercalate c.superArguments) :=
            Text.balanced_intercalate (by decide) balanced.superArguments
          refine .single ?_
          rw [balanced_iff_scan]
          simp [joined, -String.toList_intercalate]
      have block := Row.balanced_block 0 head (Row.balanced_rowsAt 1 (call.append shown))
      have rows := (Row.balanced_rowsAt 0 signed).append block
      simpa [rowsAt] using rows

theorem balanced_propertyLine (s : Settings) {p : Property} (balanced : p.Balanced) :
    Ensures Text.Balanced (propertyLine s "" p) := by
  refine .bind balanced.access fun access lead => .pure ?_
  rw [balanced_iff_scan]
  simp [lead, balanced.name, balanced.type, balanced_assigned balanced.initializer]

theorem balanced_getterRows (s : Settings) {modifiers : String} (fixed : Text.Balanced modifiers)
    {p : Property} (balanced : p.Balanced) : Ensures Row.Balanced (getterRows s modifiers p) := by
  have head : Text.Balanced (modifiers ++ "get " ++ p.name ++ "(): " ++ p.type) := by
    rw [balanced_iff_scan]
    simp [fixed, balanced.name, balanced.type]
  have block : ∀ body, Text.Together body → Row.Balanced
      ([.line 0 (modifiers ++ "get " ++ p.name ++ "(): " ++ p.type ++ " \x7b")] ++ rowsAt 1 body ++
        [.line 0 "\x7d"]) :=
    fun body shown => Row.balanced_block 0 head (Row.balanced_rowsAt 1 shown)
  unfold getterRows
  split
  · exact .pure Row.balanced_nil
  · split
    case h_1 e given =>
      have shown := balanced.getterExpression e given
      refine .pure (block _ (.single ?_))
      exact (Text.Balanced.append (by decide) shown).append (balanced_semicolon s)
    case h_2 =>
      exact .bind (balanced_optionalBodyLines balanced.getterBody) fun body shown =>
        .pure (block body shown)

theorem balanced_setterRows {modifiers : String} (fixed : Text.Balanced modifiers) {p : Property}
    (balanced : p.Balanced) : Ensures Row.Balanced (setterRows modifiers p) := by
  have head : Text.Balanced (modifiers ++ "set " ++ p.name ++ "(value: " ++ p.type ++ ")") := by
    rw [balanced_iff_scan]
    simp [fixed, balanced.name, balanced.type]
  unfold setterRows
  split
  · exact .pure Row.balanced_nil
  case h_2 supplied given =>
    have kept : ∀ b, supplied = .good b → b.Balanced := fun b same =>
      balanced.setterBody b (by rw [given, same])
    refine .bind (balanced_bodyLines kept) fun body shown => .pure ?_
    have block := Row.balanced_block 0 head (Row.balanced_rowsAt 1 shown)
    simpa [String.append_assoc] using block

theorem balanced_propertyRows (s : Settings) {p : Supplied Property}
    (fits : p.Fits Property.Balanced) : Ensures Row.Balanced (propertyRows s p) := by
  cases p with
  | stray v => exact fits.elim
  | good p =>
    have balanced : p.Balanced := fits
    refine .bind (P := (· = p)) (.pure rfl) ?_
    rintro q rfl
    split
    · exact .bind (balanced_propertyLine s balanced) fun _ shown => .pure (Row.balanced_line shown)
    · refine .bind balanced.access fun access lead => ?_
      have fixed : Text.Balanced (access ++ flag q.isStatic "static ") :=
        lead.append (balanced_flag _ (by decide))
      refine .bind (balanced_getterRows s fixed balanced) fun getter got => ?_
      exact .bind (balanced_setterRows fixed balanced) fun setter put => .pure (got.append put)

theorem balanced_methodHead {d : Method} (balanced : d.Balanced) :
    Ensures Text.Balanced (methodHead "" d) := by
  refine .bind balanced.access fun access lead =>
    .bind (Parameter.balanced_renderAll true balanced.parameters) fun ps rendered => .pure ?_
  have types := balanced_angleList balanced.typeParameters
  have result := balanced_resultType balanced.returnType
  rw [balanced_iff_scan]
  simp [lead, rendered, balanced.name, types, result]

theorem balanced_methodRows (s : Settings) (kind : Kind) {d : Supplied Method}
    (fits : d.Fits Method.Balanced) : Ensures Row.Balanced (methodRows s kind d) := by
  cases d with
  | stray v => exact fits.elim
  | good d =>
    have balanced : d.Balanced := fits
    unfold methodRows
    refine .bind (balanced_decoratorLines balanced.decorators) fun decorators decorated =>
      .bind (balanced_signatureLines s balanced.overloads) fun overloads signed =>
      .bind (balanced_methodHead balanced) fun head headed => ?_
    have lead := Row.balanced_rowsAt 0 (decorated.append signed)
    have block : ∀ body, Text.Together body → Row.Balanced (rowsAt 0
        (decorators ++ overloads) ++ ([.line 0 (head ++ " \x7b")] ++ rowsAt 1 body ++
          [.line 0 "\x7d"])) :=
      fun body shown => lead.append (Row.balanced_block 0 headed (Row.balanced_rowsAt 1 shown))
    dsimp only
    split
    · exact .pure (lead.append (Row.balanced_line (headed.append (balanced_semicolon s))))
    · split
      case h_1 _ e given =>
        have shown : Text.Balanced ("return " ++ e ++ s.semicolon) :=
          (Text.Balanced.append (by decide) (balanced.expressionBody e given)).append
            (balanced_semicolon s)
        have rows := block _ (.single shown)
        exact .pure (by simpa [rowsAt] using rows)
      case h_2 body _ given =>
        have kept : ∀ b, body = .good b → b.Balanced := fun b same =>
          balanced.body b (by rw [given, same])
        refine .bind (balanced_bodyLines kept) fun lines shown => .pure ?_
        simpa using block lines shown
      case h_3 => exact .pure (lead.append (Row.balanced_line (headed.append (by decide))))

/-! Declarations. -/

theorem balanced_modifiers (d : Surface) : Text.Balanced (modifiers d) := by
  unfold modifiers
  refine Text.Balanced.append ?_ (balanced_flag _ (by decide))
  split
  · decide
  · exact balanced_flag _ (by decide)

theorem balanced_aliasLine (s : Settings) {d : Surface} (balanced : d.Balanced) :
    Ensures Text.Balanced (aliasLine s "" d) := by
  refine .bind balanced.name fun name named => .pure ?_
  have types := balanced_angleList balanced.typeParameters
  have definition : Text.Balanced (d.definition.getD "unknown") := by
    cases given : d.definition with
    | none => decide
    | some t => exact balanced.definition t given
  rw [balanced_iff_scan]
  simp only [String.toList_append]
  simp [balanced_modifiers, named, types, definition]

theorem balanced_enumMemberLine {comma : String} (fixed : Text.Balanced comma) {name : Value}
    (named : name.Balanced) {value : Option String} (shown : ∀ t ∈ value, Text.Balanced t) :
    Ensures Text.Balanced (enumMemberLine "" comma name value) :=
  .bind named fun _ text =>
    .pure (((Text.Balanced.append (by decide) text).append (balanced_assigned shown)).append fixed)

theorem balanced_enumMemberLines {comma : String} (fixed : Text.Balanced comma)
    {members : List (Value × Option String)}
    (each : ∀ m ∈ members, m.1.Balanced ∧ ∀ t ∈ m.2, Text.Balanced t) :
    Ensures Text.Together (enumMemberLines "" comma members) := by
  fun_induction enumMemberLines "" comma members with
  | case1 => exact .pure .nil
  | case2 name value =>
    have member := each (name, value) List.mem_cons_self
    exact .bind (balanced_enumMemberLine fixed member.1 member.2) fun line shown =>
      .pure (.single shown)
  | case3 name value rest _ ih =>
    have member := each (name, value) List.mem_cons_self
    have others := ih fun m present => each m (List.mem_cons_of_mem _ present)
    exact .bind (balanced_enumMemberLine (by decide) member.1 member.2) fun line shown =>
      .bind others fun lines more => .pure ((Text.Together.single shown).append more)

theorem balanced_enumRows (s : Settings) {d : Surface} (balanced : d.Balanced) :
    Ensures Row.Balanced (enumRows s d) := by
  have comma : Text.Balanced (flag s.trailingCommas.holds ",") := balanced_flag _ (by decide)
  refine .bind balanced.name fun name named =>
    .bind (balanced_enumMemberLines comma balanced.enumMembers) fun members shown => .pure ?_
  refine Row.balanced_block 0 ?_ (Row.balanced_rowsAt 1 shown)
  exact (((balanced_modifiers d).append (balanced_flag _ (by decide))).append (by decide)).append
    named

theorem balanced_plainName {v : Value} (named : v.Balanced) :
    Ensures Text.Balanced (plainName v) := by
  cases v with
  | text s => exact named
  | _ => exact .error _

theorem balanced_classHead {d : Surface} (balanced : d.Balanced) :
    Ensures (fun line => ∃ head, Text.Balanced head ∧ line = head ++ " \x7b") (classHead "" d) := by
  refine .bind (balanced_plainName balanced.name) fun name named => .pure ⟨_, ?_, rfl⟩
  have types := balanced_angleList balanced.typeParameters
  have bases : Text.Balanced (clause "extends" d.bases) :=
    balanced_clause (by decide) balanced.bases
  have word : Text.Balanced (if d.kind == .classDecl then "class " else "interface ") := by
    split <;> decide
  have interfaces : Text.Balanced
      (if d.kind == .classDecl then clause "implements" d.interfaces else "") := by
    split
    · exact balanced_clause (by decide) balanced.interfaces
    · decide
  generalize (d.kind == .classDecl) = isClass at word interfaces ⊢
  rw [balanced_iff_scan]
  simp only [String.toList_append]
  simp [balanced_modifiers, word, named, types, bases, interfaces]

theorem balanced_categoryRows {α : Type} {gap : List Row} (between : Row.Balanced gap)
    {render : α → Except Fault (List Row)} {items : List α}
    (each : ∀ a ∈ items, Ensures Row.Balanced (render a)) :
    Ensures Row.EachBalanced (categoryRows gap render items) := by
  have all : Ensures Row.EachBalanced (items.mapM render) := by
    induction items with
    | nil => exact .pure (List.forall_mem_nil _)
    | cons a rest ih =>
      have others := ih fun b member => each b (List.mem_cons_of_mem a member)
      rw [List.mapM_cons]
      exact .bind (each a List.mem_cons_self) fun _ one => .bind others fun _ more =>
        .pure (List.forall_mem_cons.mpr ⟨one, more⟩)
  unfold categoryRows
  split
  · exact .pure (List.forall_mem_nil _)
  · exact .bind all fun _ shown =>
      .pure (List.forall_mem_singleton.mpr (Row.balanced_intercalate between shown))

theorem balanced_memberRows (s : Settings) {d : Surface} (balanced : d.Balanced) :
    Ensures Row.EachBalanced (memberRows s d) := by
  have gap : Row.Balanced [.gap] := .empty
  have constructors : ∀ c ∈ (if d.kind == .classDecl then d.constructors else []),
      c.Fits Constructor.Balanced := by
    split
    · exact balanced.constructors
    · simp
  refine .bind (balanced_categoryRows Row.balanced_nil fun t member => .pure (Row.balanced_line
      ((balanced.indexSignatures t member).append (balanced_semicolon s)))) fun signatures signed =>
    .bind (balanced_categoryRows Row.balanced_nil fun f member =>
      .map (balanced_fieldLines s (balanced.fields f member)) fun _ shown =>
        Row.balanced_rowsAt 0 shown) fun fields fielded =>
    .bind (balanced_categoryRows Row.balanced_nil fun c member =>
      balanced_constructorRows s (constructors c member)) fun constructed built =>
    .bind (balanced_categoryRows Row.balanced_nil fun p member =>
      balanced_propertyRows s (balanced.properties p member)) fun properties held =>
    .bind (balanced_categoryRows gap fun m member =>
      balanced_methodRows s d.kind (balanced.methods m member)) fun methods called => .pure ?_
  simp only [List.forall_mem_append]
  exact ⟨⟨⟨⟨signed, fielded⟩, built⟩, held⟩, called⟩

theorem balanced_containerRows (s : Settings) {d : Surface} (balanced : d.Balanced) (isFlat : Bool)
    {within : Except Fault (List (List Row))}
    (nested : Ensures Row.EachBalanced within) :
    Ensures Row.Balanced (containerRows s d isFlat within) := by
  have gap : Row.Balanced [.gap] := .empty
  refine .bind (balanced_classHead balanced) fun line opened =>
    .bind (balanced_memberRows s balanced) fun members each =>
    .bind nested fun contained others => .pure ?_
  obtain ⟨head, headed, rfl⟩ := opened
  refine Row.balanced_block 0 headed (Row.Balanced.deeper (Row.balanced_intercalate gap ?_))
  rw [List.forall_mem_append]
  refine ⟨each, ?_⟩
  split
  · simp
  · exact List.forall_mem_singleton.mpr (Row.balanced_intercalate gap others)

theorem balanced_nestedRows {s : Settings} {nested : List (Supplied Declaration)}
    (each : ∀ n, .good n ∈ nested → Ensures Row.Balanced (n.rows s)) :
    Ensures Row.EachBalanced (nestedRows s nested) := by
  induction nested with
  | nil => exact .pure (List.forall_mem_nil _)
  | cons n rest ih =>
    have others := ih fun m member => each m (List.mem_cons_of_mem n member)
    cases n with
    | stray v => exact .error _
    | good n =>
      refine .bind (each n List.mem_cons_self) fun rows one => .bind others fun groups more => ?_
      exact .pure (List.forall_mem_cons.mpr ⟨one, more⟩)

end Rendering

namespace Declaration

theorem Balanced.rows (s : Settings) {d : Declaration} (balanced : d.Balanced) :
    Ensures Row.Balanced (d.rows s) := by
  induction balanced with
  | @mk d nested surface _ ih =>
    have container := balanced_containerRows s surface nested.isEmpty (balanced_nestedRows ih)
    unfold Declaration.rows
    refine .bind (balanced_docLines surface.doc) fun doc documented =>
      .bind (balanced_decoratorLines surface.decorators) fun decorators decorated => ?_
    have lead := Row.balanced_rowsAt 0 (documented.append decorated)
    dsimp only
    split
    · exact .bind (balanced_aliasLine s surface) fun _ shown =>
        .pure (lead.append (Row.balanced_line shown))
    · exact .bind (balanced_enumRows s surface) fun _ shown => .pure (lead.append shown)
    · exact .bind (balanced_enumRows s surface) fun _ shown => .pure (lead.append shown)
    · exact .bind container fun _ shown => .pure (lead.append shown)
    · exact .bind container fun _ shown => .pure (lead.append shown)

theorem lines_unindented {s : Settings} (stray : ∀ unit, s.indentation ≠ .text unit)
    {indent : String} {d : Declaration} {ls : List String} (given : d.lines s indent = .ok ls) :
    d.lines (s.indentedBy "") indent = .ok ls := by
  have failed : ∃ fault, s.deeper indent = .error fault := by
    unfold Settings.deeper
    split
    case h_1 unit same => exact absurd same (stray unit)
    case h_2 => exact ⟨_, rfl⟩
  obtain ⟨fault, failed⟩ := failed
  obtain ⟨d, nested⟩ := d
  unfold Declaration.lines at given ⊢
  obtain ⟨doc, documented, given⟩ := Step.bind_eq_ok.mp given
  obtain ⟨decorators, decorated, given⟩ := Step.bind_eq_ok.mp given
  rw [documented, decorated, Step.ok_bind, Step.ok_bind]
  have enumFails : ∀ k : List String → Except Fault (List String),
      (enumLines s indent d >>= k) = .error fault := by
    intro k
    unfold enumLines
    rw [failed]
    rfl
  have classFails : ∀ k : String → Except Fault (List String),
      (s.deeper indent >>= k) = .error fault := by
    intro k
    rw [failed]
    rfl
  cases kind : d.kind with
  | typeAlias =>
    -- The line of an alias is the same whatever the unit.
    rw [kind] at given
    exact given
  | enumDecl =>
    rw [kind] at given
    cases (enumFails _).symm.trans given
  | constEnum =>
    rw [kind] at given
    cases (enumFails _).symm.trans given
  | classDecl =>
    rw [kind] at given
    cases (classFails _).symm.trans given
  | interfaceDecl =>
    rw [kind] at given
    cases (classFails _).symm.trans given

theorem Balanced.lines {d : Declaration} (balanced : d.Balanced) {s : Settings}
    (unit : s.indentation.Balanced) :
    Ensures Text.Together (d.lines s "") := by
  have shown : ∀ unit, Text.Balanced unit →
      Ensures Text.Together (d.lines (s.indentedBy unit) "") := by
    intro unit fixed
    rw [lines_eq_rows]
    exact .map (balanced.rows s) fun _ rows => rows.shown fixed (by decide)
  -- Rows are shown with a unit, so the settings have to hold one; without it nothing is indented.
  by_cases text : ∃ u, s.indentation = .text u
  · obtain ⟨u, same⟩ := text
    have itself : s.indentedBy u = s := by
      unfold Settings.indentedBy
      rw [← same]
    rw [same] at unit
    have own := shown u (Value.balanced_text.mp unit)
    rw [itself] at own
    exact own
  · intro ls given
    exact shown "" (by decide) ls (lines_unindented (fun u same => text ⟨u, same⟩) given)

end Declaration

/-- What goes between and around the lines of a file is balanced. -/
structure Settings.Balanced (s : Settings) : Prop where
  indentation : s.indentation.Balanced
  endOfLine : s.endOfLine.Balanced
  header : s.header.Balanced

namespace Rendering

private theorem lineTexts_texts (index : Nat) (ls : List String) :
    lineTexts index (ls.map .text) = .ok ls := by
  induction ls generalizing index with
  | nil => rfl
  | cons l rest ih =>
    rw [List.map_cons, lineTexts, ih]
    rfl

private theorem balanced_lineTexts {vs : List Value} (each : ∀ v ∈ vs, v.Balanced)
    {ls : List String} (whole : Text.Together ls) (index : Nat) :
    Ensures Text.Together (lineTexts index (vs ++ ls.map .text)) := by
  induction vs generalizing index with
  | nil =>
    rw [List.nil_append, lineTexts_texts]
    exact .pure whole
  | cons v rest ih =>
    have others := ih (fun w member => each w (List.mem_cons_of_mem v member)) (index + 1)
    have first := each v List.mem_cons_self
    cases v with
    | text t =>
      have line := Text.Together.single (Value.balanced_text.mp first)
      exact .bind others fun ts more => .pure (line.append more)
    | _ => exact .error _

theorem balanced_preamble {s : Settings} (balanced : s.Balanced) {d : Surface}
    (surface : d.Balanced) : ∀ v ∈ preamble s d, v.Balanced := by
  have empty : Value.Balanced "" := Value.balanced_text.mpr (by decide)
  unfold preamble
  rw [List.forall_mem_append]
  constructor
  · split
    · simp
    · simp [balanced.header, empty]
  · split
    · simp
    · exact forall_mem_concat surface.imports empty

end Rendering

theorem Declaration.Balanced.file {d : Declaration} (balanced : d.Balanced) {s : Settings}
    (settings : s.Balanced) : Ensures Text.Balanced (d.file s) := by
  refine .bind (balanced.lines settings.indentation) fun ls whole => ?_
  refine .bind (settings.endOfLine.asText _) fun eol fixed => ?_
  refine .bind (balanced_lineTexts (balanced_preamble settings balanced.surface) whole 0)
    fun ts joined => .pure ?_
  exact ((Text.alike_intercalate fixed ts).balanced joined).append fixed

/-- The texts that come from a product: its own text or that of what is built from it, each
statement and the block of a body, the file of a declaration, and the code of an emission without a
formatter. -/
inductive Prints : Product → String → Prop where
  | operand {v : Value} {t : String} (given : v.toText = .ok t) : Prints (.operand v) t
  | expression (e : Expression) : Prints (.expression e) e.value
  | type (t : TypeExpr) : Prints (.type t) t.value
  | parameter {p : Parameter} {t : String} (asProperty : Bool)
      (given : p.render asProperty = .ok t) : Prints (.parameter p) t
  | statement {b : Body} {t : String} (member : t ∈ b.statements) : Prints (.body b) t
  | block (b : Body) : Prints (.body b) b.block
  | arrow {a : Arrow} {e : Expression} (given : a.build = .ok e) : Prints (.arrow a) e.value
  | literal (o : ObjectLiteral) : Prints (.literal o) o.build.value
  | file {d : Declaration} {s : Settings} {t : String} (settings : s.Balanced)
      (given : d.file s = .ok t) : Prints (.declaration d) t
  | code {d : Declaration} {o : EmitOptions} {h h' : Host} {r : EmitResult} {t : String}
      (settings : o.settings.Balanced) (plain : o.settings.formatOutput.holds = false)
      (emitted : (Emission.emit (.good d) (.good o)).on h = (.ok r, h'))
      (coded : r.code = .text t) : Prints (.declaration d) t

/-- Main theorem. Whatever the operations make of values whose texts are balanced, every text that
comes from it is balanced. -/
theorem Made.balanced_prints {x : Product} {t : String} (made : Made x) (prints : Prints x t) :
    Text.Balanced t := by
  have balanced := made.balanced
  cases prints with
  | operand given => exact balanced t given
  | expression e => exact balanced
  | type t => exact balanced
  | parameter asProperty given => exact balanced.render asProperty t given
  | statement member => exact balanced t member
  | block b => exact balanced.block
  | arrow given => exact balanced.build _ given
  | literal o => exact balanced.build
  | file settings given => exact balanced.file settings t given
  | code settings plain emitted coded =>
    exact balanced.file settings t (Emission.file_of_code plain emitted coded)

/-- The theorem at work: a class with a method that branches, emitted with tabs. -/
theorem Made.balanced_prints_class :
    ∃ d code, Made (.declaration d) ∧ Prints (.declaration d) code ∧ Text.Balanced code ∧
      code = "// <auto-generated />\n\nclass Box \x7b\n\trun() \x7b\n" ++
        "\t\tif (ready) \x7b\n\t\t  return f(x);\n\t\t\x7d\n\t\x7d\n\x7d\n" := by
  have text : ∀ {s}, Text.Balanced s → Made (.operand (.text s)) := fun balanced =>
    .supplied (Value.balanced_text.mpr balanced)
  have returned : Made (.body ⟨["return f(x);"]⟩) :=
    .addReturn .emptyBody (text (s := "f(x)") (by decide)) rfl
  have branched : Made (.body ⟨["if (ready) \x7b\n  return f(x);\n\x7d"]⟩) := by
    refine .addIf .emptyBody (text (s := "ready") (by decide)) ?_
      (show Body.empty.addIf "ready" (fun b => (b.addReturn "f(x)").map .good) = .ok _ from rfl)
    intro b filled
    cases filled
    exact returned
  have named : Made (.method { name := "run" }) := .method (text (s := "run") (by decide)) rfl
  have ran : Made (.method
      { name := "run", body := some (.good ⟨["if (ready) \x7b\n  return f(x);\n\x7d"]⟩) }) := by
    refine .methodBody named ?_ (show Method.withBody { name := "run" } (fun b =>
      (b.addIf "ready" fun c => (c.addReturn "f(x)").map .good).map .good) = .ok _ from rfl)
    intro b filled
    cases filled
    exact branched
  have made := Made.addMethod (.declaration .classDecl (text (s := "Box") (by decide))) ran
  have settings : Settings.Balanced { indentation := "\t" } :=
    ⟨Value.balanced_text.mpr (by decide), Value.balanced_text.mpr (by decide),
      Value.balanced_text.mpr (by decide)⟩
  suffices printed : Prints _ _ from ⟨_, _, made, printed, made.balanced_prints printed, rfl⟩
  exact .code (o := { settings := { indentation := "\t" } })
    (h := { respond := fun _ _ => .exited 0 "" "" })
    (r := { code := .text _, diagnostics := [] }) settings rfl rfl rfl

end TypeScriptGen
