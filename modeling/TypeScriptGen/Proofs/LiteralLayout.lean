import TypeScriptGen.Expression.ObjectLiteral
import TypeScriptGen.Proofs.LineAlgebra

/-!
The layout of object literals. A literal decides from the values of its entries whether each entry
gets a line of its own, and the values are not all of the text: a key, a name and what is spread are
texts too. Main statement: the line feeds of a built literal are counted exactly, so that it has one
just if there are many entries, a method, or an entry that has one; the literal says so itself
except where the line feeds are in the keys of a few entries only.
-/

set_option autoImplicit false
set_option relaxedAutoImplicit false

namespace TypeScriptGen

namespace ObjectEntry

def isMethod : ObjectEntry → Bool
  | .method _ _ => true
  | _ => false

/-- The entry as text has a line feed. -/
def Breaks (e : ObjectEntry) : Prop := '\n' ∈ e.render.toList

theorem wantsLines_iff (e : ObjectEntry) :
    e.wantsLines = true ↔ e.isMethod = true ∨ ∃ v ∈ e.value?, '\n' ∈ v.toList := by
  cases e <;> simp [wantsLines, isMethod, value?]

theorem breaks_of_value {e : ObjectEntry} {v : String} (stored : v ∈ e.value?)
    (feed : '\n' ∈ v.toList) : e.Breaks := by
  cases e <;> cases stored <;> simp [Breaks, render, feed]

theorem breaks_iff {e : ObjectEntry} (plain : e.isMethod = false) :
    e.Breaks ↔ '\n' ∈ e.key.toList ∨ ∃ v ∈ e.value?, '\n' ∈ v.toList := by
  cases e with
  | method name text => cases plain
  | _ => simp [Breaks, render, key, value?]

end ObjectEntry

namespace ObjectLiteral

open Text

/-- There are many entries, or one is a method or has a line feed. -/
def WantsLines (o : ObjectLiteral) : Prop :=
  lineLimit < o.entries.length ∨ ∃ e ∈ o.entries, e.isMethod = true ∨ e.Breaks

theorem isMultiLine_iff (o : ObjectLiteral) : o.isMultiLine = true ↔
    lineLimit < o.entries.length ∨
      ∃ e ∈ o.entries, e.isMethod = true ∨ ∃ v ∈ e.value?, '\n' ∈ v.toList := by
  unfold isMultiLine
  rw [Bool.or_eq_true, decide_eq_true_iff, List.any_eq_true]
  simp only [ObjectEntry.wantsLines_iff]

private theorem entryLines_cons_cons (e next : ObjectEntry) (rest : List ObjectEntry) :
    entryLines (e :: next :: rest) =
      (Body.blockIndent ++ e.render ++ ",") :: entryLines (next :: rest) := rfl

theorem length_entryLines (es : List ObjectEntry) : (entryLines es).length = es.length := by
  induction es with
  | nil => rfl
  | cons e rest ih =>
    cases rest with
    | nil => rfl
    | cons next rest => rw [entryLines_cons_cons, List.length_cons, ih, List.length_cons (a := e)]

theorem feeds_entryLines (es : List ObjectEntry) :
    ((entryLines es).map (occurrences '\n')).sum =
      (es.map fun e => occurrences '\n' e.render).sum := by
  have indent : occurrences '\n' Body.blockIndent = 0 := rfl
  have comma : occurrences '\n' "," = 0 := rfl
  induction es with
  | nil => rfl
  | cons e rest ih =>
    cases rest with
    | nil => simp [entryLines, indent]
    | cons next rest =>
      rw [entryLines_cons_cons, List.map_cons, List.sum_cons, ih, occurrences_append,
        occurrences_append, indent, comma, Nat.zero_add, Nat.add_zero]
      rfl

/-- The line feeds of a built literal are those of its entries, and if each of these stands on its
own line, those in front of every entry and of the closing brace. -/
theorem feeds_build (o : ObjectLiteral) :
    occurrences '\n' o.build.value = (if o.isMultiLine then o.entries.length + 1 else 0) +
      (o.entries.map fun e => occurrences '\n' e.render).sum := by
  have opened : occurrences '\n' "\x7b" = 0 := rfl
  have closed : occurrences '\n' "\x7d" = 0 := rfl
  unfold build
  by_cases empty : o.entries = []
  · have short : o.isMultiLine = false := by
      unfold isMultiLine
      rw [empty]
      rfl
    rw [short, empty]
    rfl
  · have filled : o.entries.isEmpty = false := by simpa using empty
    rw [filled, if_neg (by decide)]
    by_cases multi : o.isMultiLine = true
    · rw [if_pos multi, if_pos multi, occurrences_intercalate]
      have between : occurrences '\n' "\n" = 1 := rfl
      have breaks :
          ("\x7b" :: entryLines o.entries ++ ["\x7d"]).length - 1 = o.entries.length + 1 := by
        simp [length_entryLines]
      have shown : (("\x7b" :: entryLines o.entries ++ ["\x7d"]).map (occurrences '\n')).sum =
          (o.entries.map fun e => occurrences '\n' e.render).sum := by
        simp [feeds_entryLines, opened, closed]
      rw [breaks, shown, between]
      omega
    · have between : occurrences '\n' ", " = 0 := rfl
      have front : occurrences '\n' "\x7b " = 0 := rfl
      have back : occurrences '\n' " \x7d" = 0 := rfl
      rw [if_neg multi, if_neg multi]
      simp only [occurrences_append, occurrences_intercalate, between, front, back, List.map_map]
      simp [Function.comp_def]

private theorem feeds_entries_pos_iff (es : List ObjectEntry) :
    0 < (es.map fun e => occurrences '\n' e.render).sum ↔ ∃ e ∈ es, e.Breaks := by
  induction es with
  | nil => simp
  | cons e rest ih =>
    have first : 0 < occurrences '\n' e.render ↔ e.Breaks := occurrences_pos_iff
    rw [List.map_cons, List.sum_cons, Nat.add_pos_iff_pos_or_pos, first, ih]
    simp

theorem wantsLines_of_isMultiLine {o : ObjectLiteral} (multi : o.isMultiLine = true) :
    o.WantsLines := by
  rcases o.isMultiLine_iff.mp multi with many | ⟨e, member, method | ⟨v, stored, feed⟩⟩
  · exact .inl many
  · exact .inr ⟨e, member, .inl method⟩
  · exact .inr ⟨e, member, .inr (ObjectEntry.breaks_of_value stored feed)⟩

theorem wantsLines_iff_of_not_isMultiLine {o : ObjectLiteral} (single : ¬ o.isMultiLine = true) :
    o.WantsLines ↔ ∃ e ∈ o.entries, '\n' ∈ e.key.toList := by
  rw [isMultiLine_iff, not_or, not_exists] at single
  obtain ⟨few, told⟩ := single
  have plain : ∀ e ∈ o.entries, e.isMethod = false := by
    intro e member
    rw [Bool.eq_false_iff]
    exact fun method => told e ⟨member, .inl method⟩
  constructor
  · rintro (many | ⟨e, member, method | breaks⟩)
    · exact absurd many few
    · exact absurd ⟨member, .inl method⟩ (told e)
    · rcases (ObjectEntry.breaks_iff (plain e member)).mp breaks with inKey | inValue
      · exact ⟨e, member, inKey⟩
      · exact absurd ⟨member, .inr inValue⟩ (told e)
  · rintro ⟨e, member, inKey⟩
    exact .inr ⟨e, member, .inr ((ObjectEntry.breaks_iff (plain e member)).mpr (.inl inKey))⟩

/-- Main theorem. A built literal has the line feeds of its entries, and one more than entries if it
says that it has several lines; so it has a line feed just if it wants lines. What it says is right
exactly if it says that it has several lines, or if no key has a line feed. -/
theorem build_layout (o : ObjectLiteral) :
    occurrences '\n' o.build.value = (if o.isMultiLine then o.entries.length + 1 else 0) +
      (o.entries.map fun e => occurrences '\n' e.render).sum ∧
    ('\n' ∈ o.build.value.toList ↔ o.WantsLines) ∧
    ((o.isMultiLine = true ↔ o.WantsLines) ↔
      o.isMultiLine = true ∨ ∀ e ∈ o.entries, '\n' ∉ e.key.toList) ∧
    (('\n' ∈ o.build.value.toList ↔ o.isMultiLine = true) ↔
      o.isMultiLine = true ∨ ∀ e ∈ o.entries, '\n' ∉ e.key.toList) := by
  have counted := o.feeds_build
  have feed : '\n' ∈ o.build.value.toList ↔ o.WantsLines := by
    rw [← occurrences_pos_iff, counted]
    by_cases multi : o.isMultiLine = true
    · rw [if_pos multi]
      exact ⟨fun _ => wantsLines_of_isMultiLine multi, fun _ => by omega⟩
    · rw [if_neg multi, Nat.zero_add, feeds_entries_pos_iff]
      constructor
      · rintro ⟨e, member, breaks⟩
        exact .inr ⟨e, member, .inr breaks⟩
      · rintro (many | ⟨e, member, method | breaks⟩)
        · exact absurd (o.isMultiLine_iff.mpr (.inl many)) multi
        · exact absurd (o.isMultiLine_iff.mpr (.inr ⟨e, member, .inl method⟩)) multi
        · exact ⟨e, member, breaks⟩
  have told : (o.isMultiLine = true ↔ o.WantsLines) ↔
      o.isMultiLine = true ∨ ∀ e ∈ o.entries, '\n' ∉ e.key.toList := by
    by_cases multi : o.isMultiLine = true
    · have wants := wantsLines_of_isMultiLine multi
      simp [multi, wants]
    · simp [multi, wantsLines_iff_of_not_isMultiLine multi]
  refine ⟨counted, feed, told, ?_⟩
  rw [feed, ← told]
  exact ⟨Iff.symm, Iff.symm⟩

/-- A literal into which a call on three lines is spread has line feeds and says that it has
none. -/
theorem build_spread_call :
    ∃ o, addSpread {} "f(\n  x\n)" = .ok o ∧ o.build.value = "\x7b ...f(\n  x\n) \x7d" ∧
      o.WantsLines ∧ o.isMultiLine = false :=
  ⟨_, rfl, rfl, .inr ⟨_, List.mem_cons_self, .inr (Text.occurrences_pos_iff.mp (by decide))⟩, rfl⟩

end ObjectLiteral

end TypeScriptGen
