import TypeScriptGen.Proofs.Pipeline

/-!
Diagnostics as tagged texts. The severity travels as the tag in front of the message, and a message
may itself begin like a tag. Main statement: every text is the text of what is read from it, and a
diagnostic is read back from its text as it was unless it is a note that looks tagged. What was read
from texts never is, so a result survives the way through the texts of its diagnostics.
-/

set_option autoImplicit false
set_option relaxedAutoImplicit false

namespace TypeScriptGen

namespace Text

theorem after?_eq_some_iff {lead s rest : String} :
    after? lead s = some rest ↔ s = lead ++ rest := by
  rw [← String.toList_inj, String.toList_append]
  unfold after? beginsWith
  constructor
  · intro found
    split at found
    case isTrue begins =>
      cases found
      rw [String.toList_ofList]
      exact (List.prefix_iff_eq_append.mp (List.isPrefixOf_iff_prefix.mp begins)).symm
    case isFalse => cases found
  · intro whole
    rw [if_pos (by rw [whole, List.isPrefixOf_iff_prefix]; exact List.prefix_append _ _), whole,
      List.drop_left, String.ofList_toList]

theorem after?_eq_none_iff {lead s : String} :
    after? lead s = none ↔ beginsWith lead s = false := by
  unfold after?
  split
  case isTrue begins => simp [begins]
  case isFalse other => simp [other]

end Text

namespace Diagnostic

/-- The diagnostic is a note whose message begins with the tag of another severity. -/
def LooksTagged (d : Diagnostic) : Prop :=
  d.severity = .note ∧ ∃ m, d.message = .text m ∧
    (Text.beginsWith Severity.error.tag m ∨ Text.beginsWith Severity.warning.tag m)

private theorem ofText_untagged {t : String}
    (noError : Text.beginsWith Severity.error.tag t = false)
    (noWarning : Text.beginsWith Severity.warning.tag t = false) : ofText t = ⟨.note, .text t⟩ := by
  unfold ofText
  rw [Text.after?_eq_none_iff.mpr noError, Text.after?_eq_none_iff.mpr noWarning]

private theorem ofText_error (m : String) :
    ofText (Severity.error.tag ++ m) = ⟨.error, .text m⟩ := by
  unfold ofText
  rw [Text.after?_eq_some_iff.mpr rfl]

private theorem ofText_warning (m : String) :
    ofText (Severity.warning.tag ++ m) = ⟨.warning, .text m⟩ := by
  have apart : Text.beginsWith Severity.error.tag (Severity.warning.tag ++ m) = false := by
    rw [Text.beginsWith, String.toList_append]
    rfl
  unfold ofText
  rw [Text.after?_eq_none_iff.mpr apart, Text.after?_eq_some_iff.mpr rfl]

theorem ofText_cases (t : String) :
    ∃ severity m, t = severity.tag ++ m ∧ ofText t = ⟨severity, .text m⟩ ∧
      ¬ (ofText t).LooksTagged := by
  by_cases error : Text.beginsWith Severity.error.tag t = true
  · obtain ⟨m, found⟩ : ∃ m, Text.after? Severity.error.tag t = some m := ⟨_, if_pos error⟩
    obtain rfl := Text.after?_eq_some_iff.mp found
    refine ⟨.error, m, rfl, ofText_error m, ?_⟩
    rw [ofText_error]
    rintro ⟨⟨⟩, _⟩
  · by_cases warning : Text.beginsWith Severity.warning.tag t = true
    · obtain ⟨m, found⟩ : ∃ m, Text.after? Severity.warning.tag t = some m := ⟨_, if_pos warning⟩
      obtain rfl := Text.after?_eq_some_iff.mp found
      refine ⟨.warning, m, rfl, ofText_warning m, ?_⟩
      rw [ofText_warning]
      rintro ⟨⟨⟩, _⟩
    · have note := ofText_untagged (Bool.eq_false_iff.mpr error)
        (Bool.eq_false_iff.mpr warning)
      refine ⟨.note, t, (String.empty_append).symm, note, ?_⟩
      rw [note]
      rintro ⟨_, m, ⟨⟩, tagged⟩
      exact tagged.elim error warning

theorem text_ofText (t : String) : (ofText t).text = .ok t := by
  obtain ⟨severity, m, whole, read, _⟩ := ofText_cases t
  rw [read, whole]
  rfl

theorem ofText_tagged_iff (severity : Severity) (m : String) :
    ofText (severity.tag ++ m) = ⟨severity, .text m⟩ ↔ ¬ LooksTagged ⟨severity, .text m⟩ := by
  constructor
  · intro same
    obtain ⟨_, _, _, _, plain⟩ := ofText_cases (severity.tag ++ m)
    rwa [same] at plain
  · intro plain
    cases severity with
    | error => exact ofText_error m
    | warning => exact ofText_warning m
    | note =>
      have untagged := not_exists.mp (not_and.mp plain rfl) m
      rw [not_and, not_or] at untagged
      obtain ⟨noError, noWarning⟩ := untagged rfl
      have empty : Severity.note.tag ++ m = m := String.empty_append
      rw [empty]
      exact ofText_untagged (Bool.eq_false_iff.mpr noError)
        (Bool.eq_false_iff.mpr noWarning)

private theorem texts_ofText (ts : List String) : texts (ts.map ofText) = .ok ts := by
  induction ts with
  | nil => rfl
  | cons t rest ih =>
    rw [List.map_cons, texts, text_ofText, ih]
    rfl

private theorem findings_ofText (ts : List String) :
    EmitResult.diagnosticsOf (ts.map fun t => .stray (.text t)) = .ok (ts.map ofText) := by
  have findings : ∀ f ∈ ts.map fun t => (Supplied.stray (.text t) : Supplied Diagnostic),
      f.IsFinding := by
    rw [List.forall_mem_map]
    exact fun t _ => ⟨t, rfl⟩
  rw [Emission.diagnosticsOf_findings findings, List.map_map]
  rfl

private theorem exists_texts {ds : List Diagnostic} (parsed : ∀ d ∈ ds, ∃ t, d = ofText t) :
    ∃ ts : List String, ds = ts.map ofText := by
  induction ds with
  | nil => exact ⟨[], rfl⟩
  | cons d rest ih =>
    rw [List.forall_mem_cons] at parsed
    obtain ⟨t, rfl⟩ := parsed.1
    obtain ⟨ts, rfl⟩ := ih parsed.2
    exact ⟨t :: ts, rfl⟩

/-- A diagnostic is read back from its text as it was exactly if its message is a text and it is no
note that looks tagged. A message that is no text itself comes back as one. -/
private theorem ofText_eq_iff {d : Diagnostic} {s : String} (shown : d.text = .ok s) :
    ofText s = d ↔ d.message.IsText ∧ ¬ d.LooksTagged := by
  constructor
  · rintro rfl
    obtain ⟨_, m, _, read, plain⟩ := ofText_cases s
    exact ⟨⟨m, by rw [read]⟩, plain⟩
  · obtain ⟨severity, message⟩ := d
    rintro ⟨⟨m, rfl⟩, plain⟩
    cases shown
    exact (ofText_tagged_iff severity m).mpr plain

/-- Main theorem. Every text is the text of the diagnostic that is read from it, and is read as the
same diagnostic again. A message that is a text stands behind the tag of its severity, and a
diagnostic is read back from its text as it was exactly if its message is a text and it is no note
that looks tagged. A result whose diagnostics were read from texts is built anew from their texts:
its diagnostics, its success, its errors and its warnings are the same. -/
theorem text_round_trip :
    (∀ t, ∃ s, (ofText t).text = .ok s ∧ s = t ∧ ofText s = ofText t) ∧
    (∀ severity m, (Diagnostic.mk severity (.text m)).text = .ok (severity.tag ++ m)) ∧
    (∀ (d : Diagnostic) (s : String), d.text = .ok s →
      (ofText s = d ↔ d.message.IsText ∧ ¬ d.LooksTagged)) ∧
    (∀ r : EmitResult, (∀ d ∈ r.diagnostics, ∃ t, d = ofText t) →
      ∃ ss r', texts r.diagnostics = .ok ss ∧
        EmitResult.ofFindings r.code (ss.map fun s => .stray (.text s)) = .ok r' ∧
        r'.diagnostics = r.diagnostics ∧ r'.succeeded = r.succeeded ∧
        r'.errors = r.errors ∧ r'.warnings = r.warnings) := by
  refine ⟨fun t => ⟨t, text_ofText t, rfl, rfl⟩, fun _ _ => rfl,
    fun d s shown => ofText_eq_iff shown, ?_⟩
  rintro ⟨code, ds⟩ parsed
  obtain ⟨ts, rfl⟩ := exists_texts parsed
  refine ⟨ts, ⟨code, ts.map ofText⟩, texts_ofText ts, ?_, rfl, rfl, rfl, rfl⟩
  unfold EmitResult.ofFindings
  rw [findings_ofText]
  rfl

/-- The theorem at work: a tag inside a tagged message does no harm, but a note that looks tagged
does not come back, and a result that was read from texts keeps its success. -/
theorem text_round_trip_disk :
    ofText "warning: error: disk full" = ⟨.warning, "error: disk full"⟩ ∧
    ofText "error: disk full" ≠ ⟨.note, "error: disk full"⟩ ∧
    ∃ ss r', texts [ofText "warning: error: disk full"] = .ok ss ∧
      EmitResult.ofFindings "let x" (ss.map fun s => .stray (.text s)) = .ok r' ∧
      r'.succeeded = true := by
  obtain ⟨_, _, back, rebuilt⟩ := text_round_trip
  have warned : ¬ LooksTagged ⟨.warning, "error: disk full"⟩ := by
    rintro ⟨⟨⟩, _⟩
  have tagged : LooksTagged ⟨.note, "error: disk full"⟩ :=
    ⟨rfl, "error: disk full", rfl, .inl (by decide)⟩
  refine ⟨(back _ _ rfl).mpr ⟨⟨_, rfl⟩, warned⟩,
    fun same => ((back _ _ rfl).mp same).2 tagged, ?_⟩
  obtain ⟨ss, r', shown, made, _, succeeded, _⟩ :=
    rebuilt ⟨"let x", [ofText "warning: error: disk full"]⟩
      (List.forall_mem_singleton.mpr ⟨_, rfl⟩)
  exact ⟨ss, r', shown, made, succeeded.trans (by decide +kernel)⟩

end Diagnostic

end TypeScriptGen
