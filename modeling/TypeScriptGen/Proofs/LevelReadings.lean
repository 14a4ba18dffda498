import Mathlib.Data.List.TakeWhile
import TypeScriptGen.Proofs.Pipeline

/-!
A configuration states its level of validation once, and it is read twice: to tell whether
validation is asked for, and to make the settings of an emission. Main statement: where the settings
can be made, the two readings agree, and so does what an emission does, exactly if the level is a
text that does not hide the word for no validation between blanks.
-/

set_option autoImplicit false
set_option relaxedAutoImplicit false

namespace TypeScriptGen

namespace Text

theorem toLower_blank {c : Char} (blank : isBlankChar c = true) : c.toLower = c := by
  unfold Char.toLower
  split
  case isTrue upper =>
    have least : 65 ≤ c.toNat := UInt32.le_iff_toNat_le.mp upper.1
    have greatest : c.toNat ≤ 90 := UInt32.le_iff_toNat_le.mp upper.2
    simp only [isBlankChar, Bool.or_eq_true, Bool.and_eq_true, decide_eq_true_eq, beq_iff_eq]
      at blank
    omega
  case isFalse => rfl

theorem dropWhile_solid {cs : List Char} (solid : ∀ c ∈ cs, isBlankChar c = false) :
    cs.dropWhile isBlankChar = cs := by
  rw [List.dropWhile_eq_self_iff]
  intro nonempty
  rw [solid _ (List.getElem_mem nonempty)]
  decide

theorem trim_solid {s : String} (solid : ∀ c ∈ s.toList, isBlankChar c = false) : trim s = s := by
  have backwards : ∀ c ∈ s.toList.reverse, isBlankChar c = false := by
    intro c member
    exact solid c (List.mem_reverse.mp member)
  unfold trim dropEndWhile
  rw [dropWhile_solid solid, dropWhile_solid backwards, List.reverse_reverse, String.ofList_toList]

theorem lowerLatin_eq_iff {word : String} (solid : ∀ c ∈ word.toList, isBlankChar c = false)
    (s : String) : lowerLatin s = word ↔ lowerLatin (trim s) = word ∧ trim s = s := by
  constructor
  · intro spelled
    have trimmed : trim s = s := by
      apply trim_solid
      intro c member
      have lower : c.toLower ∈ word.toList := by
        rw [← spelled]
        unfold lowerLatin
        rw [String.toList_ofList]
        exact List.mem_map_of_mem member
      cases blank : isBlankChar c with
      | false => rfl
      | true =>
        rw [toLower_blank blank] at lower
        exact absurd blank (by simp [solid c lower])
    exact ⟨by rw [trimmed, spelled], trimmed⟩
  · rintro ⟨spelled, trimmed⟩
    rw [← trimmed, spelled]

end Text

namespace Level

theorem ofValue_text {t : String} {level : Level} (read : ofValue (.text t) = .ok level) :
    (level = .unchecked ∧ Text.lowerLatin (Text.trim t) = unchecked.word) ∨
      (level = .compiled ∧ Text.lowerLatin (Text.trim t) ≠ unchecked.word) := by
  unfold ofValue at read
  simp only [ofMember?, Value.toText, bind, Except.bind, pure, Except.pure] at read
  split at read
  case isTrue spelled =>
    cases read
    exact .inl ⟨rfl, beq_iff_eq.mp spelled⟩
  case isFalse other =>
    split at read
    case isTrue =>
      cases read
      exact .inr ⟨rfl, by simpa using other⟩
    case isFalse => cases read

theorem compiled_le {level : Level} : compiled.rank ≤ level.rank ↔ level = .compiled := by
  cases level <;> decide

end Level

namespace Emission

theorem checked_iff {d : Declaration} {o : EmitOptions} {name : String}
    (readable : d.name.toText = .ok name) (reports : ReportsFindings o) {k : Collaborators}
    (serve : k.Serve o) {h : Host} {code : String} (handed : (course d o h).text = some code) :
    ∃ r h' made, (emit (.good d) (.good o)).on h = (.ok r, h') ∧ h'.calls = h.calls ++ made ∧
      ((∃ source, .checked source ∈ made) ↔ o.settings.level = .compiled) := by
  obtain ⟨r, h', emitted, calls, _⟩ := emit_cases readable reports h
  rw [calls_course readable serve] at calls
  refine ⟨r, h', _, emitted, calls, ?_⟩
  have input : (∃ source, .checked source ∈ (course d o h).calls) ↔
      ∃ source, (course d o h).checkerInput = some source := by
    simp only [Course.calls, List.mem_append, List.mem_map, Option.mem_toList, reduceCtorEq,
      and_false, exists_false, false_or, Event.checked.injEq]
    exact ⟨fun ⟨_, source, given, _⟩ => ⟨source, given⟩,
      fun ⟨source, given⟩ => ⟨.text source, source, given, rfl⟩⟩
  rw [input]
  simp [checkerInput_eq_some, handed]

end Emission

namespace Config

/-- The level is a text that does not hide the word for no validation between blanks. -/
def SaysPlainly (c : Config) : Prop :=
  ∃ t, c.validation.level = .text t ∧
    (Text.lowerLatin (Text.trim t) = Level.unchecked.word → Text.trim t = t)

variable {c : Config} {s : Settings}

theorem level_of_settings (asked : c.settings = .ok s) :
    Level.ofValue c.validation.level = .ok s.level := by
  unfold settings at asked
  obtain ⟨indentation, _, asked⟩ := Step.bind_eq_ok.mp asked
  obtain ⟨level, read, made⟩ := Step.bind_eq_ok.mp asked
  cases made
  exact read

theorem solid_unchecked : ∀ c ∈ Level.unchecked.word.toList, Text.isBlankChar c = false := by
  have noBlank : Level.unchecked.word.toList.any Text.isBlankChar = false := rfl
  simpa using noBlank

theorem validates_text {t : String} (text : c.validation.level = .text t) :
    c.validates = .ok (!decide (Text.lowerLatin (Text.trim t) = Level.unchecked.word ∧
      Text.trim t = t)) := by
  unfold validates
  rw [text]
  simp only [Value.asText, bind, Except.bind, pure, Except.pure, bne, beq_eq_decide]
  rw [decide_eq_decide.mpr (Text.lowerLatin_eq_iff solid_unchecked t)]

theorem saysPlainly_text {t : String} (text : c.validation.level = .text t) :
    c.SaysPlainly ↔ (Text.lowerLatin (Text.trim t) = Level.unchecked.word → Text.trim t = t) := by
  unfold SaysPlainly
  rw [text]
  simp

theorem validates_iff {t : String} (asked : c.settings = .ok s)
    (text : c.validation.level = .text t) :
    c.validates = .ok (decide (Level.compiled.rank ≤ s.level.rank)) ↔ c.SaysPlainly := by
  have read := level_of_settings asked
  rw [text] at read
  rw [validates_text text, saysPlainly_text text]
  rcases Level.ofValue_text read with ⟨level, spelled⟩ | ⟨level, other⟩
  · simp [Level.compiled_le, level, spelled]
  · simp [level, other]

theorem validates_hidden {t : String} (asked : c.settings = .ok s)
    (text : c.validation.level = .text t) (hidden : ¬ c.SaysPlainly) :
    c.validates = .ok true ∧ s.level = .unchecked := by
  have read := level_of_settings asked
  rw [text] at read
  rw [saysPlainly_text text] at hidden
  obtain ⟨spelled, padded⟩ := Classical.not_imp.mp hidden
  rw [validates_text text]
  rcases Level.ofValue_text read with ⟨level, _⟩ | ⟨_, other⟩
  · exact ⟨by simp [padded], level⟩
  · exact absurd spelled other

theorem validates_other (other : ∀ t, c.validation.level ≠ .text t) :
    c.validates = .error (c.validation.level.lack "lower") := by
  unfold validates
  cases level : c.validation.level with
  | text t => exact absurd level (other t)
  | _ => rfl

/-- Main theorem. Let the settings of an emission be made from a configuration. Whether validation
is asked for is told to be what these settings say exactly if the level is stated plainly. If it is
no text, the question fails; if it is the word for no validation between blanks, validation is told
to be asked for, while the settings do without. An emission with these settings that comes to a text
calls the checker exactly if their level is at least the one that asks for it. -/
theorem validates_agrees (asked : c.settings = .ok s) :
    (c.validates = .ok (decide (Level.compiled.rank ≤ s.level.rank)) ↔ c.SaysPlainly) ∧
      ((∀ t, c.validation.level ≠ .text t) →
        c.validates = .error (c.validation.level.lack "lower")) ∧
      (∀ t, c.validation.level = .text t → ¬ c.SaysPlainly →
        c.validates = .ok true ∧ s.level = .unchecked) ∧
      ∀ (d : Declaration) (o : EmitOptions) (k : Collaborators) (name code : String) (h : Host),
        o.settings = s → d.name.toText = .ok name → Emission.ReportsFindings o → k.Serve o →
        (Emission.course d o h).text = some code →
          ∃ r h' made, (Emission.emit (.good d) (.good o)).on h = (.ok r, h') ∧
            h'.calls = h.calls ++ made ∧
            ((∃ source, .checked source ∈ made) ↔ Level.compiled.rank ≤ s.level.rank) := by
  refine ⟨?_, validates_other, fun t text hidden => validates_hidden asked text hidden, ?_⟩
  · by_cases text : ∃ t, c.validation.level = .text t
    case pos =>
      obtain ⟨t, text⟩ := text
      exact validates_iff asked text
    case neg =>
      have other := not_exists.mp text
      rw [validates_other other]
      simp [SaysPlainly, other]
  · rintro d o k name code h rfl readable reports serve handed
    simp only [Level.compiled_le]
    exact Emission.checked_iff readable reports serve handed

def stating (level : Value) : Config where
  path := "c.json"
  validation := { level }

/-- The theorem at work: blanks and upper case letters do not matter around the other word. -/
theorem validates_agrees_syntax :
    ∃ s, (stating " SYNTAX ").settings = .ok s ∧ (stating " SYNTAX ").SaysPlainly ∧
      (stating " SYNTAX ").validates = .ok (decide (Level.compiled.rank ≤ s.level.rank)) ∧
      s.level = .compiled := by
  have asked : (stating " SYNTAX ").settings = .ok { level := .compiled } := rfl
  have plainly : (stating " SYNTAX ").SaysPlainly :=
    (saysPlainly_text rfl).mpr fun spelled => absurd spelled (by decide)
  exact ⟨_, asked, plainly, (validates_agrees asked).1.mpr plainly, rfl⟩

/-- Between blanks, the word for no validation is read as no validation by the settings, and as a
request for it by the configuration. -/
theorem validates_blanks :
    ∃ s, (stating " none ").settings = .ok s ∧ s.level = .unchecked ∧
      (stating " none ").validates = .ok true :=
  ⟨_, rfl, rfl, rfl⟩

end Config

end TypeScriptGen
