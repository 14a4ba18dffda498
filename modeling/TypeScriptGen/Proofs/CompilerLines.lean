import Mathlib.Data.List.DropRight
import Mathlib.Data.List.Forall2
import TypeScriptGen.Proofs.LineAlgebra
import TypeScriptGen.Report

/-!
The lines of compiler output. The two channels of a run are joined to one text, which is cut into
lines again; carriage returns at the end of a line are no part of it. Main statements: every line of
a channel that is not blank comes to one diagnostic, those of the first channel in front of those of
the second, and none of them holds text of both; and whatever is an error among the diagnostics is
also among the error lines of a report on the failure, in the same order.
-/

set_option autoImplicit false
set_option relaxedAutoImplicit false

namespace TypeScriptGen

namespace Text

/-! Parts of a text, and what is left of it when a run of one character is dropped at its end. -/

theorem hasPart_iff {part s : List Char} : hasPart part s = true ↔ part <:+: s := by
  induction s with
  | nil => rw [hasPart, Bool.or_false, List.isPrefixOf_iff_prefix, List.prefix_nil, List.infix_nil]
  | cons c rest ih =>
    rw [hasPart, Bool.or_eq_true, ih, List.isPrefixOf_iff_prefix, List.infix_cons_iff]

theorem toList_trimEndOf (c : Char) (s : String) :
    ∃ n, s.toList = (trimEndOf c s).toList ++ List.replicate n c ∧
      (trimEndOf c s).toList.getLast? ≠ some c := by
  have cut : s.toList.rdropWhile (· == c) ++ s.toList.rtakeWhile (· == c) = s.toList :=
    List.rdropWhile_append_rtakeWhile
  have run : s.toList.rtakeWhile (· == c) =
      List.replicate (s.toList.rtakeWhile (· == c)).length c := by
    refine List.eq_replicate_iff.mpr ⟨rfl, fun d member => ?_⟩
    simpa using List.mem_rtakeWhile_imp member
  have kept : (trimEndOf c s).toList = s.toList.rdropWhile (· == c) := String.toList_ofList
  refine ⟨(s.toList.rtakeWhile (· == c)).length, ?_, ?_⟩
  · rw [kept, ← run, cut]
  · rw [kept]
    intro last
    obtain ⟨front, same⟩ := List.getLast?_eq_some_iff.mp last
    have left := List.rdropWhile_last_not (· == c) s.toList (by rw [same]; simp)
    simp [same] at left

theorem trimEndOf_concat (c : Char) (cs : List Char) :
    trimEndOf c (String.ofList (cs ++ [c])) = trimEndOf c (String.ofList cs) := by
  unfold trimEndOf
  rw [String.toList_ofList, String.toList_ofList]
  exact congrArg String.ofList (List.rdropWhile_concat_pos _ _ _ (beq_self_eq_true c))

section

variable {part cs : List Char} {c : Char} (other : c ∉ part)
include other

private theorem infix_append_replicate (filled : part ≠ []) (n : Nat) :
    part <:+: cs ++ List.replicate n c ↔ part <:+: cs := by
  induction n with
  | zero => rw [List.replicate_zero, List.append_nil]
  | succ n ih =>
    rw [List.replicate_succ', ← List.append_assoc, List.infix_concat_iff, ih]
    refine or_iff_right fun ends => ?_
    rcases List.suffix_concat_iff.mp ends with empty | ⟨front, same, _⟩
    · exact filled empty
    · exact other (same ▸ List.mem_concat_self)

private theorem prefix_append_replicate (n : Nat) :
    part <+: cs ++ List.replicate n c ↔ part <+: cs := by
  induction n with
  | zero => rw [List.replicate_zero, List.append_nil]
  | succ n ih =>
    rw [List.replicate_succ', ← List.append_assoc, List.prefix_concat_iff, ih]
    refine or_iff_right fun same => ?_
    exact other (same ▸ List.mem_concat_self)

end

theorem isBlank_trimEndOf {c : Char} (blank : isBlankChar c = true) (s : String) :
    isBlank (trimEndOf c s) = isBlank s := by
  obtain ⟨n, same, _⟩ := toList_trimEndOf c s
  have run : (List.replicate n c).all isBlankChar = true := by
    refine List.all_eq_true.mpr fun d member => ?_
    rwa [List.eq_of_mem_replicate member]
  unfold isBlank
  rw [same, List.all_append, run, Bool.and_true]

private theorem dropEndWhile_append {p : Char → Bool} {run : List Char}
    (dropped : ∀ c ∈ run, p c = true) (cs : List Char) :
    dropEndWhile p (cs ++ run) = dropEndWhile p cs := by
  have front : run.reverse.dropWhile p = [] :=
    List.dropWhile_eq_nil_iff.mpr fun c member => dropped c (List.mem_reverse.mp member)
  unfold dropEndWhile
  rw [List.reverse_append, List.dropWhile_append, front, List.isEmpty_nil, if_pos rfl]

theorem trim_eq_of_append {s t : String} {run : List Char} (same : s.toList = t.toList ++ run)
    (blank : ∀ c ∈ run, isBlankChar c = true) : trim s = trim t := by
  unfold trim
  rw [same, List.dropWhile_append]
  split
  case isTrue empty =>
    rw [List.isEmpty_iff.mp empty, List.dropWhile_eq_nil_iff.mpr blank]
  case isFalse => rw [dropEndWhile_append blank]

theorem isBlank_iff_lines (s : String) :
    isBlank s = true ↔ ∀ line ∈ splitAtChar '\n' s, isBlank line = true := by
  unfold splitAtChar isBlank
  rw [List.forall_mem_map]
  simp only [String.toList_ofList]
  induction s.toList with
  | nil => simp
  | cons c rest ih =>
    rw [List.all_cons, Bool.and_eq_true, ih, List.splitOn_cons_eq_if_modifyHead]
    obtain ⟨first, others, cut⟩ := List.exists_cons_of_ne_nil (List.splitOn_ne_nil '\n' rest)
    rw [cut]
    split
    case isTrue feed =>
      have blank : isBlankChar c = true := by
        rw [eq_of_beq feed]
        decide
      simp [blank]
    case isFalse => simp [and_assoc]

theorem isBlank_withReturns (s : String) : isBlank (withReturns s) = isBlank s := by
  unfold isBlank withReturns
  rw [String.toList_ofList, List.all_flatMap]
  congr 1
  funext c
  split
  case isTrue feed =>
    rw [feed]
    decide
  case isFalse => simp

private theorem splitOn_withReturns (cs : List Char) :
    List.Forall₂ (fun line' line => line' = line ∨ line' = line ++ ['\r'])
      ((cs.flatMap fun c => if c = '\n' then ['\r', '\n'] else [c]).splitOn '\n')
      (cs.splitOn '\n') := by
  induction cs with
  | nil => exact .cons (.inl rfl) .nil
  | cons c rest ih =>
    obtain ⟨line', others', cut'⟩ := List.exists_cons_of_ne_nil
      (List.splitOn_ne_nil '\n' (rest.flatMap fun c => if c = '\n' then ['\r', '\n'] else [c]))
    obtain ⟨line, others, cut⟩ := List.exists_cons_of_ne_nil (List.splitOn_ne_nil '\n' rest)
    rw [cut, cut'] at ih
    by_cases feed : c = '\n'
    · have ended (more : List Char) : ['\r', '\n'] ++ more = ['\r'] ++ '\n' :: more := rfl
      have fed : '\n' :: rest = [] ++ '\n' :: rest := rfl
      rw [List.flatMap_cons, if_pos feed, feed, ended, fed, List.splitOn_append_cons_self,
        List.splitOn_append_cons_self, cut, cut']
      exact .cons (.inr rfl) ih
    · have unlike : (c == '\n') = false := beq_eq_false_iff_ne.mpr feed
      rw [List.flatMap_cons, if_neg feed, List.singleton_append,
        List.splitOn_cons_eq_if_modifyHead, List.splitOn_cons_eq_if_modifyHead, unlike,
        if_neg (by decide), if_neg (by decide), cut, cut']
      cases ih with
      | cons first more =>
        refine .cons ?_ more
        rcases first with rfl | rfl
        · exact .inl rfl
        · exact .inr rfl

end Text

namespace CompilerOutput

/-- What is said on a channel: its lines that are not blank. -/
def spoken (channel : String) : List String :=
  (Text.splitAtChar '\n' channel).filter fun line => !Text.isBlank line

def MarksError (line : String) : Prop :=
  ": error TS".toList <:+: line.toList ∨ "error TS".toList <+: line.toList

def MarksWarning (line : String) : Prop := ": warning TS".toList <:+: line.toList

/-- The diagnostic is that of the line: its message is the line without the carriage returns at its
end, and its severity is the one that the line is marked with. -/
structure Reports (line : String) (d : Diagnostic) : Prop where
  message : ∃ text returns, d.message = .text text ∧
    line.toList = text.toList ++ List.replicate returns '\r' ∧ text.toList.getLast? ≠ some '\r'
  error : d.severity = .error ↔ MarksError line
  warning : d.severity = .warning ↔ ¬ MarksError line ∧ MarksWarning line

/-- The diagnostics of the lines of a channel. -/
def reported (channel : String) : List Diagnostic :=
  (Text.splitAtChar '\n' channel).filterMap lineDiagnostic?

/-! One line. -/

private theorem classify_cases (line : String) :
    (classify line = .error ↔ MarksError line) ∧
      (classify line = .warning ↔ ¬ MarksError line ∧ MarksWarning line) := by
  have error : (Text.occursIn ": error TS" line || Text.beginsWith "error TS" line) = true ↔
      MarksError line := by
    rw [Bool.or_eq_true, Text.occursIn, Text.hasPart_iff, Text.beginsWith,
      List.isPrefixOf_iff_prefix]
    rfl
  have warning : Text.occursIn ": warning TS" line = true ↔ MarksWarning line := Text.hasPart_iff
  unfold classify
  rw [← error, ← warning]
  split
  case isTrue marked => simp [marked]
  case isFalse unmarked =>
    split
    case isTrue warned => simp [unmarked, warned]
    case isFalse silent => simp [unmarked, silent]

private theorem marks_trimmed (line : String) :
    (MarksError (Text.trimEndOf '\r' line) ↔ MarksError line) ∧
      (MarksWarning (Text.trimEndOf '\r' line) ↔ MarksWarning line) := by
  obtain ⟨n, same, _⟩ := Text.toList_trimEndOf '\r' line
  unfold MarksError MarksWarning
  rw [same, Text.infix_append_replicate (by decide) (by decide),
    Text.infix_append_replicate (by decide) (by decide), Text.prefix_append_replicate (by decide)]
  exact ⟨.rfl, .rfl⟩

private theorem reports_trimmed (line : String) :
    Reports line ⟨classify (Text.trimEndOf '\r' line), .text (Text.trimEndOf '\r' line)⟩ := by
  obtain ⟨error, warning⟩ := classify_cases (Text.trimEndOf '\r' line)
  obtain ⟨sameError, sameWarning⟩ := marks_trimmed line
  obtain ⟨n, same, ended⟩ := Text.toList_trimEndOf '\r' line
  generalize Text.trimEndOf '\r' line = text at *
  exact {
    message := ⟨text, n, rfl, same, ended⟩
    error := error.trans sameError
    warning := warning.trans (and_congr (not_congr sameError) sameWarning) }

private theorem lineDiagnostic?_blank {line : String} (blank : Text.isBlank line = true) :
    lineDiagnostic? line = none := by
  have trimmed : Text.isBlank (Text.trimEndOf '\r' line) = true := by
    rw [Text.isBlank_trimEndOf (by decide), blank]
  rw [lineDiagnostic?, if_pos trimmed]

private theorem lineDiagnostic?_spoken {line : String} (spoken : Text.isBlank line = false) :
    ∃ d, lineDiagnostic? line = some d ∧ Reports line d := by
  have trimmed : ¬ Text.isBlank (Text.trimEndOf '\r' line) = true := by
    rw [Text.isBlank_trimEndOf (by decide), spoken]
    decide
  refine ⟨_, ?_, reports_trimmed line⟩
  rw [lineDiagnostic?, if_neg trimmed]

private theorem lineDiagnostic?_return (line : List Char) :
    lineDiagnostic? (String.ofList (line ++ ['\r'])) = lineDiagnostic? (String.ofList line) := by
  unfold lineDiagnostic?
  rw [Text.trimEndOf_concat]

/-! The lines of one channel. -/

private theorem reports_reported (channel : String) :
    List.Forall₂ Reports (spoken channel) (reported channel) := by
  unfold spoken reported
  induction Text.splitAtChar '\n' channel with
  | nil => exact .nil
  | cons line rest ih =>
    cases blank : Text.isBlank line with
    | true =>
      rw [List.filter_cons_of_neg (by simp [blank]), List.filterMap_cons_none
        (lineDiagnostic?_blank blank)]
      exact ih
    | false =>
      obtain ⟨d, found, reports⟩ := lineDiagnostic?_spoken blank
      rw [List.filter_cons_of_pos (by simp [blank]), List.filterMap_cons_some found]
      exact .cons reports ih

private theorem spoken_eq_nil (channel : String) :
    spoken channel = [] ↔ Text.isBlank channel = true := by
  rw [Text.isBlank_iff_lines, spoken, List.filter_eq_nil_iff]
  simp

private theorem reported_eq_nil (channel : String) :
    reported channel = [] ↔ Text.isBlank channel = true := by
  have lengths := (reports_reported channel).length_eq
  rw [← spoken_eq_nil, ← List.length_eq_zero_iff, ← lengths, List.length_eq_zero_iff]

private theorem reported_feed (first second : String) :
    reported (first ++ "\n" ++ second) = reported first ++ reported second := by
  unfold reported Text.splitAtChar
  have feed : (first ++ "\n" ++ second).toList = first.toList ++ '\n' :: second.toList := by simp
  rw [feed, List.splitOn_append_cons_self, List.map_append, List.filterMap_append]

private theorem reported_trimmed (channel : String) :
    reported (Text.trimEndOf '\n' channel) = reported channel := by
  obtain ⟨n, same, _⟩ := Text.toList_trimEndOf '\n' channel
  have whole : channel = Text.trimEndOf '\n' channel ++ String.ofList (List.replicate n '\n') := by
    apply String.toList_inj.mp
    rw [String.toList_append, String.toList_ofList, same]
  conv_rhs => rw [whole]
  clear same whole
  induction n with
  | zero => simp
  | succ n ih =>
    have step : Text.trimEndOf '\n' channel ++ String.ofList (List.replicate (n + 1) '\n') =
        Text.trimEndOf '\n' channel ++ String.ofList (List.replicate n '\n') ++ "\n" ++ "" := by
      apply String.toList_inj.mp
      simp [List.replicate_succ']
    rw [step, reported_feed, ← ih]
    simp [(reported_eq_nil "").mpr rfl]

private theorem reported_withReturns (channel : String) :
    reported (Text.withReturns channel) = reported channel := by
  have lines := Text.splitOn_withReturns channel.toList
  unfold reported Text.splitAtChar Text.withReturns
  rw [String.toList_ofList]
  generalize (channel.toList.flatMap _).splitOn '\n' = cut', channel.toList.splitOn '\n' = cut
    at lines ⊢
  induction lines with
  | nil => rfl
  | @cons line' line others' others first more ih =>
    have same : lineDiagnostic? (String.ofList line') = lineDiagnostic? (String.ofList line) := by
      rcases first with rfl | rfl
      · rfl
      · exact lineDiagnostic?_return line
    rw [List.map_cons, List.map_cons, List.filterMap_cons, List.filterMap_cons, same, ih]

/-! Both channels. -/

private theorem reported_joinChannels (out err : String) :
    reported (joinChannels out err) = reported out ++ reported err := by
  have silent : ∀ channel : String, channel.isEmpty = true → reported channel = [] := by
    intro channel empty
    rw [String.isEmpty_iff.mp empty]
    exact (reported_eq_nil "").mpr rfl
  unfold joinChannels
  cases noOut : out.isEmpty with
  | true => simp [silent out noOut]
  | false =>
    cases noErr : err.isEmpty with
    | true => simp [silent err noErr]
    | false =>
      have both : reported (Text.trimEndOf '\n' out ++ "\n" ++ err) =
          reported out ++ reported err := by
        rw [reported_feed, reported_trimmed]
      simpa using both

private theorem diagnostics_eq (out err : String) :
    diagnostics (joinChannels out err) =
      if Text.isBlank out && Text.isBlank err then [⟨.error, .text silentFailure⟩]
      else reported out ++ reported err := by
  have blank : Text.isBlank (joinChannels out err) = (Text.isBlank out && Text.isBlank err) := by
    rw [Bool.eq_iff_iff, Bool.and_eq_true, ← reported_eq_nil, ← reported_eq_nil, ← reported_eq_nil,
      reported_joinChannels, List.append_eq_nil_iff]
  unfold diagnostics
  rw [blank]
  exact if_congr Iff.rfl rfl (reported_joinChannels out err)

/-- Main theorem. The output of a run has diagnostics: the complaint about silence if both channels
are blank, and otherwise one for each line that is not blank, first those of the one channel and
then those of the other. Returns in front of the line feeds of a channel change none of them. -/
theorem diagnostics_joinChannels (out err : String) :
    diagnostics (joinChannels out err) ≠ [] ∧
    (if Text.isBlank out && Text.isBlank err then
      diagnostics (joinChannels out err) = [⟨.error, .text silentFailure⟩]
    else ∃ first second, diagnostics (joinChannels out err) = first ++ second ∧
      List.Forall₂ Reports (spoken out) first ∧ List.Forall₂ Reports (spoken err) second) ∧
    diagnostics (joinChannels (Text.withReturns out) err) = diagnostics (joinChannels out err) ∧
    diagnostics (joinChannels out (Text.withReturns err)) = diagnostics (joinChannels out err) := by
  refine ⟨?_, ?_, ?_, ?_⟩
  · rw [diagnostics_eq]
    split
    case isTrue => exact List.cons_ne_nil _ _
    case isFalse said =>
      intro empty
      obtain ⟨noOut, noErr⟩ := List.append_eq_nil_iff.mp empty
      rw [reported_eq_nil] at noOut noErr
      exact said (by rw [noOut, noErr]; rfl)
  · rw [diagnostics_eq]
    split
    case isTrue => rfl
    case isFalse => exact ⟨_, _, rfl, reports_reported out, reports_reported err⟩
  · rw [diagnostics_eq, diagnostics_eq, Text.isBlank_withReturns, reported_withReturns]
  · rw [diagnostics_eq, diagnostics_eq, Text.isBlank_withReturns, reported_withReturns]

/-! The errors among the diagnostics, and the lines that a report on the failure extracts. -/

/-- The line mentions an error of the compiler, in any case of letters. -/
def mentionsError (line : String) : Bool := Text.occursIn "error ts" (Text.lowerLatin line)

private theorem mentionsError_of_marks {line : String} (marked : MarksError line) :
    mentionsError line = true := by
  have part : "error TS".toList <:+: line.toList := by
    rcases marked with inside | front
    · exact List.IsInfix.trans ⟨": ".toList, [], rfl⟩ inside
    · exact front.isInfix
  have lowered : (Text.lowerLatin line).toList = line.toList.map Char.toLower :=
    String.toList_ofList
  rw [mentionsError, Text.occursIn, Text.hasPart_iff, lowered]
  exact part.map Char.toLower

private theorem Reports.trimmed {line : String} {d : Diagnostic} (reports : Reports line d) :
    ∃ text, d.message = .text text ∧ Text.trim text = Text.trim line := by
  obtain ⟨text, returns, message, same, _⟩ := reports.message
  refine ⟨text, message, (Text.trim_eq_of_append same fun c member => ?_).symm⟩
  rw [List.eq_of_mem_replicate member]
  decide

private theorem errors_sublist (lines : List String) :
    ∃ messages : List String,
      ((lines.filterMap lineDiagnostic?).filter Diagnostic.isError).map Diagnostic.message =
        messages.map .text ∧
      (messages.map Text.trim).Sublist ((lines.filter mentionsError).map Text.trim) := by
  induction lines with
  | nil => exact ⟨[], rfl, .slnil⟩
  | cons line rest ih =>
    obtain ⟨messages, same, among⟩ := ih
    -- A line that is no error may be extracted all the same.
    have skipped := among.trans
      (((List.sublist_cons_self line rest).filter mentionsError).map Text.trim)
    cases blank : Text.isBlank line with
    | true =>
      rw [List.filterMap_cons_none (lineDiagnostic?_blank blank)]
      exact ⟨messages, same, skipped⟩
    | false =>
      obtain ⟨d, found, reports⟩ := lineDiagnostic?_spoken blank
      rw [List.filterMap_cons_some found]
      cases error : d.isError with
      | false =>
        rw [List.filter_cons_of_neg (by simp [error])]
        exact ⟨messages, same, skipped⟩
      | true =>
        obtain ⟨text, message, trimmed⟩ := reports.trimmed
        have mentioned := mentionsError_of_marks (reports.error.mp (eq_of_beq error))
        rw [List.filter_cons_of_pos error, List.filter_cons_of_pos mentioned]
        refine ⟨text :: messages, ?_, ?_⟩
        · rw [List.map_cons, List.map_cons, message, same]
        · rw [List.map_cons, List.map_cons, trimmed]
          exact among.cons_cons _

private theorem compilerErrors_spoken {output : String} (spoken : Text.isBlank output = false)
    (message : Value) (source : String) :
    ∃ report, Report.ofCompilation message (.text source) (.text output) = .ok report ∧
      report.compilerErrors = .ok (errorLines output) := by
  have holds : (Value.text output).holds = true := by
    cases empty : output.isEmpty with
    | false => simp [Value.holds, empty]
    | true =>
      rw [String.isEmpty_iff.mp empty] at spoken
      cases spoken
  refine ⟨.compilation message (.text source) (.text output), ?_, ?_⟩
  · unfold Report.ofCompilation
    rw [holds]
    by_cases given : (Value.text source).holds = true
    · rw [if_pos given]
      rfl
    · rw [if_neg given]
      rfl
  · change (if (Value.text output).holds = true then _ else _) = _
    rw [holds]
    rfl

/-- Main theorem. A report on a failed compilation with output that is not blank extracts lines from
it. The messages of the errors among the diagnostics of the output, trimmed, are a part of them in
the same order, each as often as it occurs. Where nothing is extracted, no diagnostic is an
error. -/
theorem errors_extracted (message : Value) (source : String) {output : String}
    (spoken : Text.isBlank output = false) :
    (∃ report, Report.ofCompilation message (.text source) (.text output) = .ok report ∧
      report.compilerErrors = .ok (errorLines output)) ∧
    (∃ messages : List String,
      ((diagnostics output).filter Diagnostic.isError).map Diagnostic.message =
        messages.map .text ∧
      (messages.map Text.trim).Sublist (errorLines output)) ∧
    (errorLines output = [] → (diagnostics output).any Diagnostic.isError = false) := by
  have read : diagnostics output = (Text.splitAtChar '\n' output).filterMap lineDiagnostic? := by
    rw [diagnostics, spoken, if_neg (by decide)]
  obtain ⟨messages, same, among⟩ := errors_sublist (Text.splitAtChar '\n' output)
  change (messages.map Text.trim).Sublist (errorLines output) at among
  rw [← read] at same
  refine ⟨compilerErrors_spoken spoken message source, ⟨messages, same, among⟩, fun empty => ?_⟩
  rw [empty, List.sublist_nil, List.map_eq_nil_iff] at among
  rw [among, List.map_nil, List.map_eq_nil_iff, List.filter_eq_nil_iff] at same
  simpa using same

private def mixedOutput : String :=
  "\u2003a.ts: error TS5: ;\r\n1 ERROR TS\n \na: warning TS6: error ts"

/-- The theorem at work: what is extracted loses the blanks at its ends, and a mention in other
letters or in a warning is extracted although it is no error. -/
theorem errors_extracted_mixed :
    Text.isBlank mixedOutput = false ∧
    errorLines mixedOutput = ["a.ts: error TS5: ;", "1 ERROR TS", "a: warning TS6: error ts"] ∧
    (∃ report, Report.ofCompilation "tsc" "let x" mixedOutput = .ok report ∧
      report.compilerErrors = .ok (errorLines mixedOutput)) ∧
    ((diagnostics mixedOutput).filter Diagnostic.isError).map Diagnostic.message =
      [.text "\u2003a.ts: error TS5: ;"] ∧
    [Text.trim "\u2003a.ts: error TS5: ;"].Sublist (errorLines mixedOutput) := by
  have spoken : Text.isBlank mixedOutput = false := by decide +kernel
  obtain ⟨extracted, ⟨messages, same, among⟩, _⟩ := errors_extracted "tsc" "let x" spoken
  have texts : (((diagnostics mixedOutput).filter Diagnostic.isError).map
      Diagnostic.message).map Value.textOf = ["\u2003a.ts: error TS5: ;"] := by decide +kernel
  rw [same, List.map_map, show Value.textOf ∘ Value.text = id from rfl, List.map_id] at texts
  subst texts
  exact ⟨spoken, by decide +kernel, extracted, same, among⟩

end CompilerOutput

end TypeScriptGen
