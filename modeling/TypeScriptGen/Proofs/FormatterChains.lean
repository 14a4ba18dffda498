import Mathlib.Data.List.Forall2
import TypeScriptGen.Proofs.FormattingFallback

/-!
Chains of any length of formatters that read code and print it formatted, on a host whose programs
end, are stopped or are refused by the system. Main statement: the code becomes what the first
program prints that succeeds, or stays as it is if none does; exactly the programs up to that one
are started, in order and on the original code; and what is written to the second channel has no
effect.
-/

set_option autoImplicit false
set_option relaxedAutoImplicit false

namespace TypeScriptGen

namespace Reply

/-- The text that is printed by a program that ends by itself with exit code zero, if there is more
to it than blanks. -/
def printed? : Reply → Option String
  | .exited code out _ => if code = 0 ∧ Text.isBlank out = false then some out else none
  | .stopped _ _ => none
  | .refused _ => none

/-- The reply without what was written to the second channel. -/
def muted : Reply → Reply
  | .refused fault => .refused fault
  | .stopped out _ => .stopped out .nothing
  | .exited code out _ => .exited code out ""

theorem printed?_muted (r : Reply) : r.muted.printed? = r.printed? := by
  cases r <;> rfl

theorem formatted_eq_printed? {r : Reply}
    (ordinary : ∀ fault, r = .refused fault → ∃ e, fault = .system e) :
    r.formatted = .ok r.printed? := by
  cases r with
  | refused fault =>
    obtain ⟨e, rfl⟩ := ordinary fault rfl
    rfl
  | stopped out err => rfl
  | exited code out err => simp [formatted, printed?]

variable {replies replies₂ : List Reply}

theorem findSome?_of_muted (alike : replies₂.map muted = replies.map muted) :
    replies₂.findSome? printed? = replies.findSome? printed? := by
  have same : printed? ∘ muted = printed? := funext printed?_muted
  have first := congrArg (List.findSome? printed?) alike
  rwa [List.findSome?_map, List.findSome?_map, same] at first

theorem findIdx_of_muted (alike : replies₂.map muted = replies.map muted) :
    replies₂.findIdx (·.printed?.isSome) = replies.findIdx (·.printed?.isSome) := by
  have same : (fun r : Reply => r.printed?.isSome) ∘ muted = fun r => r.printed?.isSome :=
    funext fun r => congrArg Option.isSome r.printed?_muted
  have first := congrArg (List.findIdx fun r : Reply => r.printed?.isSome) alike
  rwa [List.findIdx_map, List.findIdx_map, same] at first

theorem firstFormatted_eq_findSome? (ordinary : ∀ r ∈ replies, r.formatted = .ok r.printed?) :
    firstFormatted replies = .ok (replies.findSome? printed?) := by
  induction replies with
  | nil => rfl
  | cons r rest ih =>
    obtain ⟨first, others⟩ := List.forall_mem_cons.mp ordinary
    rw [firstFormatted, first, List.findSome?_cons]
    cases r.printed? with
    | none => exact ih others
    | some text => rfl

theorem isUseless_eq_printed? {r : Reply} (ordinary : r.formatted = .ok r.printed?) :
    (!r.isUseless) = r.printed?.isSome := by
  rw [isUseless, ordinary]
  cases r.printed? <;> rfl

theorem findIdx_isUseless (ordinary : ∀ r ∈ replies, r.formatted = .ok r.printed?) :
    replies.findIdx (!·.isUseless) = replies.findIdx (·.printed?.isSome) := by
  induction replies with
  | nil => rfl
  | cons r rest ih =>
    obtain ⟨first, others⟩ := List.forall_mem_cons.mp ordinary
    rw [List.findIdx_cons, List.findIdx_cons, isUseless_eq_printed? first, ih others]

end Reply

namespace Host

/-- The programs on the two hosts reply alike, apart from what they write to the second channel. -/
structure AlikeButMuted (h h₂ : Host) : Prop where
  launches : h₂.launches = h.launches
  respond : ∀ history l, (h₂.respond history l).muted = (h.respond history l).muted

theorem Ordinary.of_muted {h h₂ : Host} (ordinary : h.Ordinary) (alike : h.AlikeButMuted h₂) :
    h₂.Ordinary := by
  intro history l fault refused
  have same := alike.respond history l
  rw [refused] at same
  cases reply : h.respond history l with
  | refused other =>
    rw [reply] at same
    cases same
    exact ordinary history l fault reply
  | stopped out err =>
    rw [reply] at same
    cases same
  | exited code out err =>
    rw [reply] at same
    cases same

theorem repliesTo_muted {h h₂ : Host} (alike : h.AlikeButMuted h₂) (before ls : List Launch) :
    (repliesTo h₂.respond before ls).map Reply.muted =
      (repliesTo h.respond before ls).map Reply.muted := by
  induction ls generalizing before with
  | nil => rfl
  | cons l rest ih => rw [repliesTo, repliesTo, List.map_cons, List.map_cons, alike.respond, ih]

theorem Ordinary.formatted {h : Host} (ordinary : h.Ordinary) (before ls : List Launch) :
    ∀ r ∈ repliesTo h.respond before ls, r.formatted = .ok r.printed? := by
  intro r member
  obtain ⟨history, l, rfl⟩ := mem_repliesTo member
  exact Reply.formatted_eq_printed? fun fault refused => ordinary history l fault refused

end Host

theorem Settings.measured {s : Settings} (indented : s.indentation.IsText) :
    ∃ width tabs, s.indentWidth = .ok width ∧ s.usesTabs = .ok tabs := by
  obtain ⟨unit, text⟩ := indented
  have tabbed : ∃ tabs, s.usesTabs = .ok tabs := by
    unfold usesTabs
    rw [text]
    exact ⟨_, rfl⟩
  obtain ⟨tabs, known⟩ := tabbed
  refine ⟨if tabs then 1 else unit.toList.length, tabs, ?_, known⟩
  unfold indentWidth
  rw [known, text]
  cases tabs <;> simp [Value.length, Value.items?, bind, Except.bind, pure, Except.pure]

namespace ChainMember

private theorem format_on_ordinary {s : Settings} {width : Nat} {tabs : Bool}
    (measured : s.indentWidth = .ok width) (tabbed : s.usesTabs = .ok tabs) {fs : List Formatter}
    (limited : ∀ f ∈ fs, Succeeds f.limit.toText) (code : String) {h : Host}
    (ordinary : h.Ordinary) {starts : List Launch}
    (made : starts = fs.map (Formatter.start s width tabs code)) {replies : List Reply}
    (given : replies = Host.repliesTo h.respond h.launches starts) :
    ∃ h', (format (fs.map ofFormatter) code (.good s)).on h =
        (.ok ((replies.findSome? Reply.printed?).getD code), h') ∧
      h'.launches =
        (starts.take (replies.findIdx (·.printed?.isSome) + 1)).reverse ++ h.launches := by
  have printing : ∀ r ∈ replies, r.formatted = .ok r.printed? := by
    rw [given]
    exact ordinary.formatted h.launches starts
  obtain ⟨h', tried, advances⟩ := tryFormat_on measured tabbed limited code h made given
  rw [Reply.firstFormatted_eq_findSome? printing] at tried
  rw [Reply.findIdx_isUseless printing] at advances
  exact ⟨h', format_on tried, advances.launches⟩

/-- Main theorem. A chain of formatters makes of code the text that the first program prints which
succeeds, or leaves it as it is. The programs are the commands of the formatters under the settings,
each fed the code itself; those up to the one that succeeds are started, in order, and no others.
Nothing changes where programs write something else to their second channel. -/
theorem format_first_printed {s : Settings} (indented : s.indentation.IsText) {fs : List Formatter}
    (limited : ∀ f ∈ fs, Succeeds f.limit.toText) (code : String) {h : Host}
    (ordinary : h.Ordinary) :
    ∃ starts replies h',
      List.Forall₂ (fun f l => ∃ words, f.command (.good s) = .ok words ∧
        l = { command := words, input := .text code, limit := f.limit }) fs starts ∧
      replies = Host.repliesTo h.respond h.launches starts ∧
      (format (fs.map ofFormatter) code (.good s)).on h =
        (.ok ((replies.findSome? Reply.printed?).getD code), h') ∧
      h'.launches =
        (starts.take (replies.findIdx (·.printed?.isSome) + 1)).reverse ++ h.launches ∧
      ∀ h₂, h.AlikeButMuted h₂ → ∃ h₂', (format (fs.map ofFormatter) code (.good s)).on h₂ =
        (.ok ((replies.findSome? Reply.printed?).getD code), h₂') ∧ h₂'.launches = h'.launches := by
  obtain ⟨width, tabs, measured, tabbed⟩ := Settings.measured indented
  obtain ⟨h', formatted, launches⟩ :=
    format_on_ordinary measured tabbed limited code ordinary rfl rfl
  refine ⟨_, _, h', ?_, rfl, formatted, launches, fun h₂ alike => ?_⟩
  · rw [List.forall₂_map_right_iff, List.forall₂_same]
    intro f _
    exact ⟨_, Formatter.command_eq measured tabbed f, rfl⟩
  · obtain ⟨h₂', same, others⟩ :=
      format_on_ordinary measured tabbed limited code (ordinary.of_muted alike) rfl rfl
    have alikeReplies := Host.repliesTo_muted alike h.launches
      (fs.map (Formatter.start s width tabs code))
    rw [alike.launches] at same others
    refine ⟨h₂', ?_, ?_⟩
    · rw [same, Reply.findSome?_of_muted alikeReplies]
    · rw [others, launches, Reply.findIdx_of_muted alikeReplies]

/-- Programs of which the first one that is started is stopped at its time limit, and the second one
prints a text and a warning. -/
def unevenPrograms : Host where
  respond
    | [], _ => .stopped (.text "interface") .nothing
    | [_], _ => .exited 0 "interface A;\n" "warning"
    | _, _ => .exited 0 "interface B;\n" ""

/-- The theorem at work: the first program is stopped, the second one prints, and the other two are
not started. -/
theorem format_first_printed_second :
    ∃ starts h', unevenPrograms.Ordinary ∧ ({} : Settings).indentation.IsText ∧
      List.Forall₂ (fun f l => ∃ words, Formatter.command f (.good {}) = .ok words ∧
        l = { command := words, input := .text "interface A", limit := f.limit })
        (Formatter.usual ++ Formatter.usual) starts ∧
      (format ((Formatter.usual ++ Formatter.usual).map ofFormatter) "interface A"
        (.good {})).on unevenPrograms = (.ok "interface A;\n", h') ∧
      h'.launches = (starts.take 2).reverse := by
  have ordinary : unevenPrograms.Ordinary := by
    intro history l fault refused
    rcases history with _ | ⟨_, _ | _⟩ <;> cases refused
  have limited : ∀ f ∈ Formatter.usual ++ Formatter.usual, Succeeds f.limit.toText := by
    intro f member
    simp only [Formatter.usual, List.cons_append, List.nil_append, List.mem_cons,
      List.not_mem_nil, or_false] at member
    rcases member with rfl | rfl | rfl | rfl <;> exact ⟨_, rfl⟩
  obtain ⟨starts, replies, h', paired, given, formatted, launches, _⟩ :=
    format_first_printed (s := {}) ⟨"  ", rfl⟩ limited "interface A" ordinary
  have replied : ∃ rest, replies = .stopped (.text "interface") .nothing ::
      .exited 0 "interface A;\n" "warning" :: rest := by
    rcases paired with _ | ⟨_, _ | ⟨_, _⟩⟩
    exact ⟨_, given⟩
  obtain ⟨rest, rfl⟩ := replied
  exact ⟨starts, h', ordinary, ⟨"  ", rfl⟩, paired, formatted,
    launches.trans (List.append_nil _)⟩

end ChainMember

end TypeScriptGen
