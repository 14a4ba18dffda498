import TypeScriptGen.Proofs.LocatorRuns
import TypeScriptGen.Proofs.Pipeline

/-!
The formatters that are used where none is stated. They are started one after the other until one
prints a text. Main statement: the emission hands on the first text that is printed, or else the
rendered code, unless a start before that is refused by anything but the system; then all code is
lost. Where programs end, are stopped or are refused by the system, code is never lost.
-/

set_option autoImplicit false
set_option relaxedAutoImplicit false

namespace TypeScriptGen

open Step

namespace Reply

/-- What a formatter makes of the reply to its start: the text that was printed, nothing if the
program is of no use, or a fault. -/
def formatted : Reply → Except Fault (Option String)
  | .refused (.system _) => .ok none
  | .refused fault => .error fault
  | .stopped _ _ => .ok none
  | .exited code out _ => .ok (if code == 0 && !Text.isBlank out then some out else none)

/-- The program is of no use, so that the next one is tried. -/
def isUseless (r : Reply) : Bool :=
  match r.formatted with
  | .ok none => true
  | _ => false

/-- What formatters make of the replies to their starts, in order: the first text counts. -/
def firstFormatted : List Reply → Except Fault (Option String)
  | [] => .ok none
  | r :: rest => do
    match ← r.formatted with
    | some text => return some text
    | none => firstFormatted rest

/-- One of the replies satisfies `P`, and those before it are of no use. -/
def First (P : Reply → Prop) (replies : List Reply) : Prop :=
  ∃ front r back, replies = front ++ r :: back ∧ P r ∧ ∀ q ∈ front, q.formatted = .ok none

/-- A start is refused by anything but the system before a text is printed. -/
def Breaks (replies : List Reply) (fault : Fault) : Prop :=
  First (fun r => r = .refused fault ∧ ∀ e, fault ≠ .system e) replies

/-- The text is the first one that a program prints which succeeds. -/
def Prints (replies : List Reply) (text : String) : Prop :=
  First (fun r => ∃ err, r = .exited 0 text err ∧ Text.isBlank text = false) replies

theorem formatted_eq_error {r : Reply} {fault : Fault} :
    r.formatted = .error fault ↔ r = .refused fault ∧ ∀ e, fault ≠ .system e := by
  cases r with
  | refused other =>
    cases other with
    | system e =>
      simp only [formatted, refused.injEq]
      constructor
      · intro wrong
        cases wrong
      · rintro ⟨rfl, unanswered⟩
        exact absurd rfl (unanswered e)
    | _ =>
      simp only [formatted, refused.injEq, Except.error.injEq]
      constructor
      · rintro rfl
        exact ⟨rfl, by simp⟩
      · exact And.left
  | stopped out err => simp [formatted]
  | exited code out err => simp [formatted]

theorem formatted_eq_some {r : Reply} {text : String} : r.formatted = .ok (some text) ↔
    ∃ err, r = .exited 0 text err ∧ Text.isBlank text = false := by
  cases r with
  | refused fault => cases fault <;> simp [formatted]
  | stopped out err => simp [formatted]
  | exited code out err =>
    simp only [formatted, Except.ok.injEq, exited.injEq]
    constructor
    · intro printed
      split at printed
      case isTrue done =>
        cases printed
        simp only [Bool.and_eq_true, beq_iff_eq, Bool.not_eq_true'] at done
        exact ⟨err, ⟨done.1, rfl, rfl⟩, done.2⟩
      case isFalse => cases printed
    · rintro ⟨_, ⟨rfl, rfl, rfl⟩, shown⟩
      simp [shown]

private theorem first_cons {P : Reply → Prop} {r : Reply} {rest : List Reply} :
    First P (r :: rest) ↔ P r ∨ r.formatted = .ok none ∧ First P rest := by
  constructor
  · rintro ⟨front, q, back, same, holds, before⟩
    cases front with
    | nil =>
      cases same
      exact .inl holds
    | cons first front =>
      cases same
      have useless := List.forall_mem_cons.mp before
      exact .inr ⟨useless.1, front, q, back, rfl, holds, useless.2⟩
  · rintro (holds | ⟨useless, front, q, back, rfl, holds, before⟩)
    · exact ⟨[], r, rest, rfl, holds, List.forall_mem_nil _⟩
    · exact ⟨r :: front, q, back, rfl, holds, List.forall_mem_cons.mpr ⟨useless, before⟩⟩

private theorem firstFormatted_eq {outcome : Except Fault (Option String)}
    (decisive : outcome ≠ .ok none) (replies : List Reply) :
    firstFormatted replies = outcome ↔ First (fun r => r.formatted = outcome) replies := by
  induction replies with
  | nil =>
    constructor
    · intro same
      exact absurd same.symm decisive
    · rintro ⟨front, _, _, same, _⟩
      cases front <;> cases same
  | cons r rest ih =>
    rw [first_cons, firstFormatted, ← ih]
    rcases first : r.formatted with fault | _ | text
    · exact ⟨.inl, fun either => either.elim id fun useless => by cases useless.1⟩
    · exact ⟨fun same => .inr ⟨rfl, same⟩,
        fun either => either.elim (fun same => absurd same.symm decisive) And.right⟩
    · exact ⟨.inl, fun either => either.elim id fun useless => by cases useless.1⟩

theorem firstFormatted_eq_error {replies : List Reply} {fault : Fault} :
    firstFormatted replies = .error fault ↔ Breaks replies fault := by
  have decisive : (.error fault : Except Fault (Option String)) ≠ .ok none := by simp
  rw [firstFormatted_eq decisive]
  simp only [Breaks, formatted_eq_error]

theorem firstFormatted_eq_some {replies : List Reply} {text : String} :
    firstFormatted replies = .ok (some text) ↔ Prints replies text := by
  have decisive : (.ok (some text) : Except Fault (Option String)) ≠ .ok none := by simp
  rw [firstFormatted_eq decisive]
  simp only [Prints, formatted_eq_some]

theorem firstFormatted_eq_none {replies : List Reply} :
    firstFormatted replies = .ok none ↔ ∀ r ∈ replies, r.formatted = .ok none := by
  induction replies with
  | nil => exact ⟨fun _ => List.forall_mem_nil _, fun _ => rfl⟩
  | cons r rest ih =>
    rw [List.forall_mem_cons, ← ih, firstFormatted]
    rcases r.formatted with fault | _ | text
    · exact ⟨fun wrong => (by cases wrong), fun both => (by cases both.1)⟩
    · exact ⟨fun same => ⟨rfl, same⟩, And.right⟩
    · exact ⟨fun wrong => (by cases wrong), fun both => (by cases both.1)⟩

end Reply

namespace Host

/-- The replies to starts that are made one after the other, given all starts before them, the
latest first. -/
def repliesTo (respond : List Launch → Launch → Reply) : List Launch → List Launch → List Reply
  | _, [] => []
  | before, l :: rest => respond before l :: repliesTo respond (l :: before) rest

theorem mem_repliesTo {respond : List Launch → Launch → Reply} {before ls : List Launch}
    {r : Reply} (member : r ∈ repliesTo respond before ls) :
    ∃ history l, r = respond history l := by
  induction ls generalizing before with
  | nil => cases member
  | cons l rest ih =>
    rcases List.mem_cons.mp member with rfl | later
    · exact ⟨before, l, rfl⟩
    · exact ih later

theorem Ordinary.not_breaks {h : Host} (ordinary : h.Ordinary) (before ls : List Launch)
    (fault : Fault) : ¬ Reply.Breaks (repliesTo h.respond before ls) fault := by
  rintro ⟨front, r, back, same, ⟨refused, unanswered⟩, _⟩
  have member : r ∈ repliesTo h.respond before ls := by
    rw [same]
    simp
  obtain ⟨history, l, reply⟩ := mem_repliesTo member
  obtain ⟨e, system⟩ := ordinary history l fault (reply.symm.trans refused)
  exact unanswered e system

end Host

namespace Formatter

def start (s : Settings) (width : Nat) (tabs : Bool) (code : String) (f : Formatter) : Launch where
  command := f.program.wordsFor s width tabs
  input := .text code
  limit := f.limit

private theorem fallBack_on (f : Formatter) (reason : String) (h : Host) :
    ∃ h', (f.fallBack reason).on h = (.ok none, h') ∧ h.Advances [] h' :=
  ⟨_, rfl, .logged ..⟩

private theorem judge_on (f : Formatter) (r : ToolResult) (h : Host) :
    ∃ h', (f.judge r).on h =
        (.ok (if r.succeeded && !Text.isBlank r.out then some r.out else none), h') ∧
      h.Advances [] h' := by
  unfold judge
  cases r.succeeded with
  | false =>
    have shown : ∃ shown, r.exitValue.toText = .ok shown := by
      unfold ToolResult.exitValue
      cases r.exitCode <;> exact ⟨_, rfl⟩
    obtain ⟨shown, same⟩ := shown
    rw [same]
    exact fallBack_on f _ h
  | true =>
    cases blank : Text.isBlank r.out with
    | true => exact fallBack_on f _ h
    | false => exact ⟨h, rfl, .refl h⟩

variable {s : Settings} {width : Nat} {tabs : Bool}

private theorem outcome_cases {f : Formatter} (limited : Succeeds f.limit.toText) (code : String)
    (elapsed : Binary64) (reply : Reply) :
    (∃ r, Tool.outcome (f.start s width tabs code) elapsed reply = .ok r ∧
      reply.formatted = .ok (if r.succeeded && !Text.isBlank r.out then some r.out else none)) ∨
    ∃ fault, Tool.outcome (f.start s width tabs code) elapsed reply = .error fault ∧
      reply = .refused fault := by
  cases reply with
  | refused fault => exact .inr ⟨fault, rfl, rfl⟩
  | exited exit out err =>
    refine .inl ⟨_, rfl, ?_⟩
    simp [Reply.formatted, ToolResult.succeeded]
  | stopped out err =>
    obtain ⟨limit, shown⟩ := limited
    have filled : (f.start s width tabs code).command.isEmpty = false := by
      obtain ⟨program, limit⟩ := f
      cases program <;> rfl
    have readable : (f.start s width tabs code).limit.toText = .ok limit := shown
    have stopped : ∃ r, r.timedOut = true ∧
        Tool.outcome (f.start s width tabs code) elapsed (.stopped out err) = .ok r := by
      rw [Tool.outcome, filled, if_neg (by decide), readable]
      exact ⟨_, rfl, rfl⟩
    obtain ⟨r, late, made⟩ := stopped
    refine .inl ⟨r, made, ?_⟩
    rw [ToolResult.succeeded, late]
    rfl

theorem command_eq (measured : s.indentWidth = .ok width) (tabbed : s.usesTabs = .ok tabs)
    (f : Formatter) : f.command (.good s) = .ok (f.program.wordsFor s width tabs) :=
  bind_eq_ok.mpr ⟨s, rfl, bind_eq_ok.mpr ⟨width, measured, bind_eq_ok.mpr ⟨tabs, tabbed, rfl⟩⟩⟩

theorem tryFormat_on (measured : s.indentWidth = .ok width) (tabbed : s.usesTabs = .ok tabs)
    {f : Formatter} (limited : Succeeds f.limit.toText) (code : String) (h : Host) :
    ∃ h', (f.tryFormat (.text code) (.good s)).on h =
        ((h.respond h.launches (f.start s width tabs code)).formatted, h') ∧
      h.Advances [f.start s width tabs code] h' := by
  obtain ⟨h₁, ran, started⟩ := Tool.run_on (f.start s width tabs code) h
  unfold tryFormat
  rw [command_eq measured tabbed, Run.on_bind_ok (Run.on_lift_ok ..)]
  change ∃ h', Run.on (tryCatch (Tool.run (f.start s width tabs code) >>= _) _ >>= _) h = _ ∧ _
  rw [Run.on_bind, Run.on_tryCatch, Run.on_bind, ran]
  have outcomes := @outcome_cases s width tabs f limited code h.runTime
    (h.respond h.launches (f.start s width tabs code))
  rcases outcomes with ⟨r, made, same⟩ | ⟨fault, made, same⟩
  · rw [made, same]
    obtain ⟨h₂, judged, quiet⟩ := f.judge_on r h₁
    exact ⟨h₂, judged, started.trans quiet⟩
  · rw [made, same]
    -- Only a refusal of the system is handled; all others go on.
    cases fault with
    | system e =>
      obtain ⟨h₂, told, quiet⟩ := f.fallBack_on e.message h₁
      dsimp only
      rw [Run.on_bind_ok told]
      exact ⟨h₂, rfl, started.trans quiet⟩
    | _ => exact ⟨h₁, rfl, started⟩

def usual : List Formatter := [⟨.dprint, defaultLimit⟩, ⟨.prettier, defaultLimit⟩]

def usualReplies (s : Settings) (width : Nat) (tabs : Bool) (code : String) (h : Host) :
    List Reply :=
  Host.repliesTo h.respond h.launches (usual.map (start s width tabs code))

end Formatter

namespace ChainMember

variable {s : Settings} {width : Nat} {tabs : Bool}

/-- A chain of formatters makes of the code what the replies to their starts say. They are started
in order, up to the first one whose reply is of use or is a fault. -/
theorem tryFormat_on (measured : s.indentWidth = .ok width) (tabbed : s.usesTabs = .ok tabs)
    {fs : List Formatter} (limited : ∀ f ∈ fs, Succeeds f.limit.toText) (code : String) (h : Host)
    {starts : List Launch} (made : starts = fs.map (Formatter.start s width tabs code))
    {replies : List Reply} (given : replies = Host.repliesTo h.respond h.launches starts) :
    ∃ h', (tryFormat (fs.map ofFormatter) (.text code) (.good s)).on h =
        (Reply.firstFormatted replies, h') ∧
      h.Advances (starts.take (replies.findIdx (!·.isUseless) + 1)).reverse h' := by
  subst made given
  induction fs generalizing h with
  | nil => exact ⟨_, rfl, .logged ..⟩
  | cons f rest ih =>
    obtain ⟨first, others⟩ := List.forall_mem_cons.mp limited
    obtain ⟨h₁, tried, advances⟩ := Formatter.tryFormat_on measured tabbed first code h
    have known : (Run.lift ((Supplied.good f).need ["try_format"])).on h = (.ok f, h) := rfl
    have split : tryFormat ((f :: rest).map ofFormatter) (.text code) (.good s) =
        Run.lift ((Supplied.good f).need ["try_format"]) >>= fun f =>
          f.tryFormat (.text code) (.good s) >>= fun
            | some formatted => do
              Run.log .debug Formatter.loggerName ("Formatted output with " ++ f.program.name)
              return some formatted
            | none => tryFormat (rest.map ofFormatter) (.text code) (.good s) := rfl
    rw [split, Run.on_bind_ok known, Run.on_bind, tried, List.map_cons, Host.repliesTo,
      Reply.firstFormatted, List.findIdx_cons, Reply.isUseless]
    rcases (h.respond h.launches (f.start s width tabs code)).formatted with fault | _ | text
    · exact ⟨h₁, rfl, advances⟩
    · obtain ⟨h₂, ended, later⟩ := ih others h₁
      rw [advances.respond, advances.launches] at ended later
      refine ⟨h₂, ended, ?_⟩
      change h.Advances (f.start s width tabs code :: List.take _ _).reverse h₂
      rw [List.reverse_cons]
      exact advances.trans later
    · exact ⟨_, rfl, advances.trans (.logged ..)⟩

theorem format_on {members : List ChainMember} {code : String} {settings : Supplied Settings}
    {h h' : Host} {outcome : Except Fault (Option String)}
    (tried : (tryFormat members (.text code) settings).on h = (outcome, h')) :
    (format members code settings).on h = (outcome.map (·.getD code), h') := by
  unfold format
  rw [Run.on_bind, tried]
  cases outcome <;> rfl

theorem format_defaults_on (measured : s.indentWidth = .ok width) (tabbed : s.usesTabs = .ok tabs)
    (code : String) (h : Host) : ((format defaults code (.good s)).on h).1 =
      (Reply.firstFormatted (Formatter.usualReplies s width tabs code h)).map (·.getD code) := by
  have limited : ∀ f ∈ Formatter.usual, Succeeds f.limit.toText := by
    intro f member
    simp only [Formatter.usual, List.mem_cons, List.not_mem_nil, or_false] at member
    rcases member with rfl | rfl <;> exact ⟨_, rfl⟩
  obtain ⟨h', tried, _⟩ := tryFormat_on measured tabbed limited code h rfl rfl
  have formatted : (format defaults code (.good s)).on h = _ := format_on tried
  rw [formatted, Formatter.usualReplies]

theorem format_defaults_unmeasured {fault : Fault} (unmeasured : s.indentWidth = .error fault)
    (code : String) (h : Host) : (format defaults code (.good s)).on h = (.error fault, h) := by
  have command : Formatter.command ⟨.dprint, Formatter.defaultLimit⟩ (.good s) = .error fault := by
    change (s.indentWidth >>= _) = _
    rw [unmeasured]
    rfl
  have tried : (Formatter.tryFormat ⟨.dprint, Formatter.defaultLimit⟩ (.text code) (.good s)).on h =
      (.error fault, h) := by
    unfold Formatter.tryFormat
    rw [command]
    rfl
  have known : (Run.lift ((Supplied.good (⟨.dprint, Formatter.defaultLimit⟩ : Formatter)).need
      ["try_format"])).on h = (.ok ⟨.dprint, Formatter.defaultLimit⟩, h) := rfl
  have chain : (tryFormat defaults (.text code) (.good s)).on h = (.error fault, h) :=
    (Run.on_bind_ok known _).trans (Run.on_bind_error tried _)
  exact Run.on_bind_error chain _

end ChainMember

namespace Emission

private theorem begun_quiet (d : Declaration) (h : Host) :
    (begun d h).respond = h.respond ∧ (begun d h).launches = h.launches := by
  have starts : Run.Starts (fun _ => False) (logger.emitStart d.name (.text d.kind.keyword)) :=
    .bind (.lift _) fun _ => .bind (.lift _) fun _ => .log _ _ _
  exact (starts h).unchanged

private theorem emit_of_format {d : Declaration} {o : EmitOptions} {name code : String}
    (readable : d.name.toText = .ok name) (named : d.name.isBlank = .ok false)
    (rendered : d.file o.settings = .ok code) (asked : o.settings.formatOutput.holds = true)
    (usual : o.formatter = none) (unchecked : o.settings.level = .unchecked) (h : Host) :
    ∃ r h', (emit (.good d) (.good o)).on h = (.ok r, h') ∧
      match ((ChainMember.format ChainMember.defaults code
        (.good o.settings)).on (begun d h)).1 with
      | .ok text => r = { code := .text text, diagnostics := [] }
      | .error _ => ∃ words, r = { code := .none, diagnostics := [⟨.error, .text words⟩] } := by
  have formatted : (course d o h).formatted = some
      ((ChainMember.format ChainMember.defaults code (.good o.settings)).on (begun d h)).1 := by
    have input : rendered? d o.settings = some code := by
      unfold rendered?
      rw [named, rendered]
      rfl
    have chain : formatting o code =
        ChainMember.format ChainMember.defaults code (.good o.settings) := by
      unfold formatting formatterOf
      rw [usual]
      rfl
    simp [course, asked, input, Run.stage, chain]
  obtain ⟨r, h', emitted, _, ⟨passed, text, handed, rfl⟩ | ⟨fails, words, rfl⟩⟩ :=
    emit_cases readable (reports_unchecked unchecked) h
  · have same := (text_eq_some.mp handed).2
    rw [asked, if_pos rfl, formatted] at same
    refine ⟨_, h', emitted, ?_⟩
    rw [Option.some.inj same]
    simp [Course.findings, course, unchecked, Run.stage]
  · refine ⟨_, h', emitted, ?_⟩
    rcases (fails_unchecked unchecked d h).mp fails with
      blank | ⟨fault, wrong⟩ | ⟨fault, wrong⟩
    · rw [named] at blank
      cases blank
    · rw [rendered] at wrong
      cases wrong
    · rw [formatted] at wrong
      rw [Option.some.inj wrong]
      exact ⟨words, rfl⟩

/-- Main theorem. Let a declaration have a rendered code that is to be formatted by the usual
formatters and not to be checked. If the indentation has a width, then the formatters come to a text
unless they break, which means that a start is refused by anything but the system before a text is
printed. The emission gives the first text that is printed, or the rendered code if none is, and
without code only if the formatters break. On a host where only the system refuses starts they never
do. -/
theorem emit_formatted {d : Declaration} {o : EmitOptions} {name code : String}
    (readable : d.name.toText = .ok name) (named : d.name.isBlank = .ok false)
    (rendered : d.file o.settings = .ok code) (asked : o.settings.formatOutput.holds = true)
    (usual : o.formatter = none) (unchecked : o.settings.level = .unchecked) (h : Host) :
    ∃ r h', (emit (.good d) (.good o)).on h = (.ok r, h') ∧
      (∀ fault, o.settings.indentWidth = .error fault → r.code = .none) ∧
      ∀ width tabs replies, o.settings.indentWidth = .ok width → o.settings.usesTabs = .ok tabs →
        replies = Formatter.usualReplies o.settings width tabs code h →
        ((∃ text, ((ChainMember.format ChainMember.defaults code (.good o.settings)).on h).1 =
          .ok text) ↔ ¬ ∃ fault, Reply.Breaks replies fault) ∧
        (r.code = .none ↔ ∃ fault, Reply.Breaks replies fault) ∧
        (∀ text, Reply.Prints replies text → r = { code := .text text, diagnostics := [] }) ∧
        ((∀ q ∈ replies, q.formatted = .ok none) →
          r = { code := .text code, diagnostics := [] }) ∧
        (h.Ordinary → r = { code := .text code, diagnostics := [] } ∨
          ∃ text, Reply.Prints replies text ∧ r = { code := .text text, diagnostics := [] }) := by
  obtain ⟨r, h', emitted, told⟩ := emit_of_format readable named rendered asked usual unchecked h
  refine ⟨r, h', emitted, fun fault unmeasured => ?_,
    fun width tabs replies measured tabbed same => ?_⟩
  · rw [ChainMember.format_defaults_unmeasured unmeasured] at told
    obtain ⟨words, rfl⟩ := told
    rfl
  · have begun : Formatter.usualReplies o.settings width tabs code (begun d h) = replies := by
      rw [same, Formatter.usualReplies, (begun_quiet d h).1, (begun_quiet d h).2]
      rfl
    have chain := ChainMember.format_defaults_on measured tabbed code h
    rw [ChainMember.format_defaults_on measured tabbed, begun] at told
    rw [← same] at chain
    rw [chain]
    have unbroken : h.Ordinary → ¬ ∃ fault, Reply.Breaks replies fault := by
      rintro ordinary ⟨fault, breaks⟩
      rw [same] at breaks
      exact ordinary.not_breaks _ _ fault breaks
    simp only [← Reply.firstFormatted_eq_error, ← Reply.firstFormatted_eq_some,
      ← Reply.firstFormatted_eq_none] at unbroken ⊢
    rcases first : Reply.firstFormatted replies with fault | _ | text
    · rw [first] at told unbroken
      obtain ⟨words, rfl⟩ := told
      simpa [Except.map] using unbroken
    · rw [first] at told
      change r = { code := .text code, diagnostics := [] } at told
      simp [told, Except.map]
    · rw [first] at told
      change r = { code := .text text, diagnostics := [] } at told
      simp [told, Except.map]

/-- A host without `dprint`, on which all other programs get one reply. -/
def withoutDprint (reply : Reply) : Host where
  respond _ l :=
    if l.command.head? = some "dprint" then .refused (.system ⟨some 2, "No such file", none⟩)
    else reply

/-- Settings that ask for formatted code without a header. -/
def formattedOnly : EmitOptions :=
  { settings := { header := .none, formatOutput := .bool true } }

/-- The theorem at work: the second formatter prints the first text. -/
theorem emit_formatted_second :
    ∃ r h', (emit (.good (.ofKind .interfaceDecl "Point")) (.good formattedOnly)).on
        (withoutDprint (.exited 0 "interface Point \x7b\x7d\n" "")) = (.ok r, h') ∧
      (withoutDprint (.exited 0 "interface Point \x7b\x7d\n" "")).Ordinary ∧
      r = { code := "interface Point \x7b\x7d\n", diagnostics := [] } := by
  have ordinary : (withoutDprint (.exited 0 "interface Point \x7b\x7d\n" "")).Ordinary := by
    intro history l fault refused
    change (if _ then _ else _) = _ at refused
    split at refused
    · cases refused
      exact ⟨_, rfl⟩
    · cases refused
  obtain ⟨r, h', emitted, _, told⟩ := emit_formatted
    (d := .ofKind .interfaceDecl "Point") (o := formattedOnly) rfl rfl rfl rfl rfl rfl
    (withoutDprint (.exited 0 "interface Point \x7b\x7d\n" ""))
  obtain ⟨_, _, printed, _⟩ := told _ _ _ rfl rfl rfl
  refine ⟨r, h', emitted, ordinary, printed _ ?_⟩
  exact ⟨[.refused (.system ⟨some 2, "No such file", none⟩)], _, [], rfl, ⟨"", rfl, by decide⟩,
    by simp [Reply.formatted]⟩

/-- Code is lost where a program can neither be started nor is refused by the system. -/
theorem emit_formatted_lost :
    Declaration.file formattedOnly.settings (.ofKind .interfaceDecl "Point") =
      .ok "interface Point \x7b\n\x7d\n" ∧
    ∃ h', (emit (.good (.ofKind .interfaceDecl "Point")) (.good formattedOnly)).on
        (withoutDprint (.refused (.raised "can't start new thread"))) =
      (.ok { code := .none, diagnostics := [⟨.error, "can't start new thread"⟩] }, h') :=
  ⟨rfl, _, rfl⟩

end Emission

end TypeScriptGen
