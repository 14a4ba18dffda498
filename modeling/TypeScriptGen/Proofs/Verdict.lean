import TypeScriptGen.Compiler.Validator
import TypeScriptGen.Proofs.ConfigRoundTrip
import TypeScriptGen.Proofs.Probing

/-!
The verdict on code: what a validation has to report if programs answer by what they are given
alone. The hosts on which they do so are described together with what the locators of such a host
may have found out, and it is shown how one of these hosts can follow on another.
-/

set_option autoImplicit false
set_option relaxedAutoImplicit false

namespace TypeScriptGen

namespace Files

/-- The same directories, and files at the same places. -/
structure Alike (f f' : Files) : Prop where
  directories : f'.directories = f.directories
  present : ∀ place, (f'.content? place).isSome = (f.content? place).isSome

namespace Alike

variable {f f' f'' : Files}

theorem refl (f : Files) : Alike f f := ⟨rfl, fun _ => rfl⟩

theorem trans (first : Alike f f') (second : Alike f' f'') : Alike f f'' where
  directories := second.directories.trans first.directories
  present := fun place => (second.present place).trans (first.present place)

theorem put {place : List String} (present : (f.content? place).isSome = true)
    (content : FileContent) : Alike f (f.put place content) where
  directories := rfl
  present := by
    intro other
    by_cases same : other = place
    · rw [same, content?_put, present]
      rfl
    · rw [content?_put_other same]

theorem hasDirectory (alike : Alike f f') (place : List String) :
    f'.hasDirectory place = f.hasDirectory place := by
  unfold Files.hasDirectory
  rw [alike.directories]

private theorem follow (alike : Alike f f') (path : String) (start parts : List String) :
    f'.follow path start parts = f.follow path start parts := by
  induction parts generalizing start with
  | nil => rfl
  | cons part rest ih =>
    unfold Files.follow
    rw [alike.hasDirectory, alike.present, ih]

theorem lookUp (alike : Alike f f') (path : String) : f'.lookUp path = f.lookUp path := by
  have located : f'.locate path = f.locate path := alike.follow path _ _
  unfold Files.lookUp
  rw [located]
  cases f.locate path with
  | error e => rfl
  | ok place =>
    dsimp only
    rw [alike.hasDirectory, alike.present]

theorem exists? (alike : Alike f f') (path : String) : f'.exists? path = f.exists? path := by
  unfold Files.exists?
  rw [alike.lookUp]

end Alike

end Files

/-- External programs that answer a start by the command, the input and the files of the working
directory. -/
abbrev Tools := List String → Value → Option (List (String × String)) → Reply

namespace Tools

def reply (tools : Tools) (l : Launch) : Reply := tools l.command l.input l.folder

def outcome (tools : Tools) (l : Launch) : Except Fault ToolResult :=
  Tool.outcome l (.ofDecimal false 0 0) (tools.reply l)

/-- Whoever is asked to check a project does not look at the name of its directory. -/
def Overlook (tools : Tools) : Prop :=
  ∀ (command : List String) (name name' : String) (input : Value)
    (files : Option (List (String × String))),
    tools (command ++ Locator.checkFlags ++ [name ++ "/" ++ Validator.projectName]) input files =
      tools (command ++ Locator.checkFlags ++ [name' ++ "/" ++ Validator.projectName]) input files

end Tools

theorem Tool.outcome_elapsed (l : Launch) (elapsed elapsed' : Binary64) (reply : Reply) :
    outcome l elapsed' reply =
      (outcome l elapsed reply).map fun r => { r with elapsed := elapsed' } := by
  cases reply with
  | refused fault => rfl
  | exited code out err => rfl
  | stopped out err =>
    unfold outcome
    cases l.command with
    | nil => rfl
    | cons program rest => cases l.limit.toText <;> rfl

namespace Locator

/-- The first candidate that answers, or the bare compiler if none does. -/
def firstOf (tools : Tools) (limit : Value) : List (List String) → Except Fault (List String)
  | [] => .ok [compiler]
  | command :: rest => do
    let l : Launch := { command := command ++ [versionFlag], limit }
    if ← Tool.answerOf (tools.outcome l) then return command
    firstOf tools limit rest

/-- What a search that starts from nothing finds. -/
def commandUnder (tools : Tools) (files : Files) (path limit : Value) :
    Except Fault (List String) :=
  if path.holds then commandOfPath files path else firstOf tools limit candidates

/-- The command that checks a project, found by such a search. -/
def checkCommandUnder (tools : Tools) (files : Files) (path limit : Value) (project : String) :
    Except Fault (List String) := do
  return (← commandUnder tools files path limit) ++ checkFlags ++ [project]

theorem commandOfPath_congr {f f' : Files} {v : Value}
    (same : ∀ path, v = .text path → f'.exists? path = f.exists? path) :
    commandOfPath f' v = commandOfPath f v := by
  cases v with
  | text path => rw [commandOfPath, commandOfPath, same path rfl]
  | _ => rfl

end Locator

namespace Validator

def findings (limit : Value) (r : ToolResult) : Except Fault (List Diagnostic) :=
  if r.timedOut then do return stoppedDiagnostics (← limit.format "g") r.output
  else if r.exitCode == some 0 then .ok []
  else do return failureDiagnostics (← r.exitValue.toText) r.output

def complaintOf : Fault → List Diagnostic
  | .system e => [⟨.error, "Failed to run tsc: " ++ e.message⟩]
  | fault => [⟨.error, "Validation failed: " ++ fault.message⟩]

def examined (tools : Tools) (files : Files) (path probeLimit limit : Value) (folderName : String)
    (source : Value) : Except Fault (List Diagnostic) := do
  let code ← codeOf source
  let command ← Locator.checkCommandUnder tools files path probeLimit
    (folderName ++ "/" ++ projectName)
  findings limit (← tools.outcome { command, limit, folder := some (folder code) })

/-- What a validation has to report: a function of the code and the name of its directory for given
tools, given files, the path of the compiler and the time limits. -/
def verdict (tools : Tools) (files : Files) (path probeLimit limit : Value) (folderName : String)
    (source : Value) : List Diagnostic :=
  match examined tools files path probeLimit limit folderName source with
  | .ok ds => ds
  | .error fault => complaintOf fault

private theorem findings_reworded (tools : Tools) (limit : Value) {l l' : Launch}
    (words : l.command.isEmpty = l'.command.isEmpty) (same : l.limit = l'.limit)
    (answer : tools.reply l = tools.reply l') :
    (tools.outcome l >>= findings limit) = (tools.outcome l' >>= findings limit) := by
  unfold Tools.outcome Tool.outcome
  rw [answer, words, same]
  cases tools.reply l' with
  | refused fault => rfl
  | exited code out err => rfl
  | stopped out err =>
    dsimp only
    split
    · rfl
    · cases l'.limit.toText <;> rfl

theorem verdict_overlooked {tools : Tools} (overlook : tools.Overlook) (files : Files)
    (path probeLimit limit : Value) (name name' : String) (source : Value) :
    verdict tools files path probeLimit limit name source =
      verdict tools files path probeLimit limit name' source := by
  have same : examined tools files path probeLimit limit name source =
      examined tools files path probeLimit limit name' source := by
    unfold examined Locator.checkCommandUnder
    cases codeOf source with
    | error fault => rfl
    | ok code =>
      cases Locator.commandUnder tools files path probeLimit with
      | error fault => rfl
      | ok command =>
        refine findings_reworded tools limit ?_ rfl (overlook command name name' _ _)
        cases command <;> rfl
  unfold verdict
  rw [same]

theorem diagnosticsOf_on (limit : Value) (r : ToolResult) (h : Host) :
    ∃ h', (diagnosticsOf limit r).on h = (findings limit r, h') ∧ h.Recorded h' := by
  unfold diagnosticsOf findings
  by_cases stopped : r.timedOut = true
  · rw [if_pos stopped, if_pos stopped]
    cases limit.format "g" <;> exact ⟨h, rfl, .same⟩
  rw [if_neg stopped, if_neg stopped]
  by_cases zero : (r.exitCode == some 0) = true
  · rw [if_pos zero, if_pos zero]
    exact ⟨h, rfl, .same⟩
  rw [if_neg zero, if_neg zero]
  cases r.exitValue.toText with
  | error fault => exact ⟨h, rfl, .same⟩
  | ok code => exact ⟨_, rfl, .logged ..⟩

theorem complaint_on (fault : Fault) (h : Host) :
    ∃ h', (complaint fault).on h = (.ok (complaintOf fault), h') ∧ h.Recorded h' := by
  cases fault <;> exact ⟨_, rfl, .logged ..⟩

end Validator

namespace Host

/-- The locator with the number looks at the path, with the time limit for probes. -/
def Placed (h : Host) (id : LocatorId) (path limit : Value) : Prop :=
  ∃ l, h.locators[id.index]? = some l ∧ l.path = path ∧ l.probeLimit = limit

/-- At the path there is a file exactly if there is one among the files. -/
def Sees (files : Files) (h : Host) (path : Value) : Prop :=
  ∀ s, path = .text s → h.files.exists? s = files.exists? s

/-- Programs answer as the tools do, and every log file has been opened. -/
structure Under (tools : Tools) (h : Host) : Prop where
  respond : ∀ history l, h.respond history l = tools.reply l
  logs : ∀ threshold place, .file threshold place ∈ h.logging.handlers →
    (h.files.content? place).isSome = true

/-- What locators know is what a search that starts from nothing would find, and those that are
shared look at the path that they were requested for. -/
structure Fits (tools : Tools) (files : Files) (h : Host) : Prop where
  under : h.Under tools
  sees : ∀ l ∈ h.locators, h.Sees files l.path
  commands : ∀ l ∈ h.locators, ∀ command, l.command = some command →
    Locator.commandUnder tools files l.path l.probeLimit = .ok command
  shared : ∀ entry ∈ h.shared,
    h.Placed entry.2 (entry.1.getLast?.getD .none) defaultProbeLimit

/-- Nothing has been asked of a locator yet, since there is none. -/
structure Fresh (tools : Tools) (h : Host) : Prop where
  under : h.Under tools
  locators : h.locators = []
  shared : h.shared = []

/-- The second host can follow on the first one: what locators know on it is right, they look where
they did, and the shared ones are still shared. -/
structure Precedes (tools : Tools) (files : Files) (h h' : Host) : Prop where
  fits : h'.Fits tools files
  placed : ∀ id path limit, h.Placed id path limit → h'.Placed id path limit
  shared : h.shared <+: h'.shared

variable {tools : Tools} {files : Files} {h h' h₁ h₂ h₃ : Host}

theorem Fresh.fits (fresh : h.Fresh tools) : h.Fits tools files where
  under := fresh.under
  sees := by simp [fresh.locators]
  commands := by simp [fresh.locators]
  shared := by simp [fresh.shared]

namespace Precedes

theorem refl (fits : h.Fits tools files) : Precedes tools files h h :=
  ⟨fits, fun _ _ _ placed => placed, List.prefix_refl _⟩

theorem trans (first : Precedes tools files h₁ h₂) (second : Precedes tools files h₂ h₃) :
    Precedes tools files h₁ h₃ where
  fits := second.fits
  placed := fun id path limit placed =>
    second.placed id path limit (first.placed id path limit placed)
  shared := first.shared.trans second.shared

theorem aside (fits : h.Fits tools files) (under : h'.Under tools)
    (sees : ∀ l ∈ h.locators, h'.Sees files l.path) (locators : h'.locators = h.locators)
    (shared : h'.shared = h.shared) : Precedes tools files h h' := by
  have placed : ∀ id path limit, h.Placed id path limit → h'.Placed id path limit := by
    intro id path limit placed
    unfold Placed
    rw [locators]
    exact placed
  refine ⟨⟨under, ?_, ?_, ?_⟩, placed, ?_⟩
  · rw [locators]
    exact sees
  · rw [locators]
    exact fits.commands
  · rw [shared]
    exact fun entry member => placed _ _ _ (fits.shared entry member)
  · rw [shared]

end Precedes

private theorem handled_alike {handlers : List LogHandler} (severity : LogSeverity)
    (line : String) (f : Files)
    (opened : ∀ threshold place, .file threshold place ∈ handlers →
      (f.content? place).isSome = true) :
    f.Alike (handlers.foldl (handle severity line) f) := by
  induction handlers generalizing f with
  | nil => exact .refl f
  | cons handler rest ih =>
    have one : f.Alike (handle severity line f handler) := by
      cases handler with
      | console threshold => exact .refl f
      | file threshold place =>
        unfold handle
        dsimp only
        split
        · exact .put (opened threshold place List.mem_cons_self) _
        · exact .refl f
    refine one.trans (ih _ fun threshold place member => ?_)
    rw [one.present]
    exact opened threshold place (List.mem_cons_of_mem handler member)

theorem alike_logged (under : h.Under tools) (severity : LogSeverity)
    (logger message : String) : h.files.Alike (h.logged severity logger message).files := by
  unfold logged
  split
  · exact handled_alike severity _ h.files under.logs
  · exact .refl _

namespace Precedes

theorem logged (fits : h.Fits tools files) (severity : LogSeverity) (logger message : String) :
    Precedes tools files h (h.logged severity logger message) := by
  have alike := alike_logged fits.under severity logger message
  refine aside fits ⟨?_, ?_⟩ ?_ (locators_logged ..) (shared_logged ..)
  · rw [respond_logged]
    exact fits.under.respond
  · rw [logging_logged]
    exact fun _ place member => (alike.present place).trans (fits.under.logs _ _ member)
  · exact fun l member path named => (alike.exists? path).trans (fits.sees l member path named)

theorem recorded (fits : h.Fits tools files) (recorded : h.Recorded h') :
    Precedes tools files h h' := by
  cases recorded with
  | same => exact .refl fits
  | logged => exact .logged fits ..

theorem madeFolder (fits : h.Fits tools files) :
    Precedes tools files h (Run.makeFolder.on h).2 :=
  aside fits ⟨fits.under.respond, fits.under.logs⟩ fits.sees rfl rfl

theorem launched (fits : h.Fits tools files) (l : Launch) :
    Precedes tools files h ((Run.launch l).on h).2 :=
  aside fits ⟨fits.under.respond, fits.under.logs⟩ fits.sees rfl rfl

theorem added (fits : h.Fits tools files) {path : Value} (sees : h.Sees files path)
    (limit : Value) :
    Precedes tools files h
      { h with locators := h.locators ++ [{ path, probeLimit := limit }] } := by
  have placed : ∀ id p m, h.Placed id p m →
      Placed { h with locators := h.locators ++ [{ path, probeLimit := limit }] } id p m := by
    rintro id p m ⟨l, there, same⟩
    obtain ⟨bound, _⟩ := List.getElem?_eq_some_iff.mp there
    exact ⟨l, (List.getElem?_append_left bound).trans there, same⟩
  refine ⟨⟨⟨fits.under.respond, fits.under.logs⟩, ?_, ?_, ?_⟩, placed, List.prefix_refl _⟩
  · intro l member
    rcases List.mem_append.mp member with member | member
    · exact fits.sees l member
    · rw [List.mem_singleton.mp member]
      exact sees
  · intro l member command known
    rcases List.mem_append.mp member with member | member
    · exact fits.commands l member command known
    · rw [List.mem_singleton.mp member] at known
      cases known
  · exact fun entry member => placed _ _ _ (fits.shared entry member)

theorem registered (fits : h.Fits tools files) {request : List Value} {id : LocatorId}
    (placed : h.Placed id (request.getLast?.getD .none) defaultProbeLimit) :
    Precedes tools files h { h with shared := h.shared ++ [(request, id)] } := by
  refine ⟨⟨⟨fits.under.respond, fits.under.logs⟩, fits.sees, fits.commands, ?_⟩,
    fun _ _ _ placed => placed, List.prefix_append _ _⟩
  intro entry member
  rcases List.mem_append.mp member with member | member
  · exact fits.shared entry member
  · rw [List.mem_singleton.mp member]
    exact placed

theorem learned (fits : h.Fits tools files) {id : LocatorId} {l l' : Locator}
    (there : h.locators[id.index]? = some l) (path : l'.path = l.path)
    (limit : l'.probeLimit = l.probeLimit)
    (right : ∀ command, l'.command = some command →
      Locator.commandUnder tools files l.path l.probeLimit = .ok command) :
    Precedes tools files h { h with locators := h.locators.set id.index l' } := by
  have placed : ∀ other p m, h.Placed other p m →
      Placed { h with locators := h.locators.set id.index l' } other p m := by
    rintro other p m ⟨k, thereToo, rfl, rfl⟩
    by_cases same : id.index = other.index
    · rw [← same, there] at thereToo
      cases thereToo
      obtain ⟨bound, _⟩ := List.getElem?_eq_some_iff.mp there
      refine ⟨l', ?_, path, limit⟩
      change (h.locators.set id.index l')[other.index]? = some l'
      rw [← same, List.getElem?_set_self bound]
    · refine ⟨k, ?_, rfl, rfl⟩
      change (h.locators.set id.index l')[other.index]? = some k
      rw [List.getElem?_set_ne same, thereToo]
  refine ⟨⟨⟨fits.under.respond, fits.under.logs⟩, ?_, ?_, ?_⟩, placed, List.prefix_refl _⟩
  · intro k member
    rcases List.mem_or_eq_of_mem_set member with member | rfl
    · exact fits.sees k member
    · rw [path]
      exact fits.sees l (List.mem_of_getElem? there)
  · intro k member command known
    rcases List.mem_or_eq_of_mem_set member with member | rfl
    · exact fits.commands k member command known
    · rw [path, limit]
      exact right command known
  · exact fun entry member => placed _ _ _ (fits.shared entry member)

end Precedes

end Host

end TypeScriptGen
