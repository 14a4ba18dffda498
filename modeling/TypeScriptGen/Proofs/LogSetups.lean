import TypeScriptGen.Proofs.ConfigLoading
import TypeScriptGen.Proofs.ConfigSaving

/-!
Set-ups of logging that follow on one another. A set-up clears the handlers of the logger, hands its
records to the console and then to a log file, if one is asked for, and keeps them from the
outermost logger. It stops before all that at a level that is none, and halfway at a file that
cannot be opened. Main statement: whatever stopped halfway, the handlers are in order; and a call
that returns leaves the set-up that its arguments, its configuration and the environment ask for.
-/

set_option autoImplicit false
set_option relaxedAutoImplicit false

namespace TypeScriptGen

@[simp] theorem Run.on_fromEnvironment (name : String) (h : Host) :
    (Run.fromEnvironment name).on h = (.ok (h.setting? name), h) := rfl

namespace Files

variable {f f' : Files} {path : String} {place : List String}

theorem follow_eq_ok {parts start : List String} (leads : f.follow path start parts = .ok place) :
    place = parts.foldl Path.walk start := by
  induction parts generalizing start with
  | nil =>
    cases leads
    rfl
  | cons part rest ih =>
    unfold follow at leads
    split at leads
    case isTrue => cases leads
    case isFalse =>
      split at leads
      case isTrue => cases leads
      case isFalse => exact ih leads

theorem place_of_writable (opened : f.openForWriting path = .ok place) :
    place = Path.place path :=
  follow_eq_ok (openForWriting_eq_ok opened).1

theorem openForWriting_of_directories (same : f'.directories = f.directories)
    (opened : f.openForWriting path = .ok place) : f'.openForWriting path = .ok place := by
  obtain ⟨leads, directory⟩ := openForWriting_eq_ok opened
  have found : f'.locate path = .ok place := follow_of_directories same leads
  have file : f'.hasDirectory place = false :=
    (hasDirectory_of_directories same place).trans directory
  unfold openForWriting at opened ⊢
  split at opened
  case isTrue => cases opened
  case isFalse named =>
    rw [if_neg named, found]
    dsimp only
    rw [file, if_neg (by decide)]

end Files

/-- The level and the log file that a set-up is asked for. -/
structure LogRequest where
  level : Value
  file : Value

namespace LogRequest

/-- The threshold that is asked for, if the level is one. Without a level the environment counts. -/
def threshold (r : LogRequest) (stated : Option String) : Except Fault Nat :=
  (if r.level.isNone then .text (stated.getD "WARNING") else r.level).asText "upper" >>=
    LogSetup.thresholdOf

def fileHandlers (r : LogRequest) (threshold : Nat) : List LogHandler :=
  match r.file with
  | .text path =>
    if path.isEmpty then [] else [.file threshold (Path.place (Path.direct path))]
  | _ => []

theorem fileHandlers_of_not_holds {r : LogRequest} (absent : r.file.holds = false)
    (threshold : Nat) : r.fileHandlers threshold = [] := by
  unfold fileHandlers
  split
  case h_1 path named =>
    rw [named] at absent
    have empty : path.isEmpty = true := by simpa [Value.holds] using absent
    rw [if_pos empty]
  case h_2 => rfl

theorem fileHandlers_of_holds {r : LogRequest} (holds : r.file.holds = true) {path : String}
    (named : r.file = .text path) (threshold : Nat) :
    r.fileHandlers threshold = [.file threshold (Path.place (Path.direct path))] := by
  rw [named] at holds
  have filled : path.isEmpty = false := by simpa [Value.holds] using holds
  unfold fileHandlers
  rw [named]
  dsimp only
  rw [filled, if_neg (by decide)]

/-- The set-up that is asked for, if the level is one. -/
def setup (r : LogRequest) (stated : Option String) : Except Fault LogSetup := do
  let threshold ← r.threshold stated
  return ⟨threshold, .console threshold :: r.fileHandlers threshold, false⟩

def Opens (r : LogRequest) (f : Files) : Prop :=
  r.file.holds = true → ∃ path place, r.file = .text path ∧
    f.openForWriting (Path.direct path) = .ok place

theorem Opens.of_directories {r : LogRequest} {f f' : Files} (opens : r.Opens f)
    (same : f'.directories = f.directories) : r.Opens f' := by
  intro holds
  obtain ⟨path, place, named, opened⟩ := opens holds
  exact ⟨path, place, named, Files.openForWriting_of_directories same opened⟩

end LogRequest

namespace LogSetup

def untouched : LogSetup := ⟨0, [], true⟩

/-- Records go to the console, and behind it to one file at most, both under the threshold of the
logger; they go nowhere else. -/
structure Orderly (s : LogSetup) : Prop where
  handlers : s.handlers = [.console s.threshold] ∨
    ∃ place, s.handlers = [.console s.threshold, .file s.threshold place]
  quiet : s.propagates = false

/-- A set-up whose threshold stands, and that has got no further. -/
def halfway (s : LogSetup) (threshold : Nat) : LogSetup :=
  ⟨threshold, [.console threshold], s.propagates⟩

theorem Orderly.halfway {s : LogSetup} (orderly : s.Orderly) (threshold : Nat) :
    (s.halfway threshold).Orderly :=
  ⟨.inl rfl, orderly.quiet⟩

theorem orderly_setup {r : LogRequest} {stated : Option String} {s : LogSetup}
    (asked : r.setup stated = .ok s) : s.Orderly := by
  obtain ⟨threshold, _, made⟩ := Step.bind_eq_ok.mp asked
  cases made
  refine ⟨?_, rfl⟩
  dsimp only
  unfold LogRequest.fileHandlers
  split
  case h_1 path _ =>
    split
    case isTrue => exact .inl rfl
    case isFalse => exact .inr ⟨_, rfl⟩
  case h_2 => exact .inl rfl

/-- What is left of a set-up once the threshold stands. -/
def finish (threshold : Nat) (file : Value) : Run Unit :=
  if file.holds then do
    let place ← openFile file
    change fun s => { s with handlers := s.handlers ++ [.file threshold place] }
    change fun s => { s with propagates := false }
  else change fun s => { s with propagates := false }

theorem apply_on (r : LogRequest) (h : Host) :
    (apply r.level r.file).on h =
      match r.threshold (h.setting? levelVariable) with
      | .error fault => (.error fault, h)
      | .ok threshold =>
        (finish threshold r.file).on { h with logging := h.logging.halfway threshold } := by
  unfold apply LogRequest.threshold
  cases r.level.isNone with
  | true =>
    dsimp only
    rw [if_pos rfl, if_pos rfl, Run.on_bind_ok (Run.on_fromEnvironment _ h),
      Run.on_bind_ok (Run.on_pure _ h), Run.on_bind]
    cases (Value.text ((h.setting? levelVariable).getD "WARNING")).asText "upper" >>= thresholdOf
      <;> rfl
  | false =>
    dsimp only
    rw [if_neg (by decide), if_neg (by decide), Run.on_bind_ok (Run.on_pure _ h), Run.on_bind]
    cases r.level.asText "upper" >>= thresholdOf <;> rfl

theorem openFile_cases (file : Value) (h : Host) :
    ((¬ ∃ path place, file = .text path ∧
        h.files.openForWriting (Path.direct path) = .ok place) ∧
      ∃ fault, (openFile file).on h = (.error fault, h)) ∨
      ∃ path place files, file = .text path ∧
        h.files.openForWriting (Path.direct path) = .ok place ∧
        (openFile file).on h = (.ok place, { h with files }) := by
  cases file with
  | text path =>
    unfold openFile
    rw [Run.on_bind_ok (Run.on_get h)]
    cases opened : h.files.openForWriting (Path.direct path) with
    | ok place => exact .inr ⟨path, place, _, rfl, opened, rfl⟩
    | error fault =>
      refine .inl ⟨?_, fault, rfl⟩
      rintro ⟨_, place, named, writable⟩
      cases named
      cases opened.symm.trans writable
  | _ => exact .inl ⟨by simp, _, rfl⟩

theorem finish_cases (r : LogRequest) (threshold : Nat) (h : Host) :
    (¬ r.Opens h.files ∧ ∃ fault, (finish threshold r.file).on h = (.error fault, h)) ∨
      (r.Opens h.files ∧ ∃ files, (finish threshold r.file).on h = (.ok (), { h with
        files
        logging := ⟨h.logging.threshold, h.logging.handlers ++ r.fileHandlers threshold,
          false⟩ })) := by
  unfold finish
  cases holds : r.file.holds with
  | false =>
    -- Without a log file there is nothing to open, and no handler to add.
    have unneeded : r.Opens h.files := fun needed => absurd (holds.symm.trans needed) (by decide)
    rw [if_neg (by decide), LogRequest.fileHandlers_of_not_holds holds, List.append_nil]
    exact .inr ⟨unneeded, h.files, rfl⟩
  | true =>
    rw [if_pos rfl]
    rcases openFile_cases r.file h with
      ⟨shut, fault, failed⟩ | ⟨path, place, files, named, opened, done⟩
    · rw [Run.on_bind_error failed]
      exact .inl ⟨fun opens => shut (opens holds), fault, rfl⟩
    · rw [Run.on_bind_ok done, LogRequest.fileHandlers_of_holds holds named,
        ← Files.place_of_writable opened]
      exact .inr ⟨fun _ => ⟨path, place, named, opened⟩, files, rfl⟩

theorem apply_cases (r : LogRequest) (h : Host) :
    (∃ fault, r.setup (h.setting? levelVariable) = .error fault ∧
        (apply r.level r.file).on h = (.error fault, h)) ∨
      ∃ s, r.setup (h.setting? levelVariable) = .ok s ∧
        ((¬ r.Opens h.files ∧ ∃ fault, (apply r.level r.file).on h =
            (.error fault, { h with logging := h.logging.halfway s.threshold })) ∨
          (r.Opens h.files ∧ ∃ files, (apply r.level r.file).on h =
            (.ok (), { h with files, logging := s }))) := by
  rw [apply_on]
  unfold LogRequest.setup
  cases r.threshold (h.setting? levelVariable) with
  | error fault => exact .inl ⟨fault, rfl, rfl⟩
  | ok threshold =>
    refine .inr ⟨_, rfl, ?_⟩
    exact finish_cases r threshold { h with logging := h.logging.halfway threshold }

end LogSetup

namespace Host

theorem setting?_of_environment {h k : Host} (same : k.environment = h.environment)
    (name : String) : k.setting? name = h.setting? name := by
  unfold Host.setting?
  rw [same]

/-- What a set-up reads besides its arguments is the same on two hosts, which may log differently.
-/
structure Presents (h k : Host) : Prop where
  environment : k.environment = h.environment
  files : k.files = h.files
  readYaml : k.readYaml = h.readYaml
  configs : k.configs = h.configs
  current : k.current = h.current

/-- The second host logs as the first one does, and has its environment and its directories. -/
structure Keeps (h k : Host) : Prop where
  logging : k.logging = h.logging
  environment : k.environment = h.environment
  directories : k.files.directories = h.files.directories

theorem Keeps.refl (h : Host) : Keeps h h := ⟨rfl, rfl, rfl⟩

theorem Recorded.keeps {h k : Host} (recorded : h.Recorded k) : Keeps h k := by
  cases recorded with
  | same => exact .refl h
  | logged => exact ⟨logging_logged .., environment_logged .., directories_logged ..⟩

end Host

namespace Config

/-- The path of the configuration file where none is given. -/
def usualPath (h : Host) : String :=
  let byDefault := if h.files.exists? defaultYaml then defaultYaml else defaultJson
  match h.setting? configVariable with
  | some path => if path.isEmpty then byDefault else Path.normal path
  | none => byDefault

/-- What loading a configuration comes to where no file is given. -/
def usual (h : Host) : Except Fault Config := do
  let _ ← (h.files.lookUp (usualPath h)).mapError Fault.system
  let data ← mappingIn h (usualPath h)
  ofData (usualPath h) data (h.setting? validateVariable) (h.setting? compilerVariable)

/-- The configuration that a call reads: the one given, else the one in force, else the usual
one. -/
def choice (given : Supplied ConfigId) (touched : List String) (h : Host) : Except Fault Config :=
  match given.present <|> h.current with
  | some c => do return h.configs.getD (← c.need touched).index default
  | none => usual h

theorem mappingIn_of_presents {h k : Host} (same : h.Presents k) (path : String) :
    mappingIn k path = mappingIn h path := by
  unfold mappingIn dataIn readData
  rw [same.files, same.readYaml]

theorem choice_of_presents {h k : Host} (same : h.Presents k) (given : Supplied ConfigId)
    (touched : List String) : choice given touched k = choice given touched h := by
  unfold choice usual usualPath
  simp only [Host.setting?_of_environment same.environment, mappingIn_of_presents same, same.files,
    same.configs, same.current]

theorem locate_none (h : Host) : (locate .none).on h = (.ok (usualPath h), h) := by
  have unheld : Value.none.holds = false := rfl
  unfold locate usualPath
  rw [unheld, if_neg (by decide), Run.on_bind_ok (Run.on_fromEnvironment _ h)]
  cases h.setting? configVariable with
  | none => rfl
  | some path =>
    dsimp only
    split <;> rfl

theorem load_none (h : Host) :
    ∃ k, h.Keeps k ∧ (load .none).on h =
      match usual h with
      | .ok c => (.ok ⟨k.configs.length⟩, { k with configs := k.configs ++ [c] })
      | .error fault => (.error fault, k) := by
  unfold usual
  cases found : h.files.lookUp (usualPath h) with
  | error e =>
    have absent : (loadData (usualPath h)).on h = (.error (.system e), h) := by
      unfold loadData
      rw [Run.on_bind_ok (Run.on_get h), found]
      rfl
    refine ⟨h, .refl h, ?_⟩
    unfold load
    rw [Run.on_bind_ok (locate_none h), Run.on_bind_error absent]
    rfl
  | ok there =>
    obtain ⟨k, recorded, loaded⟩ := load_recorded (locate_none h) found
    exact ⟨k, recorded.keeps, loaded⟩

theorem current_of_some {h : Host} {c : Supplied ConfigId} (there : h.current = some c) :
    current.on h = (.ok c, h) := by
  unfold current
  rw [Run.on_bind_ok (Run.on_get h), there]
  rfl

theorem current_of_none {h : Host} (missing : h.current = none) :
    ∃ k, h.Keeps k ∧ current.on h =
      match usual h with
      | .ok c => (.ok (.good ⟨k.configs.length⟩), { k with
        configs := k.configs ++ [c]
        current := some (.good ⟨k.configs.length⟩) })
      | .error fault => (.error fault, k) := by
  obtain ⟨k, kept, loaded⟩ := load_none h
  refine ⟨k, kept, ?_⟩
  unfold current
  rw [Run.on_bind_ok (Run.on_get h), missing]
  dsimp only
  rw [Run.on_bind, loaded]
  cases usual h <;> rfl

theorem chosen_on (given : Supplied ConfigId) (touched : List String) (h : Host) :
    ∃ k, h.Keeps k ∧ (chosen given touched).on h = (choice given touched h, k) := by
  have read (c : Supplied ConfigId) (k : Host) :
      Run.on (do Run.config (← Run.lift (c.need touched))) k =
        ((do return k.configs.getD (← c.need touched).index default), k) := by
    cases c <;> rfl
  unfold chosen choice
  cases given.present with
  | some c => exact ⟨h, .refl h, by rw [Run.on_bind_ok (Run.on_pure c h), read]; rfl⟩
  | none =>
    cases there : h.current with
    | some c => exact ⟨h, .refl h, by rw [Run.on_bind_ok (current_of_some there), read]; rfl⟩
    | none =>
      obtain ⟨k, kept, loaded⟩ := current_of_none there
      cases made : usual h with
      | error fault =>
        rw [made] at loaded
        refine ⟨k, kept, ?_⟩
        rw [Run.on_bind_error loaded]
        rfl
      | ok c =>
        rw [made] at loaded
        refine ⟨{ k with
            configs := k.configs ++ [c]
            current := some (.good ⟨k.configs.length⟩) },
          ⟨kept.logging, kept.environment, kept.directories⟩, ?_⟩
        -- What was loaded stands behind all other configurations, where it is then read.
        have added : (k.configs ++ [c]).getD k.configs.length default = c := by simp
        rw [Run.on_bind_ok loaded, read]
        exact congrArg (fun c => (Except.ok c, _)) added

/-- What a configuration asks for; a level that the environment states takes precedence. -/
def logRequest (c : Config) (stated : Option String) : LogRequest where
  level := match stated with
    | some level => if level.isEmpty then c.logging.level else .text level
    | none => c.logging.level
  file := if c.logging.enableFile.holds then c.logging.file else .none

theorem applyConfig_on (c : Config) (h : Host) :
    (LogSetup.applyConfig c).on h =
      (LogSetup.apply (c.logRequest (h.setting? levelVariable)).level
        (c.logRequest (h.setting? levelVariable)).file).on h := by
  unfold LogSetup.applyConfig
  rw [Run.on_bind_ok (Run.on_fromEnvironment levelVariable h)]
  rfl

end Config

/-- A call that sets up logging: on request, or from what is given as the configuration. -/
inductive SetupCall where
  | direct (request : LogRequest)
  | fromConfig (given : Supplied ConfigId)

namespace SetupCall

def run : SetupCall → Run Unit
  | .direct r => LogSetup.apply r.level r.file
  | .fromConfig given => do LogSetup.applyConfig (← Config.chosen given ["logging"])

/-- What a call asks for, by its arguments, the configuration it reads and the environment. -/
def request (call : SetupCall) (h : Host) : Except Fault LogRequest :=
  match call with
  | .direct r => .ok r
  | .fromConfig given => do
    return (← Config.choice given ["logging"] h).logRequest (h.setting? levelVariable)

theorem request_of_presents {h k : Host} (same : h.Presents k) (call : SetupCall) :
    call.request k = call.request h := by
  cases call with
  | direct r => rfl
  | fromConfig given =>
    unfold request
    dsimp only
    rw [Config.choice_of_presents same, Host.setting?_of_environment same.environment]

theorem run_on (call : SetupCall) (h : Host) :
    ∃ k, h.Keeps k ∧ call.run.on h =
      match call.request h with
      | .error fault => (.error fault, k)
      | .ok r => (LogSetup.apply r.level r.file).on k := by
  cases call with
  | direct r => exact ⟨h, .refl h, rfl⟩
  | fromConfig given =>
    obtain ⟨k, kept, chosen⟩ := Config.chosen_on given ["logging"] h
    have setting := Host.setting?_of_environment kept.environment levelVariable
    refine ⟨k, kept, ?_⟩
    unfold run request
    dsimp only
    rw [Run.on_bind, chosen]
    cases Config.choice given ["logging"] h with
    | error fault => rfl
    | ok c =>
      dsimp only
      rw [Config.applyConfig_on, setting]
      rfl

/-- What a call does to logging. Either it stops before it changes anything, or it stops at its log
file, or it returns and leaves the set-up that it asks for. -/
theorem run_cases (call : SetupCall) (h : Host) :
    ((∀ r s, call.request h = .ok r → r.setup (h.setting? levelVariable) ≠ .ok s) ∧
        ∃ fault k, call.run.on h = (.error fault, k) ∧ k.logging = h.logging) ∨
      ∃ r s, call.request h = .ok r ∧ r.setup (h.setting? levelVariable) = .ok s ∧
        ((¬ r.Opens h.files ∧ ∃ fault k, call.run.on h = (.error fault, k) ∧
            k.logging = h.logging.halfway s.threshold) ∨
          (r.Opens h.files ∧ ∃ k, call.run.on h = (.ok (), k) ∧ k.logging = s)) := by
  obtain ⟨k, kept, run⟩ := run_on call h
  have setting := Host.setting?_of_environment kept.environment levelVariable
  rw [run]
  cases asked : call.request h with
  | error fault => exact .inl ⟨by simp, fault, k, rfl, kept.logging⟩
  | ok r =>
    dsimp only
    rcases LogSetup.apply_cases r k with
      ⟨fault, refused, stopped⟩ | ⟨s, settled, ⟨shut, fault, stopped⟩ | ⟨opens, files, done⟩⟩
    · rw [setting] at refused
      rw [stopped]
      refine .inl ⟨?_, fault, k, rfl, kept.logging⟩
      rintro _ s ⟨⟩ settled
      cases refused.symm.trans settled
    · rw [setting] at settled
      have shutBefore : ¬ r.Opens h.files :=
        fun opens => shut (opens.of_directories kept.directories)
      rw [stopped, kept.logging]
      exact .inr ⟨r, s, rfl, settled, .inl ⟨shutBefore, fault, _, rfl, rfl⟩⟩
    · rw [setting] at settled
      have opensBefore : r.Opens h.files := opens.of_directories kept.directories.symm
      rw [done]
      exact .inr ⟨r, s, rfl, settled, .inr ⟨opensBefore, _, rfl, rfl⟩⟩

end SetupCall

namespace LogSetup

/-- The hosts that the library can be found on: it has been imported, anything but its logging may
have changed meanwhile, and calls to set up logging have been made, whether they returned or not. -/
inductive Reached : Host → Prop
  | imported {h k : Host} (untouched : h.logging = .untouched)
      (done : (apply .none .none).on h = (.ok (), k)) : Reached k
  | elsewhere {h k : Host} (reached : Reached h) (same : k.logging = h.logging) : Reached k
  | called {h : Host} (reached : Reached h) (call : SetupCall) : Reached (call.run.on h).2

theorem Orderly.run {h : Host} (orderly : h.logging.Orderly) (call : SetupCall) :
    (call.run.on h).2.logging.Orderly := by
  rcases call.run_cases h with
    ⟨_, _, k, stopped, same⟩ | ⟨r, s, _, settled, ⟨_, _, k, stopped, half⟩ | ⟨_, k, done, same⟩⟩
  · rw [stopped]
    exact same ▸ orderly
  · rw [stopped]
    exact half ▸ orderly.halfway s.threshold
  · rw [done]
    exact same ▸ orderly_setup settled

theorem import_on {h : Host} (unset : h.setting? levelVariable = none) :
    (apply .none .none).on h = (.ok (), { h with logging := .initial }) := by
  have standard : LogRequest.threshold ⟨.none, .none⟩ none = .ok defaultThreshold := by rfl
  rw [apply_on ⟨.none, .none⟩, unset, standard]
  rfl

theorem reached_initial {h : Host} (initial : h.logging = .initial) : Reached h := by
  let fresh : Host := { h with environment := [], logging := untouched }
  have unset : fresh.setting? levelVariable = none := rfl
  exact .elsewhere (.imported rfl (import_on unset)) initial

theorem settled_of_done {call : SetupCall} {h k : Host} (done : call.run.on h = (.ok (), k)) :
    ∃ r, call.request h = .ok r ∧ r.setup (h.setting? levelVariable) = .ok k.logging ∧
      r.Opens h.files := by
  rcases call.run_cases h with
    ⟨_, _, _, stopped, _⟩ | ⟨r, s, asked, settled, ⟨_, _, _, stopped, _⟩ | ⟨opens, k', done', same⟩⟩
  · cases stopped.symm.trans done
  · cases stopped.symm.trans done
  · cases done'.symm.trans done
    exact ⟨r, asked, same ▸ settled, opens⟩

theorem Reached.orderly {h : Host} (reached : Reached h) : h.logging.Orderly := by
  induction reached with
  | @imported h k _ done =>
    -- The import makes a call like any other, except that it must return.
    have direct : (SetupCall.direct ⟨.none, .none⟩).run.on h = (.ok (), k) := done
    obtain ⟨_, _, settled, _⟩ := settled_of_done direct
    exact orderly_setup settled
  | elsewhere _ same orderly => exact same ▸ orderly
  | called _ call orderly => exact orderly.run call

/-- Main theorem. On every host that can be reached, by calls that returned and by calls that did
not, the handlers are in order. A call that returns leaves the set-up that it asks for. On every
host that presents the same to it, however that host logs, it returns too and leaves the same
set-up. -/
theorem setups_settle :
    (∀ h, Reached h → h.logging.Orderly) ∧
      ∀ (call : SetupCall) (h k : Host), call.run.on h = (.ok (), k) →
        (∃ r, call.request h = .ok r ∧ r.setup (h.setting? levelVariable) = .ok k.logging) ∧
        ∀ h', h.Presents h' → ∃ k', call.run.on h' = (.ok (), k') ∧ k'.logging = k.logging := by
  refine ⟨fun h reached => reached.orderly, ?_⟩
  intro call h k done
  obtain ⟨r, asked, settled, opens⟩ := settled_of_done done
  refine ⟨⟨r, asked, settled⟩, ?_⟩
  intro h' same
  -- The other host is asked for the same, so the call can stop there neither at the level nor at
  -- the log file.
  rw [← call.request_of_presents same] at asked
  rw [← Host.setting?_of_environment same.environment] at settled
  rw [← same.files] at opens
  rcases call.run_cases h' with
    ⟨refused, _⟩ | ⟨r', s', asked', settled', ⟨shut, _⟩ | ⟨_, k', done', same'⟩⟩
  · exact absurd settled (refused r k.logging asked)
  · cases asked'.symm.trans asked
    exact absurd opens shut
  · cases asked'.symm.trans asked
    cases settled'.symm.trans settled
    exact ⟨k', done', same'⟩

def startHost : Host where
  respond _ _ := .exited 0 "" ""

def filed : Config where
  path := "c.json"
  logging := { level := "error", enableFile := .bool true, file := "app.log" }

/-- The theorem at work: a call stops halfway, as there is no directory for its log file. A later
call returns, and leaves the same set-up as it does where nothing has happened. -/
theorem setups_settle_halfway :
    ∃ h fault k k',
      (SetupCall.direct ⟨"debug", "logs/app.log"⟩).run.on startHost = (.error fault, h) ∧
      h.logging.Orderly ∧ h.logging.threshold = 10 ∧
      (SetupCall.fromConfig (.good ⟨0⟩)).run.on { h with configs := [filed] } = (.ok (), k) ∧
      k.logging.Orderly ∧ k.logging.handlers = [.console 40, .file 40 ["app.log"]] ∧
      (SetupCall.fromConfig (.good ⟨0⟩)).run.on { startHost with configs := [filed] } =
        (.ok (), k') ∧ k'.logging = k.logging := by
  obtain ⟨orderly, settles⟩ := setups_settle
  have start : Reached startHost := reached_initial rfl
  have stopped : (SetupCall.direct ⟨"debug", "logs/app.log"⟩).run.on startHost =
      (.error (.system (.noSuchFile "logs/app.log")),
        { startHost with logging := ⟨10, [.console 10], false⟩ }) := rfl
  have after := start.called (.direct ⟨"debug", "logs/app.log"⟩)
  rw [stopped] at after
  have done : (SetupCall.fromConfig (.good ⟨0⟩)).run.on
        { startHost with configs := [filed], logging := ⟨10, [.console 10], false⟩ } =
      (.ok (), { startHost with
        configs := [filed]
        files := { contents := [(["app.log"], .text "")] }
        logging := ⟨40, [.console 40, .file 40 ["app.log"]], false⟩ }) := rfl
  obtain ⟨_, alike⟩ := settles _ _ _ done
  obtain ⟨k', fresh, same⟩ := alike { startHost with configs := [filed] }
    ⟨rfl, rfl, rfl, rfl, rfl⟩
  have reached := (after.elsewhere rfl : Reached { startHost with
    configs := [filed], logging := ⟨10, [.console 10], false⟩ }).called (.fromConfig (.good ⟨0⟩))
  rw [done] at reached
  exact ⟨_, _, _, k', stopped, orderly _ after, rfl, done, orderly _ reached, rfl, fresh, same⟩

end LogSetup

end TypeScriptGen
