import TypeScriptGen.Config.Store
import TypeScriptGen.Proofs.HostRuns
import TypeScriptGen.Proofs.Json.RoundTrip

/-!
Configurations survive a save and a load: every slot comes back with its value and its type. The
file of text in between is the platform's part, so a load is considered on any host that reads the
text as it was written; on the host of the save itself this is so unless its log goes to that file.
-/

set_option autoImplicit false
set_option relaxedAutoImplicit false

namespace TypeScriptGen

namespace Files

variable {f f' : Files} {path : String} {place other : List String} {content : FileContent}

private theorem find?_replaced {entries : List (List String × FileContent)}
    (present : (entries.find? (·.1 == place)).isSome) :
    (entries.map fun entry => if entry.1 == place then (place, content) else entry).find?
      (·.1 == place) = some (place, content) := by
  induction entries with
  | nil => cases present
  | cons entry rest ih =>
    rw [List.map_cons, List.find?_cons]
    by_cases here : entry.1 == place
    · rw [if_pos here, beq_self_eq_true]
    · rw [List.find?_cons, Bool.eq_false_iff.mpr here] at present
      rw [if_neg here, Bool.eq_false_iff.mpr here]
      exact ih present

private theorem find?_others {entries : List (List String × FileContent)}
    (different : other ≠ place) :
    (entries.map fun entry => if entry.1 == place then (place, content) else entry).find?
      (·.1 == other) = entries.find? (·.1 == other) := by
  induction entries with
  | nil => rfl
  | cons entry rest ih =>
    have apart : (place == other) = false := by simpa using different.symm
    rw [List.map_cons, List.find?_cons, List.find?_cons, ih]
    by_cases here : entry.1 == place
    · rw [if_pos here, beq_iff_eq.mp here, apart]
    · rw [if_neg here]

theorem content?_put : (f.put place content).content? place = some content := by
  unfold put content?
  dsimp only
  split
  case isTrue present =>
    rw [Option.isSome_map] at present
    rw [find?_replaced present]
    rfl
  case isFalse absent =>
    rw [Option.isSome_map, Bool.not_eq_true, Option.isSome_eq_false_iff, Option.isNone_iff_eq_none]
      at absent
    rw [List.find?_append, absent]
    simp

theorem content?_put_other (different : other ≠ place) :
    (f.put place content).content? other = f.content? other := by
  unfold put content?
  dsimp only
  split
  · rw [find?_others different]
  · have apart : (place == other) = false := by simpa using different.symm
    rw [List.find?_append, List.find?_singleton, apart]
    simp

theorem hasDirectory_of_directories (same : f'.directories = f.directories) (place : List String) :
    f'.hasDirectory place = f.hasDirectory place := by
  unfold hasDirectory
  rw [same]

theorem follow_of_directories (same : f'.directories = f.directories) {parts start : List String}
    (leads : f.follow path start parts = .ok place) : f'.follow path start parts = .ok place := by
  induction parts generalizing start with
  | nil => exact leads
  | cons part rest ih =>
    unfold follow at leads ⊢
    rw [hasDirectory_of_directories same]
    split at leads
    case isTrue => cases leads
    case isFalse directory =>
      rw [if_neg directory]
      split at leads
      case isTrue => cases leads
      case isFalse short =>
        rw [if_neg short]
        exact ih leads

theorem openForWriting_eq_ok (opened : f.openForWriting path = .ok place) :
    f.locate path = .ok place ∧ f.hasDirectory place = false := by
  unfold openForWriting at opened
  split at opened
  · cases opened
  · split at opened
    · cases opened
    · split at opened
      · cases opened
      case h_2 found directory =>
        cases opened
        exact ⟨found, by simpa using directory⟩

theorem openForReading_of_writable (opened : f.openForWriting path = .ok place)
    (same : f'.directories = f.directories) (there : f'.content? place = some content) :
    f'.openForReading path = .ok content := by
  obtain ⟨leads, directory⟩ := openForWriting_eq_ok opened
  have found : f'.locate path = .ok place := follow_of_directories same leads
  have file : f'.hasDirectory place = false :=
    (hasDirectory_of_directories same place).trans directory
  unfold openForReading
  rw [found]
  simp only [bind, Except.bind]
  rw [file, if_neg (by decide), there]
  rfl

theorem openForReading_eq_ok (read : f.openForReading path = .ok content) :
    ∃ place, f.locate path = .ok place ∧ f.hasDirectory place = false ∧
      f.content? place = some content := by
  unfold openForReading at read
  cases found : f.locate path with
  | error e =>
    rw [found] at read
    cases read
  | ok place =>
    rw [found] at read
    change (if f.hasDirectory place = true then _ else _) = _ at read
    cases directory : f.hasDirectory place with
    | true =>
      rw [directory] at read
      cases read
    | false =>
      rw [directory, if_neg (by decide)] at read
      refine ⟨place, rfl, directory, ?_⟩
      cases there : f.content? place with
      | none =>
        rw [there] at read
        cases read
      | some other =>
        rw [there] at read
        cases read
        rfl

theorem lookUp_of_openForReading (read : f.openForReading path = .ok content) :
    f.lookUp path = .ok true := by
  obtain ⟨place, found, directory, there⟩ := openForReading_eq_ok read
  unfold lookUp
  rw [found]
  dsimp only
  rw [directory, there]
  rfl

end Files

namespace Host

theorem handled_elsewhere {place : List String} {handlers : List LogHandler}
    (elsewhere : ∀ threshold, .file threshold place ∉ handlers) (severity : LogSeverity)
    (line : String) (f : Files) :
    (handlers.foldl (handle severity line) f).directories = f.directories ∧
      (handlers.foldl (handle severity line) f).content? place = f.content? place := by
  induction handlers generalizing f with
  | nil => exact ⟨rfl, rfl⟩
  | cons handler rest ih =>
    have others : ∀ threshold, .file threshold place ∉ rest :=
      fun threshold member => elsewhere threshold (List.mem_cons_of_mem handler member)
    have one : (handle severity line f handler).directories = f.directories ∧
        (handle severity line f handler).content? place = f.content? place := by
      cases handler with
      | console threshold => exact ⟨rfl, rfl⟩
      | file threshold logPlace =>
        have different : place ≠ logPlace := by
          rintro rfl
          exact elsewhere threshold List.mem_cons_self
        unfold handle
        dsimp only
        split
        · exact ⟨rfl, Files.content?_put_other different⟩
        · exact ⟨rfl, rfl⟩
    obtain ⟨directories, content⟩ := ih others (handle severity line f handler)
    exact ⟨directories.trans one.1, content.trans one.2⟩

theorem logged_elsewhere {h : Host} {place : List String}
    (elsewhere : ∀ threshold, .file threshold place ∉ h.logging.handlers) (severity : LogSeverity)
    (logger message : String) :
    (h.logged severity logger message).files.directories = h.files.directories ∧
      (h.logged severity logger message).files.content? place = h.files.content? place := by
  unfold logged
  split
  · exact handled_elsewhere elsewhere severity _ h.files
  · exact ⟨rfl, rfl⟩

end Host

namespace Text

theorem unifyLineEnds_plain {cs : List Char} (plain : '\r' ∉ cs) : unifyLineEnds cs = cs := by
  induction cs with
  | nil => rfl
  | cons c rest ih =>
    rw [List.mem_cons, not_or] at plain
    rw [unifyLineEnds]
    · rw [ih plain.2]
    · rintro rest rfl
      exact absurd rfl plain.1
    · rintro rfl
      exact absurd rfl plain.1

end Text

/-- Nothing, a truth value, a whole number or a text. -/
def Value.IsScalar : Value → Prop
  | .none => True
  | .bool _ => True
  | .int _ => True
  | .text _ => True
  | _ => False

theorem Value.IsScalar.document {v : Value} (scalar : v.IsScalar) : Json.Document v := by
  cases v with
  | none => exact .none
  | bool b => exact .bool b
  | int n => exact .int n
  | text s => exact .text s
  | _ => exact scalar.elim

namespace Config

/-- The time limit is a double other than not-a-number, and every other slot holds nothing, a truth
value, a whole number or a text. -/
structure Storable (c : Config) : Prop where
  emission : ∀ field ∈ c.emission.fields, field.2.IsScalar
  level : c.validation.level.IsScalar
  compilerPath : c.validation.compilerPath.IsScalar
  timeoutSeconds : ∃ x : Binary64, c.validation.timeoutSeconds = .float x ∧ x.IsNumber
  maxWorkers : c.validation.maxWorkers.IsScalar
  logging : ∀ field ∈ c.logging.fields, field.2.IsScalar

theorem Storable.document {c : Config} (storable : c.Storable) : Json.Document c.toValue := by
  have emission : Json.Document (.dictOf c.emission.fields) :=
    .dict (by simp [EmitSection.fields])
      fun field member => (storable.emission field member).document
  have logging : Json.Document (.dictOf c.logging.fields) :=
    .dict (by simp [LoggingSection.fields])
      fun field member => (storable.logging field member).document
  have validation : Json.Document (.dictOf c.validation.fields) := by
    refine .dict (by simp [ValidationSection.fields]) ?_
    obtain ⟨x, same, isNumber⟩ := storable.timeoutSeconds
    simp only [ValidationSection.fields, List.forall_mem_cons]
    refine ⟨storable.level.document, storable.compilerPath.document, ?_,
      storable.maxWorkers.document, List.forall_mem_nil _⟩
    rw [same]
    exact .float isNumber
  have whole : c.toValue = .dictOf [("version", "1.0"), ("description", "tsemit configuration"),
      ("emit", .dictOf c.emission.fields), ("validation", .dictOf c.validation.fields),
      ("logging", .dictOf c.logging.fields)] := rfl
  rw [whole]
  refine .dict (by simp) ?_
  simp only [List.forall_mem_cons]
  exact ⟨.text _, .text _, emission, validation, logging, List.forall_mem_nil _⟩

theorem Storable.ofData {c : Config} (storable : c.Storable) (path : String) :
    ofData path c.toValue none none = .ok { c with path } := by
  obtain ⟨x, same, _⟩ := storable.timeoutSeconds
  have emission : emissionOf c.toValue = .ok c.emission := rfl
  have logging : loggingOf c.toValue = .ok c.logging := rfl
  have validation : validationOf c.toValue none none = .ok c.validation := by
    rcases c with ⟨_, _, ⟨_, _, timeoutSeconds, _⟩, _⟩
    cases same
    rfl
  unfold Config.ofData
  rw [emission, validation, logging]
  rfl

/-- The file of a configuration reads as the text that is written for it. -/
def IsSavedIn (c : Config) (f : Files) : Prop :=
  f.openForReading c.path = .ok (.text (Json.write c.toValue).text)

/-- The file of a configuration lies at the place, can be opened there and takes the whole text. -/
structure IsWritable (c : Config) (h : Host) (place : List String) : Prop where
  opens : h.files.openForWriting c.path = .ok place
  through : h.cutShort place (Json.write c.toValue).text = none

theorem config_on {h : Host} {id : ConfigId} {c : Config} (held : h.configs[id.index]? = some c) :
    (Run.config id).on h = (.ok c, h) := by
  change (Except.ok (h.configs.getD id.index default), h) = _
  rw [List.getD_eq_getElem?_getD, held]
  rfl

theorem save_eq {h : Host} {id : ConfigId} {c : Config} (held : h.configs[id.index]? = some c) :
    (save id).on h =
      match h.files.openForWriting c.path with
      | .error (.system e) =>
        (.ok (), h.logged .error configLogger ("Failed to save configuration: " ++ e.message))
      | .error fault => (.error fault, h)
      | .ok place => (c.fill place).on h := by
  unfold save
  rw [Run.on_bind_ok (config_on held), Run.on_bind_ok (Run.on_get h)]
  cases h.files.openForWriting c.path with
  | error fault => cases fault <;> rfl
  | ok place => rfl

theorem fill_on {h : Host} {c : Config} {place : List String}
    (through : h.cutShort place (Json.write c.toValue).text = none) :
    (c.fill place).on h =
      let h₁ := { h with files := h.files.put place (.text (Json.write c.toValue).text) }
      match (Json.write c.toValue).fault with
      | some fault => (.error fault, h₁)
      | none => (.ok (), h₁.logged .info configLogger ("Configuration saved to " ++ c.path)) := by
  unfold fill
  rw [Run.on_bind_ok (Run.on_get h)]
  dsimp only
  rw [through]
  dsimp only
  cases (Json.write c.toValue).fault <;> rfl

theorem save_on {h : Host} {id : ConfigId} {c : Config} (held : h.configs[id.index]? = some c)
    {place : List String} (writable : c.IsWritable h place)
    (complete : (Json.write c.toValue).fault = none) :
    (save id).on h = (.ok (),
      { h with files := h.files.put place (.text (Json.write c.toValue).text) }.logged .info
        configLogger ("Configuration saved to " ++ c.path)) := by
  rw [save_eq held, writable.opens]
  dsimp only
  rw [fill_on writable.through, complete]

theorem readData_document {v : Value} (document : Json.Document v) {h : Host} {path : String}
    (json : isYaml path = false)
    (saved : h.files.openForReading path = .ok (.text (Json.write v).text)) :
    readData h path = .ok v := by
  have decoded : decode (.text (Json.write v).text) = .ok (Json.write v).text := by
    change Except.ok (String.ofList (Text.unifyLineEnds (Json.write v).text.toList)) = _
    rw [Text.unifyLineEnds_plain document.clean.plain, String.ofList_toList]
  have read : readJson (.text (Json.write v).text) = .ok v := by
    unfold readJson
    rw [decoded]
    simp only [bind, Except.bind]
    rw [Json.read_write document]
    rfl
  unfold readData
  rw [saved, json]
  exact congrArg (Except.mapError Unreadable.refused) read

theorem loadData_on {c : Config} (storable : c.Storable) (json : isYaml c.path = false) {h : Host}
    (saved : c.IsSavedIn h.files) : (loadData c.path).on h =
      (.ok c.toValue, h.logged .info configLogger ("Loaded configuration from " ++ c.path)) := by
  have present : (Run.lift ((h.files.lookUp c.path).mapError Fault.system)).on h =
      (.ok true, h) := by
    rw [Files.lookUp_of_openForReading saved]
    rfl
  unfold loadData
  rw [Run.on_bind_ok (Run.on_get h), Run.on_bind_ok present,
    readData_document storable.document json saved]
  rfl

theorem ne_empty_of_writable {f : Files} {p : String} {place : List String}
    (writable : f.openForWriting (Path.normal p) = .ok place) : p ≠ "" := by
  rintro rfl
  have parts : Path.components (Path.normal "") = [] := by decide
  have start : Path.start (Path.normal "") = [] := by decide
  obtain ⟨leads, directory⟩ := Files.openForWriting_eq_ok writable
  unfold Files.locate at leads
  rw [parts, start] at leads
  cases leads
  cases directory

theorem fromEnvironment_on {h : Host} {name : String}
    (unset : name ∉ h.environment.map Prod.fst) :
    (Run.fromEnvironment name).on h = (.ok none, h) := by
  have absent : h.environment.find? (·.1 == name) = none := by
    rw [List.find?_eq_none]
    rintro entry member same
    exact unset (List.mem_map.mpr ⟨entry, member, beq_iff_eq.mp same⟩)
  change (Except.ok ((h.environment.find? (·.1 == name)).map Prod.snd), h) = _
  rw [absent]
  rfl

theorem load_on {c : Config} (storable : c.Storable) (json : isYaml c.path = false) {h : Host}
    (saved : c.IsSavedIn h.files) (unswitched : validateVariable ∉ h.environment.map Prod.fst)
    (unnamed : compilerVariable ∉ h.environment.map Prod.fst) {p : String} (given : p ≠ "")
    (same : Path.normal p = c.path) :
    ∃ id h', (load (.text p)).on h = (.ok id, h') ∧ h'.configs[id.index]? = some c := by
  have located : (locate (.text p)).on h = (.ok c.path, h) := by
    have holds : (Value.text p).holds = true := by simpa [Value.holds] using given
    unfold locate
    rw [if_pos holds, ← same]
    rfl
  have loaded := loadData_on storable json saved
  generalize told : h.logged .info configLogger ("Loaded configuration from " ++ c.path) = h₁
    at loaded
  have kept : h₁.environment = h.environment := by
    rw [← told, Host.environment_logged]
  rw [← kept] at unswitched unnamed
  refine ⟨⟨h₁.configs.length⟩, { h₁ with configs := h₁.configs ++ [c] }, ?_, by simp⟩
  unfold load
  rw [Run.on_bind_ok located, Run.on_bind_ok loaded,
    Run.on_bind_ok (fromEnvironment_on unswitched), Run.on_bind_ok (fromEnvironment_on unnamed),
    storable.ofData c.path]
  rfl

/-- Main theorem. A configuration whose file is writable and not in YAML is saved. Its file then
reads as the text that was written, unless a log file is kept at the same place. On every host where
it does, with the two variables unset, loading the same path gives the same sections, slot by slot
and type by type. -/
theorem load_save {h : Host} {id : ConfigId} {c : Config} (held : h.configs[id.index]? = some c)
    (json : isYaml c.path = false) {place : List String} (writable : c.IsWritable h place)
    (storable : c.Storable) :
    ∃ h', (save id).on h = (.ok (), h') ∧
      ((∀ threshold, .file threshold place ∉ h.logging.handlers) → c.IsSavedIn h'.files) ∧
      ∀ (h₂ : Host) (p : String), c.IsSavedIn h₂.files → Path.normal p = c.path →
        validateVariable ∉ h₂.environment.map Prod.fst →
        compilerVariable ∉ h₂.environment.map Prod.fst →
          ∃ id₂ c₂ h₃, (load (.text p)).on h₂ = (.ok id₂, h₃) ∧
            h₃.configs[id₂.index]? = some c₂ ∧ c₂.toValue = c.toValue := by
  refine ⟨_, save_on held writable storable.document.clean.complete, ?_, ?_⟩
  · intro elsewhere
    obtain ⟨directories, content⟩ := Host.logged_elsewhere
      (h := { h with files := h.files.put place (.text (Json.write c.toValue).text) })
      elsewhere .info configLogger ("Configuration saved to " ++ c.path)
    exact Files.openForReading_of_writable writable.opens directories
      (content.trans Files.content?_put)
  · intro h₂ p saved same unswitched unnamed
    have given : p ≠ "" := by
      have opens := writable.opens
      rw [← same] at opens
      exact ne_empty_of_writable opens
    obtain ⟨id₂, h₃, loaded, found⟩ := load_on storable json saved unswitched unnamed given same
    exact ⟨id₂, c, h₃, loaded, found, rfl⟩

/-- Slots of every kind: nothing in place of a truth value, a truth value in place of a number, a
number beyond every machine word, one tenth, and texts with control characters, quotes, backslashes
and characters beyond the basic plane. -/
def mixedSlots : Config where
  path := "settings.json"
  emission := { indentSize := .bool true, useTabs := .none, endOfLine := "\r\n",
                headerComment := "\"\\\x01\x7f é 😀" }
  validation := { timeoutSeconds := .float (.finite false 7205759403792794 (-56)),
                  maxWorkers := .int (-123456789012345678901234567890) }
  logging := { level := .int 0 }

/-- The theorem at work: the slots come back on a host of its own that finds the file. -/
theorem load_save_mixed :
    ∃ h h' h₂ : Host, mixedSlots.Storable ∧ h.configs = [mixedSlots] ∧
      mixedSlots.IsWritable h ["settings.json"] ∧
      (save ⟨0⟩).on h = (.ok (), h') ∧ h₂.files = h'.files ∧ h₂.configs = [] ∧
      ∃ id₂ c₂ h₃, (load (.text "./settings.json")).on h₂ = (.ok id₂, h₃) ∧
        h₃.configs[id₂.index]? = some c₂ ∧ c₂.toValue = mixedSlots.toValue := by
  let h : Host := { respond := fun _ _ => .exited 0 "" "", configs := [mixedSlots] }
  have storable : mixedSlots.Storable := {
    emission := by simp [mixedSlots, EmitSection.fields, Value.IsScalar]
    level := trivial
    compilerPath := trivial
    timeoutSeconds := ⟨_, rfl, by decide, by decide, by decide, .inl (by decide)⟩
    maxWorkers := trivial
    logging := by simp [mixedSlots, LoggingSection.fields, Value.IsScalar] }
  have held : h.configs[(⟨0⟩ : ConfigId).index]? = some mixedSlots := rfl
  have writable : mixedSlots.IsWritable h ["settings.json"] := ⟨rfl, rfl⟩
  obtain ⟨h', saved, kept, loads⟩ := load_save held (by decide) writable storable
  have stored : mixedSlots.IsSavedIn h'.files := kept (by simp [h, LogSetup.initial])
  let h₂ : Host := { respond := fun _ _ => .exited 0 "" "", files := h'.files }
  refine ⟨h, h', h₂, storable, rfl, writable, saved, rfl, rfl, ?_⟩
  exact loads h₂ "./settings.json" stored (by decide) (by simp [h₂]) (by simp [h₂])

end Config

end TypeScriptGen
