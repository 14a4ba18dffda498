import TypeScriptGen.Proofs.ConfigRoundTrip
import TypeScriptGen.Proofs.Steps

/-!
What loading a configuration comes to, for every content of its file, every environment and every
reader of YAML. Main statement: a fault that stops the reader of YAML stops the loading; any other
file that holds no mapping leaves all defaults in place; a mapping gives a configuration exactly if
each of its sections is a mapping, does not hold or is missing, and the time limit converts to a
number; each slot then is what the file states for it, or its default.
-/

set_option autoImplicit false
set_option relaxedAutoImplicit false

namespace TypeScriptGen

/-- The double that a value converts to: numbers and truth values do, and so do texts of numbers. -/
def Value.numeral? : Value → Option Binary64
  | .text s => Binary64.read? s
  | v => v.toDouble?

def Host.setting? (h : Host) (name : String) : Option String :=
  (h.environment.find? (·.1 == name)).map Prod.snd

namespace Config

/-- The mapping that a file holds, empty where it holds none. -/
def dataIn (h : Host) (path : String) : Value :=
  match readData h path with
  | .ok (.dict entries) => .dict entries
  | _ => .dict []

/-- What reading a file comes to: the mapping in it, unless a fault stops the reader. -/
def mappingIn (h : Host) (path : String) : Except Fault Value :=
  match readData h path with
  | .error (.broken fault) => .error fault
  | _ => .ok (dataIn h path)

/-- The file is in YAML, and a fault stops its reader. -/
def Breaks (h : Host) (path : String) (fault : Fault) : Prop :=
  isYaml path = true ∧ ∃ content, h.files.openForReading path = .ok content ∧
    h.readYaml content = .error (.broken fault)

def stated? (data : Value) (sectionName slotName : String) : Option Value :=
  (data.lookup? sectionName).bind (Value.lookup? slotName)

def sectionNames : List String := ["emit", "validation", "logging"]

/-- What is there under the name of a section is a mapping or does not hold. -/
def SectionFits (data : Value) (name : String) : Prop :=
  ∀ v, data.lookup? name = some v → v.holds = true → ∃ entries, v = .dict entries

def limitIn (data : Value) : Value :=
  (stated? data "validation" "timeout_seconds").getD ({} : ValidationSection).timeoutSeconds

structure Fits (data : Value) : Prop where
  sections : ∀ name ∈ sectionNames, SectionFits data name
  limit : ∃ x, (limitIn data).numeral? = some x

/-- Each slot is what the data state for it, or its default; two variables of the environment take
precedence for the level and for the compiler. -/
structure ReadsFrom (c : Config) (data : Value) (switch compiler : Option String) : Prop where
  emission : c.emission.fields = ({} : EmitSection).fields.map fun field =>
    (field.1, (stated? data "emit" field.1).getD field.2)
  level : c.validation.level =
    if trueWords.contains (Text.lowerLatin (switch.getD "")) then .text "syntax"
    else (stated? data "validation" "level").getD (.text "none")
  compilerPath : c.validation.compilerPath =
    if (compiler.getD "").isEmpty then (stated? data "validation" "tsc_path").getD .none
    else .text (compiler.getD "")
  timeoutSeconds : ∃ x, (limitIn data).numeral? = some x ∧ c.validation.timeoutSeconds = .float x
  maxWorkers : c.validation.maxWorkers = (stated? data "validation" "max_workers").getD (.int 4)
  logging : c.logging.fields = ({} : LoggingSection).fields.map fun field =>
    (field.1, (stated? data "logging" field.1).getD field.2)

/-- The fault tells of something in the data that has not the shape it should have: a section
without entries to get, or a time limit that is no number. -/
def Tells (data : Value) (fault : Fault) : Prop :=
  (∃ name v, name ∈ sectionNames ∧ ¬ SectionFits data name ∧ data.lookup? name = some v ∧
    fault = v.lack "get") ∨ toDouble (limitIn data) = .error fault

section Sections

variable {data : Value} {name : String}

theorem lookup?_of_not_holds {v : Value} (empty : v.holds = false) (key : String) :
    v.lookup? key = none := by
  cases v with
  | dict entries =>
    cases entries with
    | nil => rfl
    | cons entry rest => cases empty
  | _ => rfl

theorem sectionData_fits (fits : SectionFits data name) :
    ∃ d, sectionData data name = .ok d ∧
      ∀ slotName absent, slot d slotName absent = (stated? data name slotName).getD absent := by
  unfold sectionData stated? slot
  cases found : data.lookup? name with
  | none => exact ⟨.dict [], rfl, fun _ _ => rfl⟩
  | some v =>
    dsimp only [Option.bind_some]
    cases full : v.holds with
    | false =>
      refine ⟨.dict [], rfl, fun slotName absent => ?_⟩
      rw [lookup?_of_not_holds full]
      rfl
    | true =>
      obtain ⟨entries, rfl⟩ := fits v found full
      exact ⟨.dict entries, rfl, fun _ _ => rfl⟩

theorem sectionData_misfit (misfit : ¬ SectionFits data name) :
    ∃ v, data.lookup? name = some v ∧ sectionData data name = .error (v.lack "get") := by
  unfold SectionFits at misfit
  push Not at misfit
  obtain ⟨v, found, full, unlike⟩ := misfit
  refine ⟨v, found, ?_⟩
  unfold sectionData
  rw [found]
  dsimp only
  rw [full]
  cases v with
  | dict entries => exact absurd rfl (unlike entries)
  | _ => rfl

theorem toDouble_toOption (v : Value) : (toDouble v).toOption = v.numeral?.map .float := by
  cases v with
  | text s =>
    simp only [toDouble, Value.numeral?]
    cases Binary64.read? s <;> rfl
  | int n =>
    simp only [toDouble, Value.numeral?, Value.toDouble?, Value.toInt?, Option.bind_some]
    cases Binary64.ofInt? n <;> rfl
  | bool b =>
    simp only [toDouble, Value.numeral?, Value.toDouble?, Value.toInt?, Option.bind_some]
    cases Binary64.ofInt? (if b then 1 else 0) <;> rfl
  | _ => rfl

theorem toDouble_eq_ok {v : Value} {x : Binary64} (converts : v.numeral? = some x) :
    toDouble v = .ok (.float x) := by
  have converted := toDouble_toOption v
  rw [converts] at converted
  cases done : toDouble v with
  | error fault =>
    rw [done] at converted
    cases converted
  | ok w =>
    rw [done] at converted
    cases converted
    rfl

theorem toDouble_eq_error {v : Value} (other : v.numeral? = none) :
    ∃ fault, toDouble v = .error fault := by
  have converted := toDouble_toOption v
  rw [other] at converted
  cases done : toDouble v with
  | error fault => exact ⟨fault, rfl⟩
  | ok w =>
    rw [done] at converted
    cases converted

/-! The sections one by one. -/

theorem emissionOf_fits (fits : SectionFits data "emit") :
    ∃ s, emissionOf data = .ok s ∧ s.fields = ({} : EmitSection).fields.map fun field =>
      (field.1, (stated? data "emit" field.1).getD field.2) := by
  obtain ⟨d, read, slots⟩ := sectionData_fits fits
  unfold emissionOf
  rw [read]
  refine ⟨_, rfl, ?_⟩
  simp only [EmitSection.fields, slots, List.map_cons, List.map_nil]

theorem loggingOf_fits (fits : SectionFits data "logging") :
    ∃ s, loggingOf data = .ok s ∧ s.fields = ({} : LoggingSection).fields.map fun field =>
      (field.1, (stated? data "logging" field.1).getD field.2) := by
  obtain ⟨d, read, slots⟩ := sectionData_fits fits
  unfold loggingOf
  rw [read]
  refine ⟨_, rfl, ?_⟩
  simp only [LoggingSection.fields, slots, List.map_cons, List.map_nil]

theorem validationOf_fits (fits : SectionFits data "validation") (switch compiler : Option String) :
    ∃ s : ValidationSection, validationOf data switch compiler =
        (toDouble (limitIn data)).map (fun limit => { s with timeoutSeconds := limit }) ∧
      s.level = (if trueWords.contains (Text.lowerLatin (switch.getD "")) then .text "syntax"
        else (stated? data "validation" "level").getD (.text "none")) ∧
      s.compilerPath = (if (compiler.getD "").isEmpty then
        (stated? data "validation" "tsc_path").getD .none else .text (compiler.getD "")) ∧
      s.maxWorkers = (stated? data "validation" "max_workers").getD (.int 4) := by
  obtain ⟨d, read, slots⟩ := sectionData_fits fits
  refine ⟨{
    level := if trueWords.contains (Text.lowerLatin (switch.getD "")) then .text "syntax"
      else slot d "level" (.text "none")
    compilerPath := compiler.elim (slot d "tsc_path" .none) fun p =>
      if p.isEmpty then slot d "tsc_path" .none else .text p
    maxWorkers := slot d "max_workers" (.int 4) }, ?_, ?_, ?_, slots ..⟩
  · unfold validationOf limitIn
    rw [read, ← slots]
    dsimp only [bind, Except.bind]
    cases toDouble (slot d "timeout_seconds" ({} : ValidationSection).timeoutSeconds) <;>
      cases compiler <;> rfl
  · rw [← slots]
  · rw [← slots]
    cases compiler <;> rfl

theorem ofData_fits (fits : Fits data) (path : String) (switch compiler : Option String) :
    ∃ c, ofData path data switch compiler = .ok c ∧ c.path = path ∧
      ReadsFrom c data switch compiler := by
  obtain ⟨x, converts⟩ := fits.limit
  obtain ⟨emission, first, emitted⟩ := emissionOf_fits (fits.sections "emit" (by decide))
  obtain ⟨validation, second, level, compilerPath, maxWorkers⟩ :=
    validationOf_fits (fits.sections "validation" (by decide)) switch compiler
  obtain ⟨logging, third, logged⟩ := loggingOf_fits (fits.sections "logging" (by decide))
  rw [toDouble_eq_ok converts] at second
  refine ⟨{
    path, emission, logging
    validation := { validation with timeoutSeconds := .float x } }, ?_, rfl, {
      emission := emitted
      level
      compilerPath
      timeoutSeconds := ⟨x, converts, rfl⟩
      maxWorkers
      logging := logged }⟩
  unfold ofData
  rw [first, second, third]
  rfl

theorem ofData_misfit (misfit : ¬ Fits data) (path : String) (switch compiler : Option String) :
    ∃ fault, ofData path data switch compiler = .error fault ∧ Tells data fault := by
  unfold ofData
  by_cases first : SectionFits data "emit"
  case neg =>
    obtain ⟨v, found, refused⟩ := sectionData_misfit first
    unfold emissionOf
    rw [refused]
    exact ⟨_, rfl, .inl ⟨"emit", v, by decide, first, found, rfl⟩⟩
  obtain ⟨emission, read, _⟩ := emissionOf_fits first
  rw [read, Step.ok_bind]
  by_cases second : SectionFits data "validation"
  case neg =>
    obtain ⟨v, found, refused⟩ := sectionData_misfit second
    unfold validationOf
    rw [refused]
    exact ⟨_, rfl, .inl ⟨"validation", v, by decide, second, found, rfl⟩⟩
  obtain ⟨validation, read, _⟩ := validationOf_fits second switch compiler
  rw [read]
  cases converts : (limitIn data).numeral? with
  | none =>
    obtain ⟨fault, wrong⟩ := toDouble_eq_error converts
    rw [wrong]
    exact ⟨fault, rfl, .inr wrong⟩
  | some x =>
    have third : ¬ SectionFits data "logging" := by
      intro third
      exact misfit ⟨by simp [sectionNames, first, second, third], x, converts⟩
    obtain ⟨v, found, refused⟩ := sectionData_misfit third
    rw [toDouble_eq_ok converts]
    unfold loggingOf
    rw [refused]
    exact ⟨_, rfl, .inl ⟨"logging", v, by decide, third, found, rfl⟩⟩

theorem fits_nothing : Fits (.dict []) where
  sections := by
    intro name _ v found
    cases found
  limit := ⟨_, rfl⟩

end Sections

theorem readData_missing {h : Host} {path : String} (missing : h.files.lookUp path = .ok false) :
    ∃ reason, readData h path = .error (.refused reason) := by
  unfold readData
  cases opened : h.files.openForReading path with
  | error e => exact ⟨e.message, rfl⟩
  | ok content =>
    rw [Files.lookUp_of_openForReading opened] at missing
    cases missing

theorem readData_broken_iff {h : Host} {path : String} {fault : Fault} :
    readData h path = .error (.broken fault) ↔ Breaks h path fault := by
  unfold readData Breaks
  cases h.files.openForReading path with
  | error e =>
    constructor
    · intro broken
      cases broken
    · rintro ⟨_, _, opened, _⟩
      cases opened
  | ok content =>
    cases isYaml path with
    | true => simp [Except.mapError, bind, Except.bind]
    | false => cases read : readJson content <;> simp [Except.mapError, bind, Except.bind, read]

theorem dataIn_of_no_mapping {h : Host} {path : String}
    (unlike : ∀ entries, readData h path ≠ .ok (.dict entries)) : dataIn h path = .dict [] := by
  unfold dataIn
  split
  case h_1 entries read => exact absurd read (unlike entries)
  case h_2 => rfl

theorem mappingIn_of_breaks {h : Host} {path : String} {fault : Fault}
    (breaks : Breaks h path fault) : mappingIn h path = .error fault := by
  unfold mappingIn
  rw [readData_broken_iff.mpr breaks]

theorem mappingIn_of_unbroken {h : Host} {path : String}
    (unbroken : ∀ fault, ¬ Breaks h path fault) : mappingIn h path = .ok (dataIn h path) := by
  unfold mappingIn
  split
  case h_1 fault read => exact absurd (readData_broken_iff.mp read) (unbroken fault)
  case h_2 => rfl

theorem loadData_recorded {h : Host} {path : String} {there : Bool}
    (found : h.files.lookUp path = .ok there) :
    ∃ k, h.Recorded k ∧ (loadData path).on h = (mappingIn h path, k) := by
  have present : (Run.lift ((h.files.lookUp path).mapError Fault.system)).on h =
      (.ok there, h) := by
    rw [found]
    rfl
  unfold loadData
  rw [Run.on_bind_ok (Run.on_get h), Run.on_bind_ok present]
  unfold mappingIn dataIn
  cases there with
  | false =>
    obtain ⟨reason, missing⟩ := readData_missing found
    rw [missing]
    exact ⟨_, .logged .., rfl⟩
  | true =>
    rw [if_neg (by decide)]
    cases readData h path with
    | ok data => cases data <;> exact ⟨_, .logged .., rfl⟩
    | error failure =>
      cases failure with
      | refused reason => exact ⟨_, .logged .., rfl⟩
      | broken fault => exact ⟨h, .same, rfl⟩

theorem load_recorded {h : Host} {given : Value} {path : String} {there : Bool}
    (located : (locate given).on h = (.ok path, h)) (found : h.files.lookUp path = .ok there) :
    ∃ k, h.Recorded k ∧ (load given).on h =
      match mappingIn h path >>= fun data =>
        ofData path data (h.setting? validateVariable) (h.setting? compilerVariable) with
      | .ok c => (.ok ⟨k.configs.length⟩, { k with configs := k.configs ++ [c] })
      | .error fault => (.error fault, k) := by
  obtain ⟨k, recorded, loaded⟩ := loadData_recorded found
  have asked (name : String) : (Run.fromEnvironment name).on k = (.ok (h.setting? name), k) := by
    unfold Host.setting?
    rw [← recorded.environment]
    rfl
  refine ⟨k, recorded, ?_⟩
  unfold load
  rw [Run.on_bind_ok located, Run.on_bind, loaded]
  cases mappingIn h path with
  | error fault => rfl
  | ok data =>
    dsimp only
    rw [Run.on_bind_ok (asked _), Run.on_bind_ok (asked _), Step.ok_bind]
    cases ofData path data (h.setting? validateVariable) (h.setting? compilerVariable) <;> rfl

/-- Main theorem. Whatever is at the path of a configuration and in the environment, and whatever
the reader of YAML makes of it. A fault that stops this reader stops the loading. Otherwise, if the
data in the file have the shape of a configuration, loading gives one that reads from them; if not,
it fails and tells of something that has not its shape. No configuration is kept where it fails. A
file that is missing, refused by its reader or no mapping counts as an empty mapping, which has that
shape. -/
theorem load_settles {h : Host} {given : Value} {path : String} {there : Bool}
    (located : (locate given).on h = (.ok path, h)) (found : h.files.lookUp path = .ok there) :
    ∃ data outcome h', data = dataIn h path ∧ (load given).on h = (outcome, h') ∧
      (∀ fault, Breaks h path fault → outcome = .error fault ∧ h'.configs = h.configs) ∧
      ((∀ fault, ¬ Breaks h path fault) →
        (Fits data → ∃ id c, outcome = .ok id ∧ h'.configs[id.index]? = some c ∧ c.path = path ∧
          ReadsFrom c data (h.setting? validateVariable) (h.setting? compilerVariable)) ∧
        (¬ Fits data →
          ∃ fault, outcome = .error fault ∧ Tells data fault ∧ h'.configs = h.configs)) ∧
      ((∀ entries, readData h path ≠ .ok (.dict entries)) → data = .dict [] ∧ Fits data) := by
  have unmapped : (∀ entries, readData h path ≠ .ok (.dict entries)) →
      dataIn h path = .dict [] ∧ Fits (dataIn h path) := by
    intro unlike
    rw [dataIn_of_no_mapping unlike]
    exact ⟨rfl, fits_nothing⟩
  obtain ⟨k, recorded, loaded⟩ := load_recorded located found
  by_cases broken : ∃ fault, Breaks h path fault
  case pos =>
    obtain ⟨fault, breaks⟩ := broken
    rw [mappingIn_of_breaks breaks] at loaded
    refine ⟨_, _, _, rfl, loaded, ?_, fun unbroken => absurd breaks (unbroken fault), unmapped⟩
    intro other breaksToo
    cases (readData_broken_iff.mpr breaks).symm.trans (readData_broken_iff.mpr breaksToo)
    exact ⟨rfl, recorded.configs⟩
  have unbroken : ∀ fault, ¬ Breaks h path fault := fun fault breaks => broken ⟨fault, breaks⟩
  rw [mappingIn_of_unbroken unbroken, Step.ok_bind] at loaded
  by_cases fits : Fits (dataIn h path)
  case pos =>
    obtain ⟨c, read, same, reads⟩ := ofData_fits fits path (h.setting? validateVariable)
      (h.setting? compilerVariable)
    rw [read] at loaded
    exact ⟨_, _, _, rfl, loaded, fun fault breaks => absurd breaks (unbroken fault),
      fun _ => ⟨fun _ => ⟨_, c, rfl, by simp, same, reads⟩, fun misfit => absurd fits misfit⟩,
      unmapped⟩
  case neg =>
    obtain ⟨fault, wrong, tells⟩ := ofData_misfit fits path (h.setting? validateVariable)
      (h.setting? compilerVariable)
    rw [wrong] at loaded
    exact ⟨_, _, _, rfl, loaded, fun fault breaks => absurd breaks (unbroken fault),
      fun _ => ⟨fun fitting => absurd fitting fits,
        fun _ => ⟨fault, rfl, tells, recorded.configs⟩⟩, unmapped⟩

def hostWith (content : FileContent) (environment : List (String × String)) : Host where
  respond _ _ := .exited 0 "" ""
  environment
  files := { contents := [(["c.json"], content)] }

/-- A host with one file in YAML, where a word is stated to be a truth value. The table of the words
that are truth values has no such key. -/
def misstatedHost : Host where
  respond _ _ := .exited 0 "" ""
  readYaml
    | .text "emit: !!bool foo" => .error (.broken (.keyMissing "'foo'"))
    | _ => .error (.refused "")
  files := { contents := [(["c.yaml"], .text "emit: !!bool foo")] }

/-- The theorem at work: a file that is no text leaves all defaults, but for the level; what is
stated to be a truth value and is none stops the loading. -/
theorem load_settles_spoiled :
    (∃ h id c h', h = hostWith (.octets [0xFF]) [(validateVariable, "On")] ∧
      (locate (.text "c.json")).on h = (.ok "c.json", h) ∧ h.files.lookUp "c.json" = .ok true ∧
      (load (.text "c.json")).on h = (.ok id, h') ∧ h'.configs[id.index]? = some c ∧
      c.emission.fields = ({} : EmitSection).fields ∧ c.validation.level = .text "syntax") ∧
    ∃ h', (load (.text "c.yaml")).on misstatedHost = (.error (.keyMissing "'foo'"), h') := by
  constructor
  · have unlike : ∀ entries, readData (hostWith (.octets [0xFF]) [(validateVariable, "On")])
        "c.json" ≠ .ok (.dict entries) := by
      intro entries read
      cases read
    have located : (locate (.text "c.json")).on (hostWith (.octets [0xFF])
        [(validateVariable, "On")]) = (.ok "c.json", _) := rfl
    obtain ⟨data, outcome, h', same, loaded, _, gives, unread⟩ := load_settles located rfl
    obtain ⟨rfl, fits⟩ := unread unlike
    have unbroken : ∀ fault, ¬ Breaks (hostWith (.octets [0xFF]) [(validateVariable, "On")])
        "c.json" fault := by
      rintro fault ⟨yaml, _⟩
      cases yaml
    obtain ⟨id, c, rfl, held, _, reads⟩ := (gives unbroken).1 fits
    refine ⟨_, id, c, h', rfl, rfl, rfl, loaded, held, reads.emission, ?_⟩
    rw [reads.level]
    exact if_pos (by decide)
  · have located : (locate (.text "c.yaml")).on misstatedHost = (.ok "c.yaml", _) := rfl
    have breaks : Breaks misstatedHost "c.yaml" (.keyMissing "'foo'") :=
      ⟨by decide, _, rfl, rfl⟩
    obtain ⟨_, outcome, h', _, loaded, stops, _⟩ := load_settles located rfl
    obtain ⟨rfl, _⟩ := stops _ breaks
    exact ⟨h', loaded⟩

/-- Loading fails for a section that is a number. -/
theorem load_numeral_section :
    ∃ h', (load (.text "c.json")).on (hostWith (.text "\x7b\n  \"emit\": 5\n\x7d") []) =
      (.error (.lacks "'int' object" "get"), h') := by
  have written : (Json.write (.dictOf [("emit", .int 5)])).text =
      "\x7b\n  \"emit\": 5\n\x7d" := by decide
  have document : Json.Document (.dictOf [("emit", .int 5)]) :=
    .dict (by simp) (by simp [Json.Document.int])
  have read : readData (hostWith (.text (Json.write (.dictOf [("emit", .int 5)])).text) [])
      "c.json" = .ok (.dictOf [("emit", .int 5)]) := readData_document document (by decide) rfl
  have located : (locate (.text "c.json")).on (hostWith (.text "\x7b\n  \"emit\": 5\n\x7d") []) =
      (.ok "c.json", _) := rfl
  rw [written] at read
  obtain ⟨h₁, _, loaded⟩ := load_recorded located rfl
  unfold mappingIn dataIn at loaded
  rw [read] at loaded
  exact ⟨h₁, loaded⟩

end Config

end TypeScriptGen
