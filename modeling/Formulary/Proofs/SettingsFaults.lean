import Formulary.Proofs.CalculationOutcome
import Formulary.Proofs.ProjectOptions
import Formulary.Proofs.ShellRuns
/-!
# What is wrong with settings is reported

Settings give a configuration and variables, or an error with a message, which every command that works
on their project ends with. There are three causes for an error without one: a list, set or map stands in
place of the name of a preset, the value of a variable is too large, or an integer is too long. A settings
file whose reader ends with an error of its own has no message either.
-/

set_option autoImplicit false
namespace Formulary

namespace Settings

/-- The settings that configurations and variables are made of. -/
def fieldNames : List String := ["preset", "functions", "operators", "variables"]

/-- Whether settings hold the cause of an error. An error with a message needs none. -/
def Causes (s : Settings) : SettingsError → Prop
  | .config _ => True
  | .presetNotKey => (s.field "preset").truthy = true ∧ (s.field "preset").isKey = false
  | .variableTooLarge => ∃ entries, s.field "variables" = .map entries ∧
      ∃ e ∈ entries, e.2.toFloat = .error .tooLarge
  | .unshowable => ∃ name ∈ fieldNames, (s.field name).isShowable = false

/-- Settings without any cause of an error that has no message. -/
structure Regular (s : Settings) : Prop where
  preset : (s.field "preset").truthy = true → (s.field "preset").isKey = true
  inRange : ∀ entries, s.field "variables" = .map entries →
    ∀ e ∈ entries, e.2.toFloat ≠ .error .tooLarge
  showable : ∀ name ∈ fieldNames, (s.field name).isShowable = true

variable {s : Settings} {α β : Type}

/-- Whether the error of a step, if it has one, has its cause in the settings. -/
def Accounts (s : Settings) (x : Except SettingsError α) : Prop := ∀ e, x = .error e → s.Causes e

namespace Accounts

theorem ok (a : α) : s.Accounts (Except.ok a) := nofun

theorem error {e : SettingsError} (h : s.Causes e) : s.Accounts (.error e : Except SettingsError α) := by
  rintro _ ⟨⟩
  exact h

theorem bind {x : Except SettingsError α} {f : α → Except SettingsError β} (hx : s.Accounts x)
    (hf : ∀ a, x = .ok a → s.Accounts (f a)) : s.Accounts (x >>= f) := by
  cases x with
  | ok a => exact hf a rfl
  | error e => exact error (hx e rfl)

theorem ofConfig (x : Except ConfigError α) : s.Accounts (x.mapError .config) := by
  cases x with
  | ok a => exact ok a
  | error e => exact error trivial

theorem unshowable {name : String} (hname : name ∈ fieldNames) (h : ¬ (s.field name).isShowable = true) :
    s.Accounts (.error .unshowable : Except SettingsError α) :=
  error ⟨name, hname, Bool.eq_false_iff.2 h⟩

/-- Regular settings leave no error but those with a message. -/
theorem cases {x : Except SettingsError α} (hx : s.Accounts x) (hs : s.Regular) :
    (∃ a, x = .ok a) ∨ ∃ e, x = .error (.config e) := by
  cases x with
  | ok a => exact .inl ⟨a, rfl⟩
  | error e =>
    have hcause := hx e rfl
    cases e with
    | config e => exact .inr ⟨e, rfl⟩
    | presetNotKey =>
      obtain ⟨htruthy, hkey⟩ := hcause
      rw [hs.preset htruthy] at hkey
      cases hkey
    | variableTooLarge =>
      obtain ⟨entries, hentries, e, he, hlarge⟩ := hcause
      exact absurd hlarge (hs.inRange entries hentries e he)
    | unshowable =>
      obtain ⟨name, hname, hshow⟩ := hcause
      rw [hs.showable name hname] at hshow
      cases hshow

end Accounts

theorem accounts_preset : s.Accounts s.preset := by
  have hunknown : s.Accounts (if (s.field "preset").isShowable
      then .error (.config (.unknownPreset (s.field "preset"))) else .error .unshowable :
      Except SettingsError Preset) := by
    split
    · exact .error trivial
    · rename_i hshow
      exact .unshowable (by decide) hshow
  unfold preset
  simp only
  split
  · exact .ok _
  · rename_i htruthy
    split
    · rename_i hkey
      exact .error ⟨by simpa using htruthy, by simpa using hkey⟩
    · split
      · rename_i name _
        cases Preset.find? name with
        | none => exact hunknown
        | some p => exact .ok p
      · exact hunknown

theorem accounts_items? (d : Datum) (e : ConfigError) : s.Accounts (items? d e) := by
  unfold items?
  split
  · exact .ok _
  · exact .ok _
  · exact .error trivial

theorem accounts_names {name : String} (hname : name ∈ fieldNames) {e : ConfigError}
    {items : Option (List Datum)} (hitems : items? (s.field name) e = .ok items) (default : List String) :
    s.Accounts (names items default) := by
  unfold items? at hitems
  split at hitems
  · cases hitems
    exact .ok _
  · rename_i ds hfield
    cases hitems
    rw [names]
    split
    · exact .ok _
    · rename_i hshow
      refine .unshowable hname ?_
      rw [hfield, Datum.isShowable, Datum.areShowable_eq]
      exact hshow
  · cases hitems

theorem accounts_config (s : Settings) (c : Catalog) : s.Accounts (s.config c) := by
  refine accounts_preset.bind fun p _ => ?_
  refine (accounts_items? _ _).bind fun functions hfunctions => ?_
  refine (accounts_items? _ _).bind fun operators hoperators => ?_
  refine (accounts_names (by decide) hfunctions _).bind fun _ _ => ?_
  refine (accounts_names (by decide) hoperators _).bind fun _ _ => ?_
  exact .ofConfig _

theorem accounts_bindVariables {entries rest : List (Datum × Datum)}
    (hfield : s.field "variables" = .map entries) (hrest : ∀ e ∈ rest, e ∈ entries)
    (vs : Variables) : s.Accounts (bindVariables vs rest) := by
  have hshow {e : Datum × Datum} (he : e ∈ entries) (hno : ¬ (e.1.isShowable && e.2.isShowable) = true) :
      ¬ (s.field "variables").isShowable = true := by
    intro h
    rw [hfield] at h
    exact hno (Bool.and_eq_true_iff.2 (Datum.isShowable_of_mem_map h e he))
  induction rest generalizing vs with
  | nil => exact .ok vs
  | cons e rest ih =>
    obtain ⟨he, hmore⟩ := List.forall_mem_cons.1 hrest
    obtain ⟨name, value⟩ := e
    rw [bindVariables]
    split
    · split
      · exact ih hmore _
      · rename_i hname
        exact .unshowable (by decide) (hshow he fun h => hname (Bool.and_eq_true_iff.1 h).1)
    · rename_i hlarge
      exact .error ⟨entries, hfield, _, he, hlarge⟩
    · split
      · exact .error trivial
      · rename_i hno
        exact .unshowable (by decide) (hshow he hno)

theorem accounts_boundVariables (s : Settings) : s.Accounts s.boundVariables := by
  unfold boundVariables
  simp only
  split
  · exact .ok _
  · split
    · rename_i entries hfield
      exact accounts_bindVariables hfield (fun _ he => he) _
    · exact .error trivial

theorem floating_bindVariables {vs vs' : Variables} {entries : List (Datum × Datum)}
    (hvs : vs.bindings.Floating) (h : bindVariables vs entries = .ok vs') : vs'.bindings.Floating := by
  induction entries generalizing vs with
  | nil =>
    cases h
    exact hvs
  | cons e entries ih =>
    obtain ⟨name, value⟩ := e
    rw [bindVariables] at h
    split at h
    · split at h
      · refine ih ?_ h
        unfold Variables.insert
        split
        · exact hvs
        · exact hvs.insert _ _
      · cases h
    · cases h
    · split at h
      · cases h
      · cases h

theorem floating_boundVariables {vs : Variables} (h : s.boundVariables = .ok vs) : vs.bindings.Floating := by
  unfold boundVariables at h
  simp only at h
  split at h
  · cases h
    exact Bindings.floating_empty
  · split at h
    · exact floating_bindVariables Bindings.floating_empty h
    · cases h

/-- Regular settings give a configuration, and variables that are numbers, or errors with messages. -/
theorem Regular.cases {s : Settings} (hs : s.Regular) (c : Catalog) :
    ((∃ cfg, s.config c = .ok cfg) ∨ ∃ e, s.config c = .error (.config e)) ∧
    ((∃ vs, s.boundVariables = .ok vs ∧ vs.bindings.Floating) ∨ ∃ e, s.boundVariables = .error (.config e)) :=
  ⟨(s.accounts_config c).cases hs,
    (s.accounts_boundVariables.cases hs).imp_left fun ⟨vs, hvs⟩ => ⟨vs, hvs, floating_boundVariables hvs⟩⟩

end Settings

namespace Project

/-- The settings that a document makes of the default ones. -/
def merged (d : Datum) : Settings := Datum.enterAll d.entries defaultSettings

/-- Whether a document gives settings: it is a map, or has nothing in it. -/
def GivesSettings (d : Datum) : Prop := d.truthy = true → ∃ entries, d = .map entries

/-- What is wrong with the document in a settings file, if there is a message for it. -/
inductive Refuses (path : Path) (document : Except DocumentError Datum) : ConfigError → Prop
  | malformed {reason : String} (h : document = .error (.malformed reason)) :
    Refuses path document (.unreadable path.toText reason)
  | notMap {d : Datum} (h : document = .ok d) (hmap : ¬ GivesSettings d) :
    Refuses path document (.notMap path.toText)
  | config {d : Datum} {e : ConfigError} (h : document = .ok d) (hmap : GivesSettings d)
    (he : (merged d).config .elementary = .error (.config e)) : Refuses path document e
  | bindings {d : Datum} {cfg : Config} {e : ConfigError} (h : document = .ok d)
    (hmap : GivesSettings d) (hconfig : (merged d).config .elementary = .ok cfg)
    (he : (merged d).boundVariables = .error (.config e)) : Refuses path document e

variable {read : DocumentReader} {path : Path} {text : String} {d : Datum}

theorem readSettings_of_gives (h : read text = .ok d) (hmap : GivesSettings d) :
    readSettings read path text = .ok (merged d) := by
  unfold readSettings merged
  rw [h]
  simp only
  split
  · rename_i hempty
    rw [Datum.entries_of_not_truthy (by simpa using hempty)]
    rfl
  · rename_i htruthy
    obtain ⟨entries, rfl⟩ := hmap (by simpa using htruthy)
    rfl

theorem readSettings_of_not_gives (h : read text = .ok d) (hmap : ¬ GivesSettings d) :
    readSettings read path text = .error (.config (.notMap path.toText)) := by
  unfold GivesSettings at hmap
  push Not at hmap
  obtain ⟨htruthy, hmap⟩ := hmap
  unfold readSettings
  rw [h]
  simp only [htruthy]
  cases d with
  | map entries => exact absurd rfl (hmap entries)
  | _ => rfl

theorem readSettings_of_malformed {reason : String} (h : read text = .error (.malformed reason)) :
    readSettings read path text = .error (.config (.unreadable path.toText reason)) := by
  unfold readSettings
  rw [h]

/-- A document gives a configuration and variables, or there is a message for what is wrong with it, unless
its reader has an error of its own or its settings are not regular. -/
theorem refuses_or_gives (path : Path) {document : Except DocumentError Datum}
    (hraised : ∀ name, document ≠ .error (.raised name))
    (hregular : ∀ d, document = .ok d → (merged d).Regular) :
    (∃ d cfg vs, document = .ok d ∧ GivesSettings d ∧ (merged d).config .elementary = .ok cfg ∧
      (merged d).boundVariables = .ok vs) ∨ ∃ e, Refuses path document e := by
  cases document with
  | error e =>
    cases e with
    | malformed reason => exact .inr ⟨_, .malformed rfl⟩
    | raised name => exact absurd rfl (hraised name)
  | ok d =>
    by_cases hmap : GivesSettings d
    · obtain ⟨hconfig, hvariables⟩ := (hregular d rfl).cases .elementary
      rcases hconfig with ⟨cfg, hcfg⟩ | ⟨e, he⟩
      · rcases hvariables with ⟨vs, hvs, -⟩ | ⟨e, he⟩
        · exact .inl ⟨d, cfg, vs, rfl, hmap, hcfg, hvs⟩
        · exact .inr ⟨e, .bindings rfl hmap hcfg he⟩
      · exact .inr ⟨e, .config rfl hmap he⟩
    · exact .inr ⟨_, .notMap rfl hmap⟩

end Project

namespace CommandLine

/-- The project that a command calculates in. -/
def Command.project? : Command → Option Path
  | .eval _ _ project _ | .functions project | .markup _ _ _ project | .tokens _ project _
  | .vars _ project => project
  | .events _ _ | .init _ => none

variable {time : Type} [Clock time] {lib : Libraries} {dir : Path} {text : String} {e : ConfigError}
  {c : Command}

/-- A command on a project ends as the loading of the project does. -/
theorem execute_of_halt {sh sh' : Shell time} {halt : Halt} (hc : c.project? = some dir)
    (h : (loadProject lib (some dir) : Action time (Config × Bindings)) sh = (.error halt, sh')) :
    c.execute lib sh = (.error halt, sh') := by
  cases c with
  | eval formula assignments project json =>
    obtain rfl : project = some dir := hc
    exact Action.bind_error _ h
  | functions project =>
    obtain rfl : project = some dir := hc
    exact Action.bind_error _ h
  | markup formula display clean project =>
    obtain rfl : project = some dir := hc
    exact Action.bind_error _ h
  | tokens formula project json =>
    obtain rfl : project = some dir := hc
    exact Action.bind_error _ h
  | vars formula project =>
    obtain rfl : project = some dir := hc
    exact Action.bind_error _ h
  | events project filter => cases hc
  | init project => cases hc

theorem loadProject_of_load_error (sh : Shell time) {error : LoadError}
    (h : Project.loadSettings lib.read sh.session.files dir = .error error) :
    (loadProject lib (some dir) : Action time (Config × Bindings)) sh = (.error (loadHalt lib error), sh) := by
  have hfiles : (get : Action time (Shell time)) sh = (.ok sh, sh) := rfl
  exact (Action.bind_ok _ hfiles).trans (Action.bind_error _ (Action.orHalt_of_error h _ sh))

theorem loadProject_of_refuses (sh : Shell time)
    (hfile : sh.session.files.read (Project.settingsPath dir) = .ok text)
    (h : Project.Refuses (Project.settingsPath dir) (lib.read text) e) :
    (loadProject lib (some dir) : Action time (Config × Bindings)) sh =
      (.error (.failed (e.message lib.faultText)), sh) := by
  have hfiles : (get : Action time (Shell time)) sh = (.ok sh, sh) := rfl
  have hload := Project.loadSettings_of_read lib.read hfile
  cases h with
  | malformed h =>
    rw [Project.readSettings_of_malformed h] at hload
    exact loadProject_of_load_error sh hload
  | notMap h hmap =>
    rw [Project.readSettings_of_not_gives h hmap] at hload
    exact loadProject_of_load_error sh hload
  | config h hmap he =>
    rw [Project.readSettings_of_gives h hmap] at hload
    refine (Action.bind_ok _ hfiles).trans ((Action.bind_ok _ (Action.orHalt_of_ok hload _ sh)).trans ?_)
    exact Action.bind_error _ (Action.orHalt_of_error he _ sh)
  | bindings h hmap hconfig he =>
    rw [Project.readSettings_of_gives h hmap] at hload
    refine (Action.bind_ok _ hfiles).trans ((Action.bind_ok _ (Action.orHalt_of_ok hload _ sh)).trans ?_)
    refine (Action.bind_ok _ (Action.orHalt_of_ok hconfig _ sh)).trans ?_
    exact Action.bind_error _ (Action.orHalt_of_error he _ sh)

/-- Regular settings give a configuration, and variables that are numbers, or errors with messages. So does
every settings file with regular settings, unless its reader ends with an error of its own; and every
command that calculates in a project reports an error with a message and does nothing else. -/
theorem settings_reported (lib : Libraries) :
    (∀ s : Settings, s.Regular →
      (∀ c : Catalog, (∃ cfg, s.config c = .ok cfg) ∨ ∃ e, s.config c = .error (.config e)) ∧
      ((∃ vs, s.boundVariables = .ok vs ∧ vs.bindings.Floating) ∨ ∃ e, s.boundVariables = .error (.config e))) ∧
    ∀ (sn : Session time) (dir : Path) (text : String),
      sn.files.read (Project.settingsPath dir) = .ok text →
      ((∀ name, lib.read text ≠ .error (.raised name)) →
        (∀ d, lib.read text = .ok d → (Project.merged d).Regular) →
        (∃ s cfg vs, Project.loadSettings lib.read sn.files dir = .ok s ∧
          s.config .elementary = .ok cfg ∧ s.boundVariables = .ok vs) ∨
        ∃ e, Project.Refuses (Project.settingsPath dir) (lib.read text) e) ∧
      ∀ e, Project.Refuses (Project.settingsPath dir) (lib.read text) e →
        ∀ c : Command, c.project? = some dir → Outcome.ofCommand lib c sn = ⟨1, "", sn.errors ++
          Text.withoutControlSequences ("Error: " ++ e.message lib.faultText ++ "\n"), none, sn.files⟩ := by
  refine ⟨fun s hs => ⟨fun c => (hs.cases c).1, (hs.cases .elementary).2⟩, ?_⟩
  intro sn dir text hfile
  refine ⟨fun hraised hregular => ?_, fun e he c hc => ?_⟩
  · refine (Project.refuses_or_gives _ hraised hregular).imp_left ?_
    rintro ⟨d, cfg, vs, hread, hmap, hcfg, hvs⟩
    have hload := Project.loadSettings_of_read lib.read hfile
    rw [Project.readSettings_of_gives hread hmap] at hload
    exact ⟨_, cfg, vs, hload, hcfg, hvs⟩
  · exact ofCommand_of_failed (execute_of_halt hc (loadProject_of_refuses ⟨sn, ""⟩ hfile he))

/-- A session in a project with a settings file. -/
def withSettings (text : String) : Session Rat :=
  .start (Project.withSettings text) "2024-01-01T00:00:00.000000Z" 0

theorem read_withSettings (text : String) :
    (withSettings text).files.read (Project.settingsPath ["p"]) = .ok text := rfl

theorem read_unknownPreset :
    Libraries.plain.read "preset: basic\n" = .ok (.map [(.text "preset", .text "basic")]) := by
  rw [Libraries.read_plain]
  obtain ⟨v, hread, hv⟩ := Project.exists_of_sets "preset" (·.sameKey (.text "basic"))
    (show Project.Sets (Yaml.reader "preset: basic\n") _ _ = true by decide +kernel)
  rw [hread, Datum.sameKey_text_right.1 hv]

theorem read_list : Libraries.plain.read "- a\n" = .ok (.list [.text "a"]) := by
  rw [Libraries.read_plain]
  cbv

theorem regular_unknownPreset : (Project.merged (.map [(.text "preset", .text "basic")])).Regular where
  preset _ := rfl
  inRange entries hentries e he := by
    cases hentries
    cases he
  showable := by decide

theorem config_unknownPreset : (Project.merged (.map [(.text "preset", .text "basic")])).config .elementary =
    .error (.config (.unknownPreset (.text "basic"))) := rfl

theorem loadSettings_unknownPreset :
    Project.loadSettings Libraries.plain.read (withSettings "preset: basic\n").files ["p"] =
      .ok (Project.merged (.map [(.text "preset", .text "basic")])) := by
  rw [Project.loadSettings_of_read _ (read_withSettings "preset: basic\n")]
  exact Project.readSettings_of_gives read_unknownPreset fun _ => ⟨_, rfl⟩

theorem refuses_unknownPreset : Project.Refuses (Project.settingsPath ["p"])
    (Libraries.plain.read "preset: basic\n") (.unknownPreset (.text "basic")) :=
  .config read_unknownPreset (fun _ => ⟨_, rfl⟩) config_unknownPreset

theorem refuses_list : Project.Refuses (Project.settingsPath ["p"]) (Libraries.plain.read "- a\n")
    (.notMap "p/formulacalc.yaml") := by
  refine .notMap read_list fun hgives => ?_
  obtain ⟨entries, hentries⟩ := hgives rfl
  cases hentries

/-- A settings file with a preset that does not exist, and one with a list. -/
theorem settings_reported_wrong :
    (∃ e, (Project.merged (.map [(.text "preset", .text "basic")])).config .elementary =
      .error (.config e)) ∧
    (∃ e, Project.Refuses (Project.settingsPath ["p"]) (Libraries.plain.read "preset: basic\n") e) ∧
    Outcome.ofCommand .plain (.functions (some ["p"])) (withSettings "preset: basic\n") =
      ⟨1, "", "Error: Unknown preset: 'basic'. Available: ['extended', 'standard']\n", none,
        (withSettings "preset: basic\n").files⟩ ∧
    Outcome.ofCommand .plain (.functions (some ["p"])) (withSettings "- a\n") =
      ⟨1, "", "Error: p/formulacalc.yaml must contain a mapping\n", none, (withSettings "- a\n").files⟩ := by
  obtain ⟨hregular, hfiles⟩ := @settings_reported Rat _ .plain
  have hconfig := (hregular _ regular_unknownPreset).1 .elementary
  have hgives := (hfiles (withSettings "preset: basic\n") ["p"] _ (read_withSettings _)).1
    (fun name => by rw [read_unknownPreset]; exact nofun)
    (fun d hd => by
      rw [read_unknownPreset, Except.ok.injEq] at hd
      exact hd ▸ regular_unknownPreset)
  have houtcome (text : String) := (hfiles (withSettings text) ["p"] text (read_withSettings text)).2
  have hpreset := houtcome _ _ refuses_unknownPreset (.functions (some ["p"])) rfl
  have hlist := houtcome _ _ refuses_list (.functions (some ["p"])) rfl
  refine ⟨hconfig.resolve_left ?_, hgives.resolve_left ?_, ?_, ?_⟩
  · rintro ⟨cfg, hcfg⟩
    rw [config_unknownPreset] at hcfg
    cases hcfg
  · rintro ⟨s, cfg, vs, hload, hcfg, -⟩
    rw [loadSettings_unknownPreset, Except.ok.injEq] at hload
    rw [← hload, config_unknownPreset] at hcfg
    cases hcfg
  · have hmessage : "Error: " ++ (ConfigError.unknownPreset (.text "basic")).message
        Libraries.plain.faultText ++ "\n" =
        "Error: Unknown preset: 'basic'. Available: ['extended', 'standard']\n" := by decide +kernel
    rw [hmessage, Text.withoutControlSequences_of_not_mem (by decide +kernel)] at hpreset
    exact hpreset
  · have hmessage : "Error: " ++ (ConfigError.notMap "p/formulacalc.yaml").message
        Libraries.plain.faultText ++ "\n" = "Error: p/formulacalc.yaml must contain a mapping\n" := by
      decide +kernel
    rw [hmessage, Text.withoutControlSequences_of_not_mem (by decide +kernel)] at hlist
    exact hlist

/-- An integer beyond the range of numbers. -/
def largeInteger : Int := tenTo 400

theorem toFloat_largeInteger : (Datum.int largeInteger).toFloat = .error .tooLarge := by
  have hinfinite : Binary64.isInfinite (Binary64.ofInt largeInteger) = true := by decide +kernel
  unfold Datum.toFloat Numeral.ofInt
  exact if_pos hinfinite

theorem boundVariables_of_tooLarge {value : Datum} (h : value.toFloat = .error .tooLarge) (name : Datum) :
    Settings.boundVariables [(.text "variables", .map [(name, value)])] = .error .variableTooLarge := by
  change Settings.bindVariables .empty [(name, value)] = _
  rw [Settings.bindVariables, h]

/-- A list in place of the name of a preset, a variable that is too large, and a day that no month has, have
no message. -/
theorem settings_reported_not :
    Settings.config [(.text "preset", .list [.text "standard"])] .elementary = .error .presetNotKey ∧
    Settings.boundVariables [(.text "variables", .map [(.text "g", .int largeInteger)])] =
      .error .variableTooLarge ∧
    Outcome.ofCommand .plain (.functions (some ["p"])) (withSettings "a: 2024-13-45\n") =
      ⟨1, "", "", some (.load (.raised "ValueError")), (withSettings "a: 2024-13-45\n").files⟩ := by
  refine ⟨rfl, boundVariables_of_tooLarge toFloat_largeInteger _, ?_⟩
  have hread : Yaml.reader "a: 2024-13-45\n" = .error (.raised "ValueError") := by cbv
  have hload : Project.loadSettings Libraries.plain.read (withSettings "a: 2024-13-45\n").files ["p"] =
      .error (.raised "ValueError") := by
    rw [Project.loadSettings_of_read _ (read_withSettings "a: 2024-13-45\n"), Libraries.read_plain]
    unfold Project.readSettings
    rw [hread]
  have hrun := loadProject_of_load_error ⟨withSettings "a: 2024-13-45\n", ""⟩ hload
  exact ofCommand_of_crashed (execute_of_halt rfl hrun)

end CommandLine
end Formulary
