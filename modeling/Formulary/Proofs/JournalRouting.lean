import Formulary.Proofs.ProjectOptions
import Formulary.Proofs.SessionRuns
/-!
# Where events go

Along a run every event is added to the journal of the directory that is attached when it is recorded, and
to nothing else. Attaching and detaching change no file.
-/

set_option autoImplicit false
namespace Formulary

namespace Journal

/-- The text of a file behind which the lines of events are added. Without any event there may be no
file. -/
def extended (text : Option String) : List Event → Option String
  | [] => text
  | e :: es => some (text.getD "" ++ textOf (e :: es))

theorem extended_append (text : Option String) (es es' : List Event) :
    extended (extended text es) es' = extended text (es ++ es') := by
  cases es with
  | nil => rfl
  | cons e es =>
    cases es' with
    | nil => rw [List.append_nil, extended]
    | cons e' es' =>
      rw [extended, extended, List.cons_append, extended, Option.getD_some, ← List.cons_append,
        textOf_append, String.append_assoc]

/-- Whether the journal of a directory lies at a place. -/
def isAt (t : FileTree) (place : Path) (dir : Path) : Bool :=
  (t.locate (pathIn dir)).toOption == some place

/-- Of events, each with the directory it is sent to, those whose journal lies at a place. -/
def sentTo (t : FileTree) (place : Path) (es : List (Option Path × Event)) : List Event :=
  (es.filter fun e => e.1.any (isAt t place)).map Prod.snd

theorem sentTo_append (t : FileTree) (place : Path) (es es' : List (Option Path × Event)) :
    sentTo t place (es ++ es') = sentTo t place es ++ sentTo t place es' := by
  unfold sentTo
  rw [List.filter_append, List.map_append]

theorem sentTo_singleton (t : FileTree) (place dir : Path) (e : Event) :
    sentTo t place [(some dir, e)] = if isAt t place dir then [e] else [] := by
  unfold sentTo
  rw [List.filter_cons, Option.any_some]
  split <;> rfl

theorem isAt_of_locate {t : FileTree} {dir there : Path} (h : t.locate (pathIn dir) = .ok there)
    (place : Path) : isAt t place dir = decide (place = there) := by
  unfold isAt
  rw [h, Bool.eq_iff_iff, beq_iff_eq, decide_eq_true_eq, eq_comm]
  exact Option.some_inj

end Journal

namespace Session
variable {time : Type} [Clock time] {s : Session time} {read : DocumentReader}

theorem tailOption_cases (s : Session time) (settings : Settings) : ∃ last errors,
    (s.tailOption settings).2 = { s with lastWarning := last, errors := errors } := by
  unfold tailOption
  split
  · exact ⟨s.lastWarning, s.errors, rfl⟩
  · split
    · exact ⟨s.lastWarning, s.errors, rfl⟩
    · exact ⟨s.lastWarning, s.errors, rfl⟩
    · split
      · exact s.warn_cases _
      · exact ⟨s.lastWarning, s.errors, rfl⟩

/-- What attaching a directory can come to: the result, and the journal from then on. -/
inductive Attaches (before : Option Journal) (dir : Path) (enabled : Bool) :
    Except AttachError Unit → Option Journal → Prop
  | refused (e : AttachError) : Attaches before dir enabled (.error e) before
  | disabled (h : enabled = false) : Attaches before dir enabled (.ok ()) none
  | opened (h : enabled = true) {j : Journal} (path : j.path = Journal.pathIn dir) :
    Attaches before dir enabled (.ok ()) (some j)

theorem addsDirectories_openAt (t : FileTree) (dir : Path) (fsync : Bool) (tailBytes : Option Int) :
    FileTree.AddsDirectories t (Journal.openAt t dir fsync tailBytes).1 :=
  FileTree.addsDirectories_makeDirectories t _

theorem attachWith_cases (s : Session time) (dir : Path) (settings : Settings) :
    Attaches s.journal dir settings.recordsEvents
      (s.attachWith dir settings).1 (s.attachWith dir settings).2.journal ∧
    FileTree.AddsDirectories s.files (s.attachWith dir settings).2.files := by
  obtain ⟨last, errors, htail⟩ := s.tailOption_cases settings
  unfold attachWith
  generalize s.tailOption settings = read at htail ⊢
  obtain ⟨result, s'⟩ := read
  subst htail
  split
  · rename_i hdisabled
    exact ⟨.disabled (by simpa using hdisabled), .refl _⟩
  · rename_i henabled
    cases result with
    | error e => exact ⟨.refused e, .refl _⟩
    | ok tailBytes =>
      have hadds := addsDirectories_openAt s.files dir (settings.field "logging_fsync").truthy tailBytes
      simp only
      split
      · rename_i hopen
        rw [hopen] at hadds
        exact ⟨.refused _, hadds⟩
      · rename_i hopen
        rw [hopen] at hadds
        exact ⟨.opened (by simpa using henabled) (Journal.openAt_cases hopen).2, hadds⟩

/-- Whether a project is attached with a journal depends on what its settings file says. -/
theorem attach_cases (s : Session time) (read : DocumentReader) (dir : Path) :
    Attaches s.journal dir (Project.enabled read s.files dir) (s.attach read dir).1
      (s.attach read dir).2.journal ∧
    FileTree.AddsDirectories s.files (s.attach read dir).2.files := by
  obtain ⟨last, errors, hwarn⟩ := s.warn_cases "could not read logging options; using defaults"
  have hdefault := { s with lastWarning := last, errors := errors }.attachWith_cases dir []
  have hloads := Project.loads read s.files dir
  unfold attach
  rw [hwarn]
  generalize Project.loadSettings read s.files dir = loaded at hloads ⊢
  cases hloads with
  | loaded fields =>
    rename_i settings
    rw [← (Project.Loads.loaded fields).recordsEvents]
    exact s.attachWith_cases dir settings
  | malformed e nothing | unreadable f nothing =>
    rw [Project.enabled_of_nothing nothing]
    exact hdefault
  | raised => exact ⟨.refused _, .refl _⟩

theorem journal_emit (s : Session time) (e : Event) : (s.emit e).journal = s.journal := by
  obtain ⟨_, _, _, hemit⟩ := s.emit_cases e
  rw [hemit]

def event? (s : Session time) : Action time → Option Event
  | .emit e => some e
  | .inform kind message context => some (.info s.stamp kind message context)
  | .calculate r =>
    match r.formula.formulaText with
    | .error _ => none
    | .ok text =>
      (r.cfg.calculate text r.bindings).toOption.map (.ofCalculation s.stamp r.formula r.bindings)
  | _ => none

/-- The directory that events are sent to after an action, if there is one: attaching a project changes it
unless the project is refused. -/
def attachedAfter (s : Session time) (read : DocumentReader) (before : Option Path) :
    Action time → Option Path
  | .attach dir =>
    match (s.attach read dir).1 with
    | .error _ => before
    | .ok () => if Project.enabled read s.files dir then some dir else none
  | .detach => none
  | _ => before

/-- Whether events are sent to the journal of this directory. -/
def SendsTo (s : Session time) (dir : Option Path) : Prop :=
  s.journal.map Journal.path = dir.map Journal.pathIn

theorem act_calculate (s : Session time) (read : DocumentReader) (r : Request) : s.act read (.calculate r) =
    ((s.event? (.calculate r)).map s.emit).getD s := by
  unfold act calculate event?
  simp only
  cases r.formula.formulaText with
  | error => rfl
  | ok text =>
    simp only
    cases r.cfg.calculate text r.bindings with
    | error => rfl
    | ok c =>
      simp only
      split <;> rfl

theorem act_of_event? {a : Action time} {e : Event} (h : s.event? a = some e) (dir : Option Path) :
    s.act read a = s.emit e ∧ s.attachedAfter read dir a = dir := by
  cases a with
  | attach | detach | wait | setErrors => cases h
  | emit | inform =>
    cases h
    exact ⟨rfl, rfl⟩
  | calculate r =>
    rw [act_calculate, h]
    exact ⟨rfl, rfl⟩

theorem act_of_no_event (read : DocumentReader) {a : Action time} (h : s.event? a = none) :
    FileTree.AddsDirectories s.files (s.act read a).files := by
  cases a with
  | attach dir => exact (s.attach_cases read dir).2
  | detach | wait | setErrors => exact .refl _
  | emit | inform => cases h
  | calculate r =>
    rw [act_calculate, h]
    exact .refl _

theorem SendsTo.act {before : Option Path} (h : s.SendsTo before) (a : Action time) :
    (s.act read a).SendsTo (s.attachedAfter read before a) := by
  cases he : s.event? a with
  | some e =>
    obtain ⟨hact, hdir⟩ := act_of_event? he before
    unfold SendsTo
    rw [hact, hdir, journal_emit]
    exact h
  | none =>
    cases a with
    | attach dir =>
      have hcases := (s.attach_cases read dir).1
      unfold SendsTo Session.act attachedAfter
      simp only
      generalize (s.attach read dir).1 = result, (s.attach read dir).2.journal = after,
        Project.enabled read s.files dir = enabled at hcases ⊢
      cases hcases with
      | refused => exact h
      | disabled hdisabled =>
        rw [hdisabled]
        rfl
      | opened henabled hpath =>
        rw [henabled, Option.map_some, hpath]
        rfl
    | detach => rfl
    | wait | setErrors => exact h
    | emit | inform => cases he
    | calculate r =>
      unfold SendsTo
      rw [act_calculate, he]
      exact h

/-- Whether the journal that an event is sent to can be written, whenever an action records one. -/
def Writes (s : Session time) (read : DocumentReader) : List (Action time) → Prop
  | [] => True
  | a :: as =>
    (∀ e j, s.event? a = some e → s.journal = some j → ∃ t, j.write s.files e.prepared = .ok t) ∧
      (s.act read a).Writes read as

def attachedIn (s : Session time) (read : DocumentReader) (before : Option Path) :
    List (Action time) → Option Path
  | [] => before
  | a :: as => (s.act read a).attachedIn read (s.attachedAfter read before a) as

/-- The events that actions record, each with the directory it is sent to. -/
def emissions (s : Session time) (read : DocumentReader) (before : Option Path) :
    List (Action time) → List (Option Path × Event)
  | [] => []
  | a :: as =>
    ((s.event? a).map (before, ·)).toList ++ (s.act read a).emissions read (s.attachedAfter read before a) as

theorem textAt_act {before : Option Path} (h : s.SendsTo before) {a : Action time}
    (hwrites : ∀ e j, s.event? a = some e → s.journal = some j →
      ∃ t, j.write s.files e.prepared = .ok t) :
    FileTree.Grows s.files (s.act read a).files ∧ ∀ t, FileTree.Grows (s.act read a).files t → ∀ place,
      (s.act read a).files.textAt place = Journal.extended (s.files.textAt place)
        ((Journal.sentTo t place ((s.event? a).map (before, ·)).toList).map Event.prepared) := by
  cases he : s.event? a with
  | none =>
    have hadds := act_of_no_event read he
    exact ⟨hadds.grows, fun t _ place => hadds.textAt place⟩
  | some e =>
    rw [(act_of_event? he before).1]
    unfold SendsTo at h
    unfold emit
    cases hj : s.journal with
    | none =>
      rw [hj] at h
      have hnone : before = none := by simpa using h.symm
      subst hnone
      exact ⟨.refl _, fun t _ place => rfl⟩
    | some j =>
      obtain ⟨files, hwrite⟩ := hwrites e j he hj
      rw [hj] at h
      obtain ⟨dir, rfl, hpath⟩ : ∃ dir, before = some dir ∧ Journal.pathIn dir = j.path := by
        simpa using h.symm
      simp only [hwrite]
      obtain ⟨-, happend⟩ := Journal.write_cases hwrite
      obtain ⟨place, hplace, hgrows, htext⟩ := FileTree.append_cases happend
      rw [← hpath] at hplace
      -- the journal is still found at its place in every later tree
      refine ⟨hgrows, fun t ht other => ?_⟩
      have hsent : Journal.sentTo t other ((some e).map (some dir, ·)).toList =
          if other = place then [e] else [] := by
        rw [Option.map_some, Option.toList_some, Journal.sentTo_singleton,
          Journal.isAt_of_locate ((hgrows.trans ht).locate hplace)]
        simp only [decide_eq_true_eq]
      rw [htext, hsent]
      split
      · rw [List.map_singleton, Journal.extended, Journal.textOf_singleton]
      · rfl

theorem textAt_run {before : Option Path} {actions : List (Action time)} (h : s.SendsTo before)
    (hwrites : s.Writes read actions) : FileTree.Grows s.files (s.run read actions).files ∧
      (s.run read actions).SendsTo (s.attachedIn read before actions) ∧
      ∀ place, (s.run read actions).files.textAt place = Journal.extended (s.files.textAt place)
        ((Journal.sentTo (s.run read actions).files place (s.emissions read before actions)).map
          Event.prepared) := by
  -- the rest of the run starts with other texts and another directory, so both are left open
  induction actions generalizing s before with
  | nil => exact ⟨.refl _, h, fun _ => rfl⟩
  | cons a as ih =>
    obtain ⟨hfirst, hrest⟩ := hwrites
    obtain ⟨hgrows, hsends, htext⟩ := ih (h.act a) hrest
    obtain ⟨hgrows', htext'⟩ := textAt_act h hfirst
    refine ⟨hgrows'.trans hgrows, hsends, fun place => ?_⟩
    rw [run, emissions, htext, htext' _ hgrows, Journal.sentTo_append, List.map_append,
      Journal.extended_append]

/-- In a session that has begun without a journal, and whose journals can be written, each file holds
after every run of actions what it held before, and then a line for each event that was recorded while
a directory was attached whose journal it is, in the order of the events. Afterwards the journal is that
of the directory attached last; one that is refused changes nothing in this. -/
theorem run_routes (hstart : s.journal = none) {actions : List (Action time)}
    (hwrites : s.Writes read actions) :
    (∀ place, (s.run read actions).files.textAt place = Journal.extended (s.files.textAt place)
      ((Journal.sentTo (s.run read actions).files place (s.emissions read none actions)).map
        Event.prepared)) ∧
    (s.run read actions).journal.map Journal.path = (s.attachedIn read none actions).map Journal.pathIn ∧
    ∀ dir e, ((s.run read actions).attach read dir).1 = .error e →
      ((s.run read actions).attach read dir).2.journal = (s.run read actions).journal := by
  have hsends : s.SendsTo none := congrArg (Option.map Journal.path) hstart
  obtain ⟨-, hjournal, htext⟩ := textAt_run hsends hwrites
  refine ⟨htext, hjournal, fun dir e herror => ?_⟩
  have hcases := ((s.run read actions).attach_cases read dir).1
  rw [herror] at hcases
  generalize ((s.run read actions).attach read dir).2.journal = after at hcases ⊢
  cases hcases with
  | refused => rfl

/-- Three projects: one with a journal of its own, one whose settings let nothing be recorded, and one in
which a file stands in the way of the journal. -/
def threeProjects : Session Rat :=
  .start (.ofList [(["p"], .directory), (["p", "logs"], .directory), (["q"], .directory),
      (["q", "formulacalc.yaml"], .file "logging_enabled: false\n"), (["r"], .directory),
      (["r", "logs"], .file "")])
    "2024-01-01T00:00:00.000000Z" 0

def attachedFirst : Session Rat :=
  { threeProjects with journal := some (.inProject Project.defaultTailBytes) }

def visit : List (Action Rat) :=
  [.attach ["q"], .emit Journal.loadedEvent, .attach ["p"], .attach ["r"], .emit Journal.failedEvent,
    .detach, .emit Journal.loadedEvent]

/-- A project without a settings file is attached as soon as its journal has a directory. -/
theorem attach_defaults {s : Session time} {dir : Path}
    (h : Project.loadSettings read s.files dir = .ok Project.defaultSettings) : s.attach read dir =
      match Journal.openAt s.files dir false (some Project.defaultTailBytes) with
      | (files, .error f) => (.error (.file f), { s with files })
      | (files, .ok j) => (.ok (), { s with files, journal := some j }) := by
  have htail : s.tailOption Project.defaultSettings = (.ok (some Project.defaultTailBytes), s) := rfl
  unfold attach attachWith
  rw [h]
  simp only [htail]
  rfl

theorem attach_disabled : threeProjects.attach Yaml.reader ["q"] = (.ok (), threeProjects) := by
  obtain ⟨v, hread, hv⟩ := Project.exists_of_sets "logging_enabled" (fun v => !v.truthy)
    (show Project.Sets (Yaml.reader "logging_enabled: false\n") _ _ = true by decide +kernel)
  have hfile : threeProjects.files.read (Project.settingsPath ["q"]) = .ok "logging_enabled: false\n" :=
    rfl
  have hload : Project.loadSettings Yaml.reader threeProjects.files ["q"] =
      .ok (Datum.enterAll [(.text "logging_enabled", v)] Project.defaultSettings) := by
    rw [Project.loadSettings_of_read _ hfile]
    unfold Project.readSettings
    rw [hread]
    rfl
  have hrecords : Settings.recordsEvents
      (Datum.enterAll [(.text "logging_enabled", v)] Project.defaultSettings) = v.truthy := rfl
  unfold attach attachWith
  rw [hload]
  simp only [hrecords, hv, if_true]
  rfl

theorem attach_first : threeProjects.attach Yaml.reader ["p"] = (.ok (), attachedFirst) := by
  have hdir : threeProjects.files.isDirectory (["p"] ++ [Project.journalDirectory]) = true := rfl
  rw [attach_defaults rfl, Journal.openAt_of_isDirectory _ _ hdir]
  rfl

theorem attach_refused : attachedFirst.attach Yaml.reader ["r"] =
    (.error (.file ⟨.alreadyExists, ["r", "logs"]⟩), attachedFirst) := by
  have hmade : attachedFirst.files.makeDirectories (["r"] ++ [Project.journalDirectory]) =
      (attachedFirst.files, .error ⟨.alreadyExists, ["r", "logs"]⟩) := by
    rw [FileTree.makeDirectories]
    rfl
  rw [attach_defaults rfl]
  simp only [Journal.openAt, hmade]
  rfl

theorem attachedAfter_disabled : threeProjects.attachedAfter Yaml.reader none (.attach ["q"]) = none := by
  have hcases := (threeProjects.attach_cases Yaml.reader ["q"]).1
  rw [attach_disabled] at hcases
  have hdisabled : Project.enabled Yaml.reader threeProjects.files ["q"] = false := by
    cases hcases with
    | disabled h => exact h
  unfold attachedAfter
  simp only [attach_disabled, hdisabled]
  rfl

theorem attachedAfter_first :
    threeProjects.attachedAfter Yaml.reader none (.attach ["p"]) = some ["p"] := by
  unfold attachedAfter
  simp only [attach_first]
  rfl

theorem attachedAfter_refused : attachedFirst.attachedAfter Yaml.reader (some ["p"]) (.attach ["r"]) =
    some ["p"] := by
  unfold attachedAfter
  simp only [attach_refused]

theorem holds_attachedFirst : attachedFirst.files.Holds (Journal.pathIn ["p"]) none :=
  ⟨["p", "logs", "events.ndjson"], rfl, rfl⟩

theorem acts_visit : threeProjects.act Yaml.reader (.attach ["q"]) = threeProjects ∧
    threeProjects.act Yaml.reader (.emit Journal.loadedEvent) = threeProjects ∧
    threeProjects.act Yaml.reader (.attach ["p"]) = attachedFirst ∧
    attachedFirst.act Yaml.reader (.attach ["r"]) = attachedFirst :=
  ⟨congrArg Prod.snd attach_disabled, rfl, congrArg Prod.snd attach_first, congrArg Prod.snd attach_refused⟩

theorem writes_visit : threeProjects.Writes Yaml.reader visit := by
  obtain ⟨hdisabled, hnowhere, hfirst, hrefused⟩ := acts_visit
  have hlegible : Journal.failedEvent.prepared.Legible := Journal.legible_failedEvent
  obtain ⟨files, hwrite, -⟩ := Journal.write_of_holds (j := .inProject Project.defaultTailBytes)
    holds_attachedFirst hlegible
  unfold visit
  simp only [Writes, hdisabled, hnowhere, hfirst, hrefused]
  refine ⟨fun e j he _ => ?_, fun e j _ hj => ?_, fun e j he _ => ?_, fun e j he _ => ?_,
    fun e j he hj => ?_, fun e j he _ => ?_, fun e j _ hj => ?_, trivial⟩
  · cases he
  · cases hj
  · cases he
  · cases he
  · -- the only event that is sent anywhere
    cases he
    cases hj
    exact ⟨files, hwrite⟩
  · cases he
  · cases hj

theorem emissions_visit : threeProjects.emissions Yaml.reader none visit = [(none, Journal.loadedEvent),
    (some ["p"], Journal.failedEvent), (none, Journal.loadedEvent)] := by
  obtain ⟨hdisabled, hnowhere, hfirst, hrefused⟩ := acts_visit
  have hkept : threeProjects.attachedAfter Yaml.reader none (.emit Journal.loadedEvent) = none := rfl
  unfold visit
  simp only [emissions, hdisabled, hnowhere, hfirst, hrefused, attachedAfter_disabled, hkept,
    attachedAfter_first, attachedAfter_refused]
  rfl

/-- Of three events only the one that is recorded while the first project is attached is in a journal;
attaching the last project in between is refused and changes nothing. -/
theorem run_routes_visit :
    (threeProjects.run Yaml.reader visit).files.textAt ["p", "logs", "events.ndjson"] =
      some (Journal.textOf [Journal.failedEvent.prepared]) ∧
    (threeProjects.run Yaml.reader visit).files.textAt ["q", "logs", "events.ndjson"] = none ∧
    (attachedFirst.attach Yaml.reader ["r"]).2.journal = attachedFirst.journal := by
  obtain ⟨htext, -⟩ := run_routes (s := threeProjects) rfl writes_visit
  have hsends : threeProjects.SendsTo none := rfl
  obtain ⟨hgrows, -⟩ := textAt_run hsends writes_visit
  have hat := Journal.isAt_of_locate (hgrows.locate (p := Journal.pathIn ["p"]) rfl)
  refine ⟨?_, ?_, ?_⟩
  · rw [htext, emissions_visit]
    unfold Journal.sentTo
    simp only [List.filter_cons, Option.any_some, Option.any_none, hat]
    rfl
  · rw [htext, emissions_visit]
    unfold Journal.sentTo
    simp only [List.filter_cons, Option.any_some, Option.any_none, hat]
    rfl
  · rw [attach_refused]

end Session
end Formulary
