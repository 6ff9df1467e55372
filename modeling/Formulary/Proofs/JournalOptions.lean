import Formulary.Proofs.JournalRouting
import Formulary.Proofs.SettingsFaults
/-!
# Options of a journal

Attaching a project never fails over the options of its journal, whatever values its settings file gives
them: how much of the journal is read is what its option says as an integer, or else the default. There are
two exceptions, infinite numbers and collections with integers that are too long to be written in the
warning.
-/

set_option autoImplicit false
namespace Formulary

namespace Datum

/-- The only values that are too large for an integer are infinite numbers. -/
theorem toInt_eq_tooLarge {d : Datum} (h : d.toInt = .error .tooLarge) :
    ∃ x, d = .float x ∧ Binary64.isInfinite x = true := by
  cases d with
  | float x =>
    refine ⟨x, rfl, ?_⟩
    rw [toInt] at h
    unfold Binary64.isInfinite
    split at h
    · cases h
    · rename_i hshape
      rw [hshape]
    · cases h
  | text s =>
    rw [toInt] at h
    split at h
    · cases h
    · cases h
  | bytes bs =>
    rw [toInt] at h
    split at h
    · cases h
    · cases h
  | null | bool | int | broken | date | moment | list | tuple | set | map => cases h

end Datum

namespace Session
variable {time : Type} [Clock time] {s : Session time} {read : DocumentReader} {dir : Path}
  {settings : Settings}

/-- Values of the option that a project is attached with: no infinite numbers, and nothing that cannot be
shown but integers. -/
structure Usable (d : Datum) : Prop where
  finite : ∀ x, d = .float x → Binary64.isInfinite x = false
  shown : d.isShowable = true ∨ ∃ n, d = .int n

theorem tailOption_ok (h : Usable (settings.field "logging_tail_bytes")) : ∃ n last errors,
    s.tailOption settings = (.ok n, { s with lastWarning := last, errors := errors }) ∧
      n.getD Project.defaultTailBytes = Project.bytesOf (settings.field "logging_tail_bytes") := by
  unfold tailOption Project.bytesOf
  generalize settings.field "logging_tail_bytes" = d at h ⊢
  split
  · exact ⟨none, s.lastWarning, s.errors, rfl, rfl⟩
  · split
    · rename_i n hn
      exact ⟨some n, s.lastWarning, s.errors, rfl, by rw [hn]; rfl⟩
    · rename_i hlarge
      obtain ⟨x, rfl, hinfinite⟩ := Datum.toInt_eq_tooLarge hlarge
      rw [h.finite x rfl] at hinfinite
      cases hinfinite
    · rename_i e hne he
      rw [he]
      rcases h.shown with hshown | ⟨n, rfl⟩
      · rw [if_pos hshown]
        obtain ⟨last, errors, hwarn⟩ := s.warn_cases ("ignoring logging_tail_bytes=" ++ d.shown)
        exact ⟨none, last, errors, by rw [hwarn], rfl⟩
      · cases he

theorem attachWith_disabled (h : settings.recordsEvents = false) :
    s.attachWith dir settings = (.ok (), s.detach) := by
  unfold attachWith
  rw [h]
  rfl

theorem attachWith_enabled (h : settings.recordsEvents = true)
    (husable : Usable (settings.field "logging_tail_bytes")) {files : FileTree}
    (hmade : s.files.makeDirectories (dir ++ [Project.journalDirectory]) = (files, .ok ())) :
    ∃ last errors, s.attachWith dir settings = (.ok (), { s with
      files := files
      journal := some ⟨Journal.pathIn dir, (settings.field "logging_fsync").truthy,
        Project.bytesOf (settings.field "logging_tail_bytes")⟩
      lastWarning := last
      errors := errors }) := by
  obtain ⟨n, last, errors, htail, hn⟩ := tailOption_ok (s := s) husable
  refine ⟨last, errors, ?_⟩
  unfold attachWith
  rw [h, htail]
  simp only [Journal.openAt, hmade, ← hn]
  rfl

theorem attachWith_of_tailOption (h : settings.recordsEvents = true) {e : AttachError}
    (htail : s.tailOption settings = (.error e, s)) : s.attachWith dir settings = (.error e, s) := by
  unfold attachWith
  rw [h, htail]
  rfl

theorem tailOption_tooLarge (h : (settings.field "logging_tail_bytes").toInt = .error .tooLarge) :
    s.tailOption settings = (.error .tailTooLarge, s) := by
  unfold tailOption
  split
  · rename_i hnull
    rw [hnull] at h
    cases h
  · rw [h]

theorem tailOption_unshowable {items : List Datum}
    (hfield : settings.field "logging_tail_bytes" = .list items)
    (hitems : (Datum.list items).isShowable = false) :
    s.tailOption settings = (.error .unshowable, s) := by
  unfold tailOption
  rw [hfield]
  simp only [Datum.toInt, hitems, Bool.false_eq_true, if_false]

/-- Settings that are attached in place of those of a project agree with what the settings file says. -/
structure Agrees (read : DocumentReader) (t : FileTree) (dir : Path) (settings : Settings) : Prop where
  recordsEvents : settings.recordsEvents = Project.enabled read t dir
  fsync : (settings.field "logging_fsync").truthy = Project.fsync read t dir
  tailBytes : Project.bytesOf (settings.field "logging_tail_bytes") = Project.tailBytes read t dir
  usable : (∀ d, Project.option? read t dir "logging_tail_bytes" = some d → Usable d) →
    Usable (settings.field "logging_tail_bytes")

theorem usable_int (n : Int) : Usable (.int n) := ⟨nofun, .inr ⟨n, rfl⟩⟩

theorem usable_null : Usable .null := ⟨nofun, .inl rfl⟩

theorem agrees_of_nothing {t : FileTree} (h : Project.entries read t dir = []) : Agrees read t dir [] where
  recordsEvents := (Project.enabled_of_nothing h).symm
  fsync := (Project.fsync_of_nothing h).symm
  tailBytes := (Project.tailBytes_of_nothing h).symm
  usable _ := usable_null

/-- Unless the reader of the settings file ends with an error, settings are attached that agree with it. -/
theorem attach_agrees (hread : ∀ text, s.files.read (Project.settingsPath dir) = .ok text →
    ∀ name, read text ≠ .error (.raised name)) :
    ∃ settings last errors, Agrees read s.files dir settings ∧ s.attach read dir =
      { s with lastWarning := last, errors := errors }.attachWith dir settings := by
  have hloads := Project.loads read s.files dir
  obtain ⟨last, errors, hwarn⟩ := s.warn_cases "could not read logging options; using defaults"
  unfold attach
  generalize Project.loadSettings read s.files dir = loaded at hloads ⊢
  cases hloads with
  | loaded fields =>
    rename_i settings
    have hloads : Project.Loads read s.files dir (.ok settings) := .loaded fields
    refine ⟨settings, s.lastWarning, s.errors,
      ⟨hloads.recordsEvents, hloads.fsync, hloads.tailBytes, fun husable => ?_⟩, rfl⟩
    rw [hloads.tailField]
    cases hoption : Project.option? read s.files dir "logging_tail_bytes" with
    | none => exact usable_int _
    | some d => exact husable d hoption
  | malformed e nothing | unreadable f nothing =>
    refine ⟨[], last, errors, agrees_of_nothing nothing, ?_⟩
    simp only [hwarn]
  | raised file raises => exact absurd raises (hread _ file _)

/-- Attaching a project whose journal can have a directory succeeds. If its settings file lets events be
recorded, they go to its journal from then on, of which as many bytes are read as the option says or the
default; the option must be no infinite number, and nothing with an integer that is too long to be shown. If
it does not, events go nowhere. -/
theorem attach_options (hread : ∀ text, s.files.read (Project.settingsPath dir) = .ok text →
    ∀ name, read text ≠ .error (.raised name)) :
    (Project.enabled read s.files dir = false → ∃ last errors, s.attach read dir =
      (.ok (), { s with journal := none, lastWarning := last, errors := errors })) ∧
    (Project.enabled read s.files dir = true →
      (∀ d, Project.option? read s.files dir "logging_tail_bytes" = some d → Usable d) →
      ∀ files, s.files.makeDirectories (dir ++ [Project.journalDirectory]) = (files, .ok ()) →
        ∃ last errors, s.attach read dir = (.ok (), { s with
          files := files
          journal := some ⟨Journal.pathIn dir, Project.fsync read s.files dir,
            Project.tailBytes read s.files dir⟩
          lastWarning := last
          errors := errors })) := by
  obtain ⟨settings, last, errors, hagrees, hattach⟩ := attach_agrees hread
  rw [hattach, ← hagrees.recordsEvents, ← hagrees.fsync, ← hagrees.tailBytes]
  refine ⟨fun h => ⟨last, errors, attachWith_disabled h⟩, fun h husable files hmade => ?_⟩
  exact attachWith_enabled h (hagrees.usable husable) hmade

theorem makeDirectories_withSettings (text : String) :
    (Project.withSettings text).makeDirectories (["p"] ++ [Project.journalDirectory]) =
      ((Project.withSettings text).set ["p", "logs"] .directory, .ok ()) := by
  rw [FileTree.makeDirectories]
  rfl

theorem files_withSettings (text : String) :
    (CommandLine.withSettings text).files = Project.withSettings text := rfl

theorem attach_options_plenty : ∃ s' : Session Rat,
    (CommandLine.withSettings "logging_tail_bytes: plenty\n").attach Yaml.reader ["p"] = (.ok (), s') ∧
      s'.journal = some ⟨["p", "logs", "events.ndjson"], false, 2097152⟩ := by
  generalize htext : "logging_tail_bytes: plenty\n" = text
  obtain ⟨v, hread, hv⟩ := Project.exists_of_sets "logging_tail_bytes" (·.sameKey (.text "plenty"))
    (show Project.Sets (Yaml.reader text) _ _ = true by
      rw [← htext]
      decide +kernel)
  obtain rfl := Datum.sameKey_text_right.1 hv
  have hoption := Project.option?_withSettings hread
  have hfile : ∀ text', (CommandLine.withSettings text).files.read (Project.settingsPath ["p"]) = .ok text' →
      ∀ name, Yaml.reader text' ≠ .error (.raised name) := by
    intro text' hfile
    rw [files_withSettings, Project.read_withSettings, Except.ok.injEq] at hfile
    rw [← hfile, hread]
    exact nofun
  obtain ⟨-, henabled⟩ := attach_options hfile
  rw [files_withSettings] at henabled
  unfold Project.enabled Project.fsync Project.tailBytes at henabled
  simp only [hoption] at henabled
  obtain ⟨last, errors, hattach⟩ := henabled rfl
    (by
      rintro d ⟨⟩
      exact ⟨nofun, .inl rfl⟩)
    _ (makeDirectories_withSettings text)
  exact ⟨_, hattach, rfl⟩

/-- An infinite number, and a list with an integer that is too long to be shown, are no options that can
be ignored. -/
theorem attach_options_not :
    (CommandLine.withSettings "logging_tail_bytes: .inf\n").attach Yaml.reader ["p"] =
      (.error .tailTooLarge, CommandLine.withSettings "logging_tail_bytes: .inf\n") ∧
    threeProjects.attachWith ["p"] [(.text "logging_tail_bytes", .list [.int (tenTo Numeral.maxDigits)])] =
      (.error .unshowable, threeProjects) := by
  constructor
  · generalize htext : "logging_tail_bytes: .inf\n" = text
    obtain ⟨v, hread, hv⟩ := Project.exists_of_sets "logging_tail_bytes"
      (fun v => decide (v.toInt = .error .tooLarge))
      (show Project.Sets (Yaml.reader text) _ _ = true by
        rw [← htext]
        decide +kernel)
    have hload : Project.loadSettings Yaml.reader (CommandLine.withSettings text).files ["p"] =
        .ok (Datum.enterAll [(.text "logging_tail_bytes", v)] Project.defaultSettings) := by
      rw [Project.loadSettings_of_read _ (CommandLine.read_withSettings text)]
      unfold Project.readSettings
      rw [hread]
      rfl
    unfold attach
    rw [hload]
    exact attachWith_of_tailOption rfl (tailOption_tooLarge (of_decide_eq_true hv))
  · refine attachWith_of_tailOption rfl (tailOption_unshowable rfl (Bool.eq_false_iff.2 fun hshown => ?_))
    have hshort := Datum.isShowable_int.1 (Datum.isShowable_of_mem_list hshown _ List.mem_cons_self)
    rw [Int.natAbs_natCast] at hshort
    exact Nat.lt_irrefl _ hshort

end Session
end Formulary
