import Formulary.Proofs.EventRecord
import Formulary.Proofs.FileChanges
import Formulary.Proofs.Outcomes
/-!
# What a settings file says

A value that a settings file gives an option is the value that the loaded settings have for it; the options
that the file does not give have their default values. Where there is no file, or none that can be read,
nothing is given.
-/

set_option autoImplicit false
namespace Formulary

namespace Datum

theorem sameKey_text_left {name : String} {k : Datum} :
    (text name).sameKey k = true ↔ k = .text name := by
  cases k with
  | text s =>
    change (name == s) = true ↔ _
    rw [beq_iff_eq, text.injEq, eq_comm]
  | _ => exact iff_of_false Bool.false_ne_true nofun

theorem sameKey_text_right {name : String} {k : Datum} :
    k.sameKey (text name) = true ↔ k = .text name := by
  cases k with
  | text s =>
    change (s == name) = true ↔ _
    rw [beq_iff_eq, text.injEq]
  | _ => exact iff_of_false Bool.false_ne_true nofun

theorem field?_append (name : String) (es fs : List (Datum × Datum)) :
    field? name (es ++ fs) = (field? name es).or (field? name fs) := by
  induction es with
  | nil => rfl
  | cons e es ih =>
    obtain ⟨k, v⟩ := e
    rw [List.cons_append]
    by_cases hk : k = .text name
    · subst hk
      rw [field?_cons_self, field?_cons_self]
      rfl
    · rw [field?_of_ne hk, field?_of_ne hk, ih]

theorem field?_putEntry_self (name : String) (v : Datum) (es : List (Datum × Datum)) :
    field? name (putEntry (.text name) v es) = some v := by
  induction es with
  | nil => exact field?_cons_self name v []
  | cons e es ih =>
    rw [putEntry]
    split
    · rename_i hsame
      rw [sameKey_text_right.1 hsame, field?_cons_self]
    · rename_i hother
      rw [field?_of_ne fun hk => hother (sameKey_text_right.2 hk), ih]

theorem field?_putEntry_of_ne {k : Datum} {name : String} (h : k ≠ .text name) (v : Datum)
    (es : List (Datum × Datum)) : field? name (putEntry k v es) = field? name es := by
  induction es with
  | nil => exact field?_of_ne h v []
  | cons e es ih =>
    obtain ⟨l, w⟩ := e
    rw [putEntry]
    by_cases hl : l = .text name
    · have hother : ¬ l.sameKey k = true := fun hsame => h (sameKey_text_left.1 (hl ▸ hsame))
      rw [if_neg hother, hl, field?_cons_self, field?_cons_self]
    · split
      · rw [field?_of_ne hl, field?_of_ne hl]
      · rw [field?_of_ne hl, field?_of_ne hl, ih]

/-- Of entries with one key the last one counts. -/
theorem field?_enterAll (name : String) (entries into : List (Datum × Datum)) :
    field? name (enterAll entries into) = (field? name entries.reverse).or (field? name into) := by
  induction entries generalizing into with
  | nil => rfl
  | cons e es ih =>
    obtain ⟨k, v⟩ := e
    have hstep : enterAll ((k, v) :: es) into = enterAll es (putEntry k v into) := rfl
    rw [hstep, ih, List.reverse_cons, field?_append, Option.or_assoc]
    congr 1
    by_cases hk : k = .text name
    · subst hk
      rw [field?_putEntry_self, field?_cons_self]
      rfl
    · rw [field?_putEntry_of_ne hk, field?_of_ne hk]
      rfl

/-- The entries of a map; other values have none. -/
def entries : Datum → List (Datum × Datum)
  | map es => es
  | _ => []

theorem entries_of_not_truthy {d : Datum} (h : d.truthy = false) : d.entries = [] := by
  cases d with
  | map es =>
    rw [truthy, Bool.not_eq_false'] at h
    exact List.isEmpty_iff.1 h
  | _ => rfl

end Datum

namespace Project
variable (read : DocumentReader) (t : FileTree) (dir : Path)

/-- What the settings file of a directory gives: the entries of the map in it. -/
def entries : List (Datum × Datum) :=
  match t.read (settingsPath dir) with
  | .error _ => []
  | .ok text =>
    match read text with
    | .error _ => []
    | .ok d => d.entries

/-- The value that the settings file gives an option. -/
def option? (name : String) : Option Datum := Datum.field? name (entries read t dir).reverse

/-- Whether events of the project are to be recorded: they are unless the option says no. -/
def enabled : Bool := ((option? read t dir "logging_enabled").getD (.bool true)).truthy

/-- Whether each event is to be forced to the disk. -/
def fsync : Bool := ((option? read t dir "logging_fsync").getD .null).truthy

/-- How many bytes a value lets be read: what it is as an integer, or the default. -/
def bytesOf (d : Datum) : Int := d.toInt.toOption.getD defaultTailBytes

/-- How many bytes of the journal are to be read. -/
def tailBytes : Int := bytesOf ((option? read t dir "logging_tail_bytes").getD .null)

/-- What loading the settings of a directory can come to. -/
inductive Loads : Except LoadError Settings → Prop
  | loaded {settings : Settings} (fields : ∀ name, settings.field? name =
      (option? read t dir name).or (Datum.field? name defaultSettings)) : Loads (.ok settings)
  | malformed (e : ConfigError) (nothing : entries read t dir = []) : Loads (.error (.config e))
  | unreadable (f : FileFault) (nothing : entries read t dir = []) : Loads (.error (.file f))
  | raised {text name : String} (file : t.read (settingsPath dir) = .ok text)
    (raises : read text = .error (.raised name)) : Loads (.error (.raised name))

variable {t dir}

theorem entries_of_read {text : String} (h : t.read (settingsPath dir) = .ok text) :
    entries read t dir = match read text with
      | .error _ => []
      | .ok d => d.entries := by
  unfold entries
  rw [h]

theorem entries_of_not_read {f : FileFault} (h : t.read (settingsPath dir) = .error f) :
    entries read t dir = [] := by
  unfold entries
  rw [h]

/-- A file that can be read is loaded. -/
theorem loadSettings_of_read {text : String} (h : t.read (settingsPath dir) = .ok text) :
    loadSettings read t dir = readSettings read (settingsPath dir) text := by
  have hexists := FileTree.pathExists_of_holds (FileTree.holds_of_read h)
  unfold loadSettings
  simp only [hexists, Option.isSome_some, h]
  rfl

/-- Without a file that can be read there is nothing but the default settings, or a fault of the file. -/
theorem loadSettings_of_not_read {f : FileFault} (h : t.read (settingsPath dir) = .error f) :
    loadSettings read t dir = .ok defaultSettings ∨ ∃ f, loadSettings read t dir = .error (.file f) := by
  unfold loadSettings
  simp only [h]
  split
  · exact .inr ⟨_, rfl⟩
  · exact .inl rfl
  · exact .inr ⟨f, rfl⟩

theorem Loads.defaults {read : DocumentReader} (h : entries read t dir = []) :
    Loads read t dir (.ok defaultSettings) := by
  refine .loaded fun name => ?_
  unfold option?
  rw [h]
  rfl

variable {read}

theorem loads_readSettings {text : String} (h : t.read (settingsPath dir) = .ok text) :
    Loads read t dir (readSettings read (settingsPath dir) text) := by
  have hentries := entries_of_read read h
  unfold readSettings
  cases hread : read text with
  | error e =>
    rw [hread] at hentries
    cases e with
    | malformed reason => exact .malformed _ hentries
    | raised name => exact .raised h hread
  | ok d =>
    rw [hread] at hentries
    simp only at hentries ⊢
    split
    · rename_i hempty
      rw [Datum.entries_of_not_truthy (by simpa using hempty)] at hentries
      exact .defaults hentries
    · split
      · rename_i es _
        refine .loaded fun name => ?_
        unfold option?
        rw [hentries]
        exact Datum.field?_enterAll name es defaultSettings
      · rename_i hnot
        refine .malformed _ (hentries.trans ?_)
        unfold Datum.entries
        split
        · exact absurd rfl (hnot _)
        · rfl

theorem loads (read : DocumentReader) (t : FileTree) (dir : Path) :
    Loads read t dir (loadSettings read t dir) := by
  cases hfile : t.read (settingsPath dir) with
  | ok text =>
    rw [loadSettings_of_read read hfile]
    exact loads_readSettings hfile
  | error f =>
    have hnothing := entries_of_not_read read hfile
    rcases loadSettings_of_not_read read hfile with hload | ⟨f, hload⟩
    · rw [hload]
      exact .defaults hnothing
    · rw [hload]
      exact .unreadable f hnothing

section
variable {settings : Settings}

theorem Loads.field (h : Loads read t dir (.ok settings)) (name : String) : settings.field name =
    ((option? read t dir name).or (Datum.field? name defaultSettings)).getD .null := by
  cases h with
  | loaded fields =>
    unfold Settings.field
    rw [fields]

theorem Loads.recordsEvents (h : Loads read t dir (.ok settings)) :
    settings.recordsEvents = enabled read t dir := by
  cases h with
  | loaded fields =>
    unfold Settings.recordsEvents enabled
    rw [fields]
    cases option? read t dir "logging_enabled" <;> rfl

theorem Loads.fsync (h : Loads read t dir (.ok settings)) :
    (settings.field "logging_fsync").truthy = fsync read t dir := by
  unfold Project.fsync
  rw [h.field]
  cases option? read t dir "logging_fsync" <;> rfl

theorem Loads.tailField (h : Loads read t dir (.ok settings)) : settings.field "logging_tail_bytes" =
    (option? read t dir "logging_tail_bytes").getD (.int defaultTailBytes) := by
  rw [h.field]
  cases option? read t dir "logging_tail_bytes" <;> rfl

theorem Loads.tailBytes (h : Loads read t dir (.ok settings)) :
    bytesOf (settings.field "logging_tail_bytes") = tailBytes read t dir := by
  unfold Project.tailBytes
  rw [h.tailField]
  cases option? read t dir "logging_tail_bytes" <;> rfl

end

theorem option?_of_nothing (h : entries read t dir = []) (name : String) : option? read t dir name = none := by
  unfold option?
  rw [h]
  rfl

theorem fsync_of_nothing (h : entries read t dir = []) : fsync read t dir = false := by
  unfold fsync
  rw [option?_of_nothing h]
  rfl

theorem tailBytes_of_nothing (h : entries read t dir = []) : tailBytes read t dir = defaultTailBytes := by
  unfold tailBytes
  rw [option?_of_nothing h]
  rfl

theorem enabled_of_nothing (h : entries read t dir = []) : enabled read t dir = true := by
  unfold enabled
  rw [option?_of_nothing h]
  rfl

/-- A project with a settings file and nothing else. -/
def withSettings (text : String) : FileTree :=
  .ofList [(["p"], .directory), (settingsPath ["p"], .file text)]

theorem read_withSettings (text : String) : (withSettings text).read (settingsPath ["p"]) = .ok text := rfl

/-- Whether the document sets a single option, to a value that is one of these. -/
def Sets (x : Except DocumentError Datum) (name : String) (is : Datum → Bool) : Bool :=
  match x with
  | .ok (.map [(.text k, v)]) => k == name && is v
  | _ => false

theorem exists_of_sets {x : Except DocumentError Datum} (name : String) (is : Datum → Bool)
    (h : Sets x name is = true) : ∃ v, x = .ok (.map [(.text name, v)]) ∧ is v = true := by
  unfold Sets at h
  split at h
  · rename_i k v
    obtain ⟨hname, hvalue⟩ := Bool.and_eq_true_iff.1 h
    rw [eq_of_beq hname]
    exact ⟨v, rfl, hvalue⟩
  · cases h

theorem option?_withSettings {text name : String} {v : Datum} (h : read text = .ok (.map [(.text name, v)]))
    (other : String) :
    option? read (withSettings text) ["p"] other = if name = other then some v else none := by
  unfold option?
  rw [entries_of_read read (read_withSettings text), h]
  rfl

end Project
end Formulary
