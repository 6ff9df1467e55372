import Formulary.Proofs.JournalSearch
import Formulary.Proofs.ShellRuns
/-!
# Listing the events of a project

The command that lists events prints an entry for each record that is found in the journal of a project,
or says that there is none, and changes nothing. It ends well unless a record has a level that is no text,
or a text is to be printed that is no sequence of characters.
-/

set_option autoImplicit false
namespace Formulary.CommandLine

/-- What is written for the entries of records. -/
def listing : List String → String
  | [] => echoed "No events found."
  | lines => String.join (lines.map echoed)

/-- Records that have an entry: the level is a text or missing, and what is printed of the record is no
text that is no sequence of characters. -/
structure Prints (r : Record) : Prop where
  level : ∀ d, Datum.field? "level" r = some d → ∃ level, d = .text level
  whole : ∀ name ∈ printedFields, ∀ d, Datum.field? name r = some d → d.isBroken = false

theorem recordLine_of_prints {r : Record} (h : Prints r) : ∃ line, recordLine r = .ok line := by
  have hwhole : (printedFields.any fun name => (Datum.field? name r).any Datum.isBroken) = false := by
    refine List.any_eq_false.2 fun name hname => ?_
    cases hfield : Datum.field? name r with
    | none => exact Bool.false_ne_true
    | some d => exact Bool.eq_false_iff.1 (h.whole name hname d hfield)
  unfold recordLine
  simp only [hwhole, Bool.false_eq_true, if_false]
  cases hlevel : Datum.field? "level" r with
  | none => exact ⟨_, rfl⟩
  | some d =>
    obtain ⟨level, rfl⟩ := h.level d hlevel
    exact ⟨_, rfl⟩

theorem map_recordLine {rs : List Record} (h : ∀ r ∈ rs, Prints r) :
    ∃ lines : List String, rs.map recordLine = lines.map .ok := by
  induction rs with
  | nil => exact ⟨[], rfl⟩
  | cons r rs ih =>
    obtain ⟨hr, hrs⟩ := List.forall_mem_cons.1 h
    obtain ⟨line, hline⟩ := recordLine_of_prints hr
    obtain ⟨lines, hlines⟩ := ih hrs
    refine ⟨line :: lines, ?_⟩
    rw [List.map_cons, hline, hlines, List.map_cons]

variable {time : Type}

theorem echoRecord_run {r : Record} {line : String} (h : recordLine r = .ok line) (sh : Shell time) :
    (echoRecord r : Action time Unit) sh = (.ok (), sh.write (echoed line)) := by
  have hline : (Action.orHalt .crashed (recordLine r) : Action time String) sh = (.ok line, sh) := by
    rw [Action.orHalt_run, h]
    rfl
  exact (Action.bind_ok _ hline).trans (Action.echo_run line sh)

theorem forM_echoRecord_run {rs : List Record} {lines : List String}
    (h : rs.map recordLine = lines.map .ok) (sh : Shell time) :
    (rs.forM echoRecord : Action time Unit) sh =
      (.ok (), sh.write (String.join (lines.map echoed))) := by
  induction rs generalizing lines sh with
  | nil =>
    obtain rfl := List.map_eq_nil_iff.1 h.symm
    exact congrArg _ sh.write_empty.symm
  | cons r rs ih =>
    rw [List.map_cons] at h
    obtain ⟨line, lines, rfl, hline, hlines⟩ := List.map_eq_cons_iff.1 h.symm
    rw [List.forM_eq_forM, List.forM_cons]
    rw [Action.bind_ok _ (echoRecord_run hline.symm sh)]
    have hrest := ih hlines.symm (sh.write (echoed line))
    rw [Shell.write_write] at hrest
    rw [List.map_cons, String.join_cons]
    exact hrest

/-- The entries of records, or the line that says there are none. -/
def listRecords : List Record → Action time Unit
  | [] => Action.echo "No events found."
  | rs => rs.forM echoRecord

theorem listRecords_run {rs : List Record} {lines : List String}
    (h : rs.map recordLine = lines.map .ok) (sh : Shell time) :
    (listRecords rs : Action time Unit) sh = (.ok (), sh.write (listing lines)) := by
  cases rs with
  | nil =>
    obtain rfl := List.map_eq_nil_iff.1 h.symm
    exact Action.echo_run _ sh
  | cons r rs =>
    obtain ⟨line, lines, rfl, -, -⟩ := List.map_eq_cons_iff.1 h.symm
    exact forM_echoRecord_run h sh

variable [Clock time] {lib : Libraries} {s : Session time} {dir : Path}

/-- The journal of a project as it is opened for a listing. -/
def listed (dir : Path) : Journal := ⟨Journal.pathIn dir, false, Project.defaultTailBytes⟩

theorem execute_events (lib : Libraries) {f : Filter} {rs : List Record}
    (hdir : s.files.isDirectory (dir ++ [Project.journalDirectory]) = true)
    (hread : (listed dir).read s.files f = .ok rs) :
    (Command.events dir f).execute lib ⟨s, ""⟩ = listRecords rs ⟨s, ""⟩ := by
  have hopen : Journal.openAt s.files dir false none = (s.files, .ok (listed dir)) :=
    Journal.openAt_of_isDirectory false none hdir
  have hjournal : (Action.ofSession (.crashed ∘ .file) fun s : Session time =>
      ((Journal.openAt s.files dir false none).2,
        { s with files := (Journal.openAt s.files dir false none).1 })) ⟨s, ""⟩ =
      (.ok (listed dir), ⟨s, ""⟩) :=
    Action.ofSession_run _ (s := s) (x := .ok (listed dir)) (by simp only [hopen])
  have hfound : (Action.orHalt (.crashed ∘ .journal) ((listed dir).read s.files f) :
      Action time (List Record)) ⟨s, ""⟩ = (.ok rs, ⟨s, ""⟩) := by
    rw [hread]
    rfl
  exact (Action.bind_ok _ hjournal).trans (Action.bind_ok _ hfound)

theorem execute_listing {f : Filter} {rs : List Record} {lines : List String}
    (hdir : s.files.isDirectory (dir ++ [Project.journalDirectory]) = true)
    (hread : (listed dir).read s.files f = .ok rs) (hlines : rs.map recordLine = lines.map .ok) :
    (Command.events dir f).execute lib ⟨s, ""⟩ = (.ok (), ⟨s, listing lines⟩) := by
  rw [execute_events lib hdir hread, listRecords_run hlines]
  unfold Shell.write
  rw [String.empty_append]

/-- Whatever text stands in the journal of a project, a reading gives the records that are found in it,
and the command prints an entry for each of them, if the formulas that are looked for have contexts to
look in, the levels are texts, and the other fields that are printed are no texts with halves of surrogate
pairs. -/
theorem events_listed (lib : Libraries) {text : Option String}
    (hdir : s.files.isDirectory (dir ++ [Project.journalDirectory]) = true)
    (hold : s.files.Holds (Journal.pathIn dir) text)
    (hdigits : ∀ l ∈ Text.splitLines (text.getD "").toList, Json.parse l ≠ .error .tooManyDigits)
    {f : Filter} (hcompares : ∀ l ∈ Text.splitLines (text.getD "").toList, ∀ r,
      Journal.recordOf? l = some r → f.Compares r) :
    (∀ j : Journal, j.path = Journal.pathIn dir →
      Journal.cutAt j.tailBytes (text.getD "") ≤ Journal.maxOffset →
        j.read s.files f = .ok (Journal.found j.tailBytes (text.getD "") f)) ∧
    (Journal.cutAt Project.defaultTailBytes (text.getD "") ≤ Journal.maxOffset →
      (∀ r ∈ Journal.found Project.defaultTailBytes (text.getD "") f, Prints r) →
      ∃ lines : List String,
        (Journal.found Project.defaultTailBytes (text.getD "") f).map recordLine = lines.map .ok ∧
          Outcome.ofCommand lib (.events dir f) s = ⟨0, listing lines, s.errors, none, s.files⟩) := by
  have hread (j : Journal) (hpath : j.path = Journal.pathIn dir)
      (hcut : Journal.cutAt j.tailBytes (text.getD "") ≤ Journal.maxOffset) :
      j.read s.files f = .ok (Journal.found j.tailBytes (text.getD "") f) :=
    Journal.read_of_compares (hpath ▸ hold) hcut hdigits hcompares
  refine ⟨hread, fun hcut hlevels => ?_⟩
  obtain ⟨lines, hlines⟩ := map_recordLine hlevels
  exact ⟨lines, hlines, ofCommand_of_ok (execute_listing hdir (hread (listed dir) rfl hcut) hlines)⟩

/-- A session in a project whose journal holds a text. -/
def inProject (text : String) : Session Rat :=
  .start (Journal.projectFiles (some text)) "2024-01-01T00:00:00.000000Z" 0

theorem isDirectory_inProject (text : String) :
    (inProject text).files.isDirectory (["p"] ++ [Project.journalDirectory]) = true := rfl

/-- Two lines that are no objects, and one that is. -/
def foreignText : String := "[]\n\x7b\n\x7b\"level\": \"info\"\x7d\n"

def infoRecord : Record := [(.text "level", .text "info")]

theorem splitLines_foreignText : Text.splitLines foreignText.toList =
    ["[]".toList, "\x7b".toList, "\x7b\"level\": \"info\"\x7d".toList] := by decide +kernel

theorem parse_info : Json.parse "\x7b\"level\": \"info\"\x7d".toList = .ok (.map infoRecord) := by
  cbv

theorem parse_foreignText : ∀ l ∈ Text.splitLines foreignText.toList,
    Json.parse l ≠ .error .tooManyDigits := by
  have hlist : Json.parse "[]".toList = .ok (.list []) := rfl
  have hbrace : Json.parse "\x7b".toList = .error .malformed := rfl
  rw [splitLines_foreignText, List.forall_mem_cons, List.forall_mem_cons, List.forall_mem_singleton,
    hlist, hbrace, parse_info]
  exact ⟨nofun, nofun, nofun⟩

theorem found_foreignText : Journal.found Project.defaultTailBytes foreignText .any = [infoRecord] := by
  have hlist : Journal.recordOf? "[]".toList = none := rfl
  have hbrace : Journal.recordOf? "\x7b".toList = none := rfl
  have hinfo : Journal.recordOf? "\x7b\"level\": \"info\"\x7d".toList = some infoRecord := by
    unfold Journal.recordOf?
    rw [parse_info]
  unfold Journal.found
  rw [Journal.tail_of_fit (by decide), splitLines_foreignText, List.filterMap_cons_none hlist,
    List.filterMap_cons_none hbrace, List.filterMap_cons_some hinfo]
  rfl

theorem events_listed_foreign :
    (Journal.inProject 2097152).read (inProject foreignText).files .any = .ok [infoRecord] ∧
    ∃ line, recordLine infoRecord = .ok line ∧ Outcome.ofCommand .plain (.events ["p"] .any)
      (inProject foreignText) = ⟨0, listing [line], "", none, (inProject foreignText).files⟩ := by
  obtain ⟨hread, hrun⟩ := events_listed .plain (f := .any) (isDirectory_inProject foreignText)
    (Journal.holds_projectFiles (some foreignText)) parse_foreignText fun _ _ _ _ => .inl rfl
  have hcut : Journal.cutAt Project.defaultTailBytes foreignText ≤ Journal.maxOffset := by decide
  have hrecords : (Journal.inProject 2097152).read (inProject foreignText).files .any =
      .ok (Journal.found Project.defaultTailBytes foreignText .any) :=
    hread (Journal.inProject Project.defaultTailBytes) rfl hcut
  have hlevels : ∀ r ∈ Journal.found Project.defaultTailBytes foreignText .any, Prints r := by
    rw [found_foreignText, List.forall_mem_singleton]
    refine ⟨fun d hd => ⟨"info", (Option.some.inj hd).symm⟩, fun name hname d hd => ?_⟩
    rw [infoRecord, Datum.field?] at hd
    split at hd
    · cases hd
      rfl
    · cases hd
  obtain ⟨lines, hlines, houtcome⟩ := hrun hcut hlevels
  rw [found_foreignText] at hrecords
  rw [Option.getD_some, found_foreignText] at hlines
  obtain ⟨line, rest, rfl, hline, hrest⟩ := List.map_eq_cons_iff.1 hlines.symm
  obtain rfl := List.map_eq_nil_iff.1 hrest
  exact ⟨hrecords, line, hline.symm, houtcome⟩

theorem records_of_line {text : String} {l : List Char} {r : Record}
    (hlines : Text.splitLines text.toList = [l]) (hparse : Json.parse l = .ok (.map r)) {tailBytes : Int}
    (hfit : (text.utf8ByteSize : Int) ≤ tailBytes) :
    (Journal.inProject tailBytes).records (inProject text).files = .ok [r] := by
  rw [Journal.records_of_fit (Journal.holds_projectFiles (some text)) hfit, hlines, Journal.recordsFrom,
    hparse]
  rfl

/-- A context and a level that are lists, and a message that is half of a surrogate pair. -/
def listContextText : String := "\x7b\"context\": []\x7d\n"
def listLevelText : String := "\x7b\"level\": []\x7d\n"
def halfMessageText : String := "\x7b\"message\": \"\\ud800\"\x7d\n"

theorem records_listContextText : (Journal.inProject 2097152).records (inProject listContextText).files =
    .ok [[(.text "context", .list [])]] := by
  have hlines : Text.splitLines listContextText.toList = ["\x7b\"context\": []\x7d".toList] := by
    decide +kernel
  have hfit : (listContextText.utf8ByteSize : Int) ≤ 2097152 := by decide +kernel
  exact records_of_line hlines (by cbv) hfit

theorem records_listLevelText : (listed ["p"]).records (inProject listLevelText).files =
    .ok [[(.text "level", .list [])]] := by
  have hlines : Text.splitLines listLevelText.toList = ["\x7b\"level\": []\x7d".toList] := by
    decide +kernel
  have hfit : (listLevelText.utf8ByteSize : Int) ≤ 2097152 := by decide +kernel
  exact records_of_line hlines (by cbv) hfit

theorem records_halfMessageText : (listed ["p"]).records (inProject halfMessageText).files =
    .ok [[(.text "message", .broken ⟨[.high 0], rfl, rfl⟩)]] := by
  have hlines : Text.splitLines halfMessageText.toList =
      ["\x7b\"message\": \"\\ud800\"\x7d".toList] := by decide +kernel
  have hfit : (halfMessageText.utf8ByteSize : Int) ≤ 2097152 := by decide +kernel
  exact records_of_line hlines (by cbv) hfit

/-- A context that is a list ends a search for a formula; a level that is a list, and a message that is no
sequence of characters, end the listing. -/
theorem events_listed_list :
    (Journal.inProject 2097152).read (inProject listContextText).files
      { Filter.any with formula := some (.text "x") } = .error .contextNotMap ∧
    Outcome.ofCommand .plain (.events ["p"] .any) (inProject listLevelText) =
      ⟨1, "", "", some .levelNotText, (inProject listLevelText).files⟩ ∧
    Outcome.ofCommand .plain (.events ["p"] .any) (inProject halfMessageText) =
      ⟨1, "", "", some .unencodable, (inProject halfMessageText).files⟩ := by
  refine ⟨(Journal.read_of_records records_listContextText _).trans rfl, ?_, ?_⟩
  · have hexecute := execute_events .plain (isDirectory_inProject listLevelText)
      ((Journal.read_of_records records_listLevelText .any).trans rfl)
    exact ofCommand_of_crashed (hexecute.trans rfl)
  · have hexecute := execute_events .plain (isDirectory_inProject halfMessageText)
      ((Journal.read_of_records records_halfMessageText .any).trans rfl)
    exact ofCommand_of_crashed (hexecute.trans rfl)

end Formulary.CommandLine
