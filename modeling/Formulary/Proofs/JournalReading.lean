import Formulary.Proofs.EventRecord
import Formulary.Proofs.FileChanges
import Formulary.Proofs.JournalText
import Formulary.Proofs.Outcomes
/-!
# What is written to a journal is read from it

A journal that is begun in a project directory gives back every event that any journal of the directory
has written, newest first, and of these the ones that are asked for. An event that is added to a text
of any other origin is read as the newest one if the text ends with a line feed.
-/

set_option autoImplicit false
namespace Formulary

namespace Text

theorem isLineEnd_of_isPlainChar {c : Char} (h : IsPlainChar c) : isLineEnd c = false := by
  obtain ⟨hlow, hhigh⟩ := h
  unfold isLineEnd
  simp only [List.contains_eq_mem, List.mem_cons, List.not_mem_nil, or_false, decide_eq_false_iff_not]
  omega

end Text

namespace Event

theorem currentVersion_lt : currentVersion.natAbs < tenTo Numeral.maxDigits := by
  unfold currentVersion tenTo
  rw [Int.natAbs_one, Nat.pow_eq]
  exact Nat.one_lt_pow (by decide) (by decide)

end Event

namespace Filter

theorem select_any (r : Record) (rs : List Record) :
    any.select any.count (r :: rs) = .ok (r :: rs.take 199) := by
  have hall := select_map (f := any) (g := id) (p := fun _ => true) (n := any.count)
    (fun a (_ : a ∈ r :: rs) => rfl) (by decide)
  rw [List.map_id, List.map_id, List.filter_true] at hall
  exact hall

end Filter

namespace Journal

/-- The characters of an event's line, without the line feed behind it. -/
def lineChars (e : Event) : List Char := (Json.line e.record).toList

/-- What a journal holds when it holds the lines of these events only. -/
def textOf (es : List Event) : String := String.ofList (es.flatMap fun e => lineChars e ++ ['\n'])

theorem lineOf_eq (e : Event) : lineOf e = String.ofList (lineChars e ++ ['\n']) := by
  rw [String.ofList_append]
  unfold lineOf lineChars
  rw [String.ofList_toList]

theorem textOf_singleton (e : Event) : textOf [e] = lineOf e := by
  unfold textOf
  rw [List.flatMap_singleton, lineOf_eq]

theorem textOf_append (es es' : List Event) : textOf (es ++ es') = textOf es ++ textOf es' := by
  unfold textOf
  rw [List.flatMap_append, String.ofList_append]

theorem textOf_concat (es : List Event) (e : Event) : textOf (es ++ [e]) = textOf es ++ lineOf e := by
  rw [textOf_append, textOf_singleton]

theorem isLineEnd_lineChars (e : Event) : ∀ c ∈ lineChars e, Text.isLineEnd c = false :=
  fun c hc => Text.isLineEnd_of_isPlainChar (Json.isPlainChar_line e.record c hc)

theorem splitLines_textOf (es : List Event) :
    Text.splitLines (textOf es).toList = es.map lineChars := by
  unfold textOf
  rw [String.toList_ofList]
  induction es with
  | nil => rfl
  | cons e es ih =>
    rw [List.flatMap_cons, List.append_assoc, List.singleton_append,
      Text.splitLines_line (isLineEnd_lineChars e), ih, List.map_cons]

theorem parse_lineChars {e : Event} (h : e.Legible) :
    Json.parse (lineChars e) = .ok (.map e.written) := Event.parse_record h

theorem recordOf?_lineChars {e : Event} (h : e.Legible) : recordOf? (lineChars e) = some e.written := by
  unfold recordOf?
  rw [parse_lineChars h]

theorem parse_lineChars_ne {e : Event} (h : e.Legible) :
    Json.parse (lineChars e) ≠ .error .tooManyDigits := by
  rw [parse_lineChars h]
  exact fun herror => by cases herror

theorem recordsFrom_events {es : List Event} (h : ∀ e ∈ es, e.Legible) :
    recordsFrom [] (es.map lineChars) = .ok (es.reverse.map Event.written) := by
  have hdigits : ∀ l ∈ es.map lineChars, Json.parse l ≠ .error .tooManyDigits :=
    List.forall_mem_map.2 fun e he => parse_lineChars_ne (h e he)
  have hrecords : (es.map lineChars).filterMap recordOf? = es.map Event.written := by
    rw [List.filterMap_map]
    exact (List.filterMap_congr fun e he => recordOf?_lineChars (h e he)).trans
      (congrFun List.filterMap_eq_map' _)
  rw [recordsFrom_eq hdigits, hrecords, List.append_nil, List.map_reverse]

theorem write_of_legible {e : Event} (h : e.Legible) (j : Journal) (t : FileTree) :
    j.write t e = (t.append j.path (lineOf e)).mapError .file := by
  unfold write
  rw [Event.dumpError?_eq_none.2 h]

theorem write_cases {j : Journal} {t t' : FileTree} {e : Event} (h : j.write t e = .ok t') :
    e.Legible ∧ t.append j.path (lineOf e) = .ok t' := by
  have he : e.Legible := by
    refine Event.dumpError?_eq_none.1 (Option.eq_none_iff_forall_ne_some.2 fun error herror => ?_)
    unfold write at h
    rw [herror] at h
    cases h
  rw [write_of_legible he] at h
  exact ⟨he, ok_of_mapError h⟩

/-- What a journal can be written to holds the line of an event behind what it held before. -/
theorem write_of_holds {j : Journal} {t : FileTree} {old : Option String} (hold : t.Holds j.path old)
    {e : Event} (h : e.Legible) : ∃ t', j.write t e = .ok t' ∧
      t'.Holds j.path (some (old.getD "" ++ lineOf e)) := by
  obtain ⟨t', happend, hholds, -⟩ := FileTree.append_of_holds hold (lineOf e)
  refine ⟨t', ?_, hholds⟩
  rw [write_of_legible h, happend]
  rfl

/-- The path of the journal of a project directory. -/
def pathIn (dir : Path) : Path := dir ++ [Project.journalDirectory] ++ [fileName]

/-- What can become of the files while journals of a project directory are opened and write events, which
are listed in their order. -/
inductive History (dir : Path) (t : FileTree) : List Event → FileTree → Prop
  | start : History dir t [] t
  | opened {es : List Event} {t₁ t₂ : FileTree} {fsync : Bool} {tailBytes : Option Int} {j : Journal}
    (h : History dir t es t₁) (hopen : openAt t₁ dir fsync tailBytes = (t₂, .ok j)) :
    History dir t es t₂
  | written {es : List Event} {t₁ t₂ : FileTree} {j : Journal} {e : Event} (h : History dir t es t₁)
    (hpath : j.path = pathIn dir) (hwrite : j.write t₁ e = .ok t₂) : History dir t (es ++ [e]) t₂

theorem openAt_cases {t t' : FileTree} {dir : Path} {fsync : Bool} {tailBytes : Option Int}
    {j : Journal} (h : openAt t dir fsync tailBytes = (t', .ok j)) :
    t.makeDirectories (dir ++ [Project.journalDirectory]) = (t', .ok ()) ∧ j.path = pathIn dir := by
  unfold openAt at h
  simp only [Prod.mk.injEq] at h
  obtain ⟨rfl, hj⟩ := h
  obtain ⟨u, hu, rfl⟩ := ok_of_map hj
  exact ⟨Prod.ext rfl hu, rfl⟩

theorem openAt_of_isDirectory {t : FileTree} {dir : Path} (fsync : Bool) (tailBytes : Option Int)
    (h : t.isDirectory (dir ++ [Project.journalDirectory]) = true) : openAt t dir fsync tailBytes =
      (t, .ok ⟨pathIn dir, fsync, tailBytes.getD Project.defaultTailBytes⟩) := by
  unfold openAt
  simp only [FileTree.makeDirectories_of_isDirectory h]
  rfl

/-- Whether the file of a path holds the lines of these events and nothing else; without events there
may be no file. -/
def Lists (t : FileTree) (p : Path) (es : List Event) : Prop :=
  ∃ text, t.Holds p text ∧ text.getD "" = textOf es ∧ (text = none → es = [])

theorem lists_nil {t : FileTree} {p : Path} (h : t.Holds p none) : Lists t p [] :=
  ⟨none, h, rfl, fun _ => rfl⟩

theorem lists_concat {t : FileTree} {p : Path} {text : Option String} {es : List Event}
    (htext : text.getD "" = textOf es) {e : Event}
    (h : t.Holds p (some (text.getD "" ++ lineOf e))) : Lists t p (es ++ [e]) := by
  refine ⟨_, h, ?_, fun hnone => by cases hnone⟩
  rw [Option.getD_some, htext, textOf_concat]

theorem Lists.cases {t : FileTree} {p : Path} {es : List Event} (h : Lists t p es) :
    t.Holds p none ∧ es = [] ∨ t.Holds p (some (textOf es)) := by
  obtain ⟨text, hholds, htext, hempty⟩ := h
  cases text with
  | none => exact .inl ⟨hholds, hempty rfl⟩
  | some s =>
    rw [Option.getD_some] at htext
    exact .inr (htext ▸ hholds)

theorem Lists.size_le {t : FileTree} {p : Path} {es : List Event} (h : Lists t p es) (s : String)
    (hread : t.read p = .ok s) : (s.utf8ByteSize : Int) ≤ (textOf es).utf8ByteSize := by
  obtain ⟨text, hholds, htext, -⟩ := h
  rw [FileTree.eq_of_read hholds hread, Option.getD_some] at htext
  rw [htext]

theorem lists_of_history {dir : Path} {t t' : FileTree} {es : List Event} (h : History dir t es t')
    (hdir : t.isDirectory (dir ++ [Project.journalDirectory]) = true)
    (hnew : t.Holds (pathIn dir) none) :
    t'.isDirectory (dir ++ [Project.journalDirectory]) = true ∧ Lists t' (pathIn dir) es := by
  -- the directory stays, so a journal that is opened later finds it and changes nothing
  induction h with
  | start => exact ⟨hdir, lists_nil hnew⟩
  | opened _ hopen ih =>
    rename_i t₁ t₂ fsync tailBytes j _
    obtain ⟨hdir₁, hlists⟩ := ih
    rw [openAt_of_isDirectory _ _ hdir₁] at hopen
    cases hopen
    exact ⟨hdir₁, hlists⟩
  | written _ hpath hwrite ih =>
    rename_i es t₁ t₂ j e _
    obtain ⟨hdir₁, text, hholds, htext, -⟩ := ih
    obtain ⟨-, happend⟩ := write_cases hwrite
    rw [hpath] at happend
    obtain ⟨t₃, happend', hholds', hstays⟩ := FileTree.append_of_holds hholds (lineOf e)
    rw [happend', Except.ok.injEq] at happend
    subst happend
    exact ⟨hstays _ hdir₁, lists_concat htext hholds'⟩

theorem legible_of_history {dir : Path} {t t' : FileTree} {es : List Event} (h : History dir t es t') :
    ∀ e ∈ es, e.Legible := by
  induction h with
  | start => exact List.forall_mem_nil _
  | opened _ _ ih => exact ih
  | written _ _ hwrite ih =>
    exact List.forall_mem_append.2 ⟨ih, List.forall_mem_singleton.2 (write_cases hwrite).1⟩

theorem records_of_holds_none {j : Journal} {t : FileTree} (h : t.Holds j.path none) :
    j.records t = .ok [] := by
  unfold records
  rw [FileTree.pathExists_of_holds h]
  rfl

theorem records_of_holds_some {j : Journal} {t : FileTree} {text : String}
    (h : t.Holds j.path (some text)) :
    j.records t = if maxOffset < cutAt j.tailBytes text then .error .cutTooFar
      else recordsFrom [] (Text.splitLines (tail j.tailBytes text)) := by
  have hread : (t.read j.path).mapError ReadError.file = .ok text := by
    rw [FileTree.read_of_holds h]
    rfl
  unfold records
  rw [FileTree.pathExists_of_holds h]
  simp only [Option.isSome_some, hread, bind, Except.bind]

theorem records_of_holds {j : Journal} {t : FileTree} {text : String}
    (h : t.Holds j.path (some text)) (hcut : cutAt j.tailBytes text ≤ maxOffset) :
    j.records t = recordsFrom [] (Text.splitLines (tail j.tailBytes text)) := by
  rw [records_of_holds_some h, if_neg (not_lt.2 hcut)]

theorem records_of_fit {j : Journal} {t : FileTree} {text : String}
    (h : t.Holds j.path (some text)) (hfit : (text.utf8ByteSize : Int) ≤ j.tailBytes) :
    j.records t = recordsFrom [] (Text.splitLines text.toList) := by
  have hcut : cutAt j.tailBytes text ≤ maxOffset := by
    have hmax : maxOffset = 9223372036854775807 := rfl
    unfold cutAt
    omega
  rw [records_of_holds h hcut, tail_of_fit hfit]

theorem read_of_records {j : Journal} {t : FileTree} {rs : List Record} (h : j.records t = .ok rs)
    (f : Filter) : j.read t f = f.select f.count rs := by
  unfold read
  rw [h]
  rfl

theorem Lists.records {j : Journal} {t : FileTree} {es : List Event} (h : Lists t j.path es)
    (hes : ∀ e ∈ es, e.Legible)
    (hfit : ∀ text, t.read j.path = .ok text → (text.utf8ByteSize : Int) ≤ j.tailBytes) :
    j.records t = .ok (es.reverse.map Event.written) := by
  rcases h.cases with ⟨hholds, rfl⟩ | hholds
  · rw [records_of_holds_none hholds]
    rfl
  · have hsize := hfit _ (FileTree.read_of_holds hholds)
    rw [records_of_fit hholds hsize, splitLines_textOf, recordsFrom_events hes]

/-- A journal that holds the lines of events, and reads all of them, gives them back however it is
asked. -/
theorem Lists.read {j : Journal} {t : FileTree} {es : List Event} (h : Lists t j.path es)
    (hes : ∀ e ∈ es, e.Legible)
    (hfit : ∀ text, t.read j.path = .ok text → (text.utf8ByteSize : Int) ≤ j.tailBytes)
    {f : Filter} (hlimit : 1 ≤ f.limit) :
    j.read t f = .ok (((es.reverse.filter (·.isWanted f)).take
      (min f.limit Filter.maxLimit).toNat).map Event.written) := by
  have hcount : 0 < f.count := by
    unfold Filter.count
    omega
  rw [read_of_records (h.records hes hfit), Filter.select_map (fun e _ => Event.accepts_written f e) hcount,
    Filter.count_eq hlimit]

/-- A journal that is begun in a directory gives back what is written to any journal of it. -/
theorem read_history {dir : Path} {t₀ t t' : FileTree} {fsync : Bool} {tailBytes : Option Int}
    {first j : Journal} (hopen : openAt t₀ dir fsync tailBytes = (t, .ok first))
    (hnew : t.pathExists (pathIn dir) = .ok false) {es : List Event} (h : History dir t es t')
    (hpath : j.path = pathIn dir)
    (hfit : ∀ text, t'.read (pathIn dir) = .ok text → (text.utf8ByteSize : Int) ≤ j.tailBytes)
    {f : Filter} (hlimit : 1 ≤ f.limit) :
    j.read t' f = .ok (((es.reverse.filter (·.isWanted f)).take
      (min f.limit Filter.maxLimit).toNat).map Event.written) := by
  have hdir := FileTree.isDirectory_of_makeDirectories (openAt_cases hopen).1
  have hnone : t.Holds (pathIn dir) none := FileTree.holds_none hdir (by decide) hnew
  have hlists := (lists_of_history h hdir hnone).2
  rw [← hpath] at hlists hfit
  exact hlists.read (legible_of_history h) hfit hlimit

/-- A project directory whose journal holds a text, or has not been begun. -/
def projectFiles (text : Option String) : FileTree :=
  .ofList ([(["p"], .directory), (["p", "logs"], .directory)] ++
    (text.map fun s => (["p", "logs", "events.ndjson"], .file s)).toList)

def inProject (tailBytes : Int) : Journal := ⟨pathIn ["p"], false, tailBytes⟩

def loadedEvent : Event :=
  .info "2024-01-01T00:00:00.000000Z" .configLoaded "Configuration loaded" .empty

def failedEvent : Event :=
  .forFormula "2024-01-01T00:00:01.000000Z" .formulaFailed .error "Division by zero" (.text "1/0")
    (some "division_by_zero") []

theorem holds_projectFiles (text : Option String) :
    (projectFiles text).Holds (pathIn ["p"]) text := by
  refine ⟨["p", "logs", "events.ndjson"], ?_, ?_⟩
  · cases text <;> rfl
  · cases text <;> rfl

theorem lists_projectFiles (es : List Event) :
    Lists (projectFiles (some (textOf es))) (pathIn ["p"]) es :=
  ⟨_, holds_projectFiles _, rfl, fun hnone => by cases hnone⟩

theorem legible_loadedEvent : loadedEvent.Legible :=
  ⟨Event.currentVersion_lt, fun _ hv => absurd hv List.not_mem_nil,
    fun _ hv => absurd hv List.not_mem_nil⟩

theorem legible_failedEvent : failedEvent.Legible := by
  have hvalues : failedEvent.context.values = [.text "1/0"] := rfl
  refine ⟨Event.currentVersion_lt, ?_, ?_⟩
  · rw [hvalues, List.forall_mem_singleton]
    exact .text _
  · rw [hvalues, List.forall_mem_singleton]
    rfl

theorem history_loaded_failed :
    ∃ t', History ["p"] (projectFiles none) [loadedEvent, failedEvent] t' := by
  obtain ⟨t₁, hfirst, hholds⟩ :=
    write_of_holds (j := inProject 1) (holds_projectFiles none) legible_loadedEvent
  obtain ⟨t₂, hsecond, -⟩ := write_of_holds (j := inProject 0) hholds legible_failedEvent
  exact ⟨t₂, .written (.written .start rfl hfirst) rfl hsecond⟩

theorem read_history_failed : ∃ t', History ["p"] (projectFiles none) [loadedEvent, failedEvent] t' ∧
    (inProject (textOf [loadedEvent, failedEvent]).utf8ByteSize).read t'
      ⟨some (.text "error"), none, none, some (.text "1/0"), 5⟩ = .ok [failedEvent.written] := by
  obtain ⟨t', hhistory⟩ := history_loaded_failed
  have hdir : (projectFiles none).isDirectory (["p"] ++ [Project.journalDirectory]) = true := rfl
  have hopen := openAt_of_isDirectory false none hdir
  have hlists := (lists_of_history hhistory hdir (holds_projectFiles none)).2
  exact ⟨t', hhistory, (read_history hopen rfl hhistory rfl hlists.size_le (by decide)).trans rfl⟩

/-- Behind a text that ends with a line feed, and whose integers are not too long, an added event is read
as the newest one. -/
theorem read_written {j : Journal} {t : FileTree} {old : Option String} (hold : t.Holds j.path old)
    (hlast : Terminated (old.getD "").toList)
    (hlines : ∀ l ∈ Text.splitLines (old.getD "").toList, Json.parse l ≠ .error .tooManyDigits)
    (hsize : ((old.getD "").utf8ByteSize : Int) ≤ maxOffset) {e : Event} (he : e.Legible)
    (hfit : ((lineOf e).utf8ByteSize : Int) < j.tailBytes) :
    ∃ t', j.write t e = .ok t' ∧ ∃ rs, j.read t' .any = .ok (e.written :: rs) := by
  obtain ⟨t', hwrite, hholds⟩ := write_of_holds hold he
  refine ⟨t', hwrite, ?_⟩
  have hcut : cutAt j.tailBytes (old.getD "" ++ lineOf e) ≤ maxOffset := by
    unfold cutAt
    rw [String.utf8ByteSize_append]
    omega
  rw [lineOf_eq] at hholds hcut hfit
  rw [String.utf8ByteSize_ofList, String.utf8Len_append] at hfit
  -- what is read of the old text are whole lines, so the new one stands by itself
  obtain ⟨before, htail, hbefore, hmem⟩ := tail_append hlast hfit
  have hdigits : ∀ l ∈ Text.splitLines before ++ [lineChars e], Json.parse l ≠ .error .tooManyDigits :=
    List.forall_mem_append.2 ⟨fun l hl => hlines l (hmem l hl),
      List.forall_mem_singleton.2 (parse_lineChars_ne he)⟩
  have hsplit : Text.splitLines (before ++ (lineChars e ++ ['\n'])) =
      Text.splitLines before ++ [lineChars e] := by
    rw [Text.splitLines_append hbefore, Text.splitLines_line (isLineEnd_lineChars e)]
    rfl
  have hrecords : ∃ rs, j.records t' = .ok (e.written :: rs) := by
    rw [records_of_holds hholds hcut, htail, hsplit, recordsFrom_eq hdigits, List.filterMap_append,
      List.filterMap_cons_some (recordOf?_lineChars he), List.reverse_append, List.append_nil]
    exact ⟨_, rfl⟩
  obtain ⟨rs, hrecords⟩ := hrecords
  exact ⟨_, (read_of_records hrecords _).trans (Filter.select_any _ _)⟩

/-- A journal that reads just more than the line of an event. -/
def shortJournal : Journal := inProject ((lineOf loadedEvent).utf8ByteSize + 1)

theorem read_written_loaded : ∃ t',
    shortJournal.write (projectFiles (some "\x7b\n")) loadedEvent = .ok t' ∧
    ∃ rs, shortJournal.read t' .any = .ok (loadedEvent.written :: rs) := by
  have hfit : ((lineOf loadedEvent).utf8ByteSize : Int) < shortJournal.tailBytes := Int.lt_succ _
  have hold : (projectFiles (some "\x7b\n")).Holds shortJournal.path (some "\x7b\n") :=
    holds_projectFiles _
  refine read_written hold (terminated_append_newline ['\x7b']) ?_ (by decide) legible_loadedEvent hfit
  intro l hl
  have hl' : l = ['\x7b'] := List.mem_singleton.1 hl
  subst hl'
  rw [show Json.parse ['\x7b'] = .error .malformed from rfl]
  exact fun h => by cases h

/-- A line whose first brace is already there is no object. -/
theorem parse_brace_lineChars (e : Event) :
    Json.parse ('\x7b' :: lineChars e) = .error .malformed := by
  have hparse (cs : List Char) : Json.parse ('\x7b' :: '\x7b' :: cs) = .error .malformed := rfl
  unfold lineChars
  rw [show e.record = .map _ from rfl, Json.toList_line_map]
  exact hparse _

/-- Behind a line that was left incomplete an event is lost. -/
theorem read_written_incomplete : (projectFiles (some "\x7b")).read (pathIn ["p"]) = .ok "\x7b" ∧
    ((lineOf loadedEvent).utf8ByteSize : Int) < shortJournal.tailBytes ∧
    ∃ t', shortJournal.write (projectFiles (some "\x7b")) loadedEvent = .ok t' ∧
      shortJournal.read t' .any = .ok [] := by
  refine ⟨FileTree.read_of_holds (holds_projectFiles _), Int.lt_succ _, ?_⟩
  obtain ⟨t', hwrite, hholds⟩ :=
    write_of_holds (j := shortJournal) (holds_projectFiles (some "\x7b")) legible_loadedEvent
  rw [Option.getD_some] at hholds
  have hfit : (("\x7b" ++ lineOf loadedEvent).utf8ByteSize : Int) ≤ shortJournal.tailBytes := by
    have hone : "\x7b".utf8ByteSize = 1 := rfl
    have htail : shortJournal.tailBytes = (lineOf loadedEvent).utf8ByteSize + 1 := rfl
    rw [String.utf8ByteSize_append]
    omega
  have hline : ∀ c ∈ '\x7b' :: lineChars loadedEvent, Text.isLineEnd c = false :=
    List.forall_mem_cons.2 ⟨rfl, isLineEnd_lineChars loadedEvent⟩
  have hlines : Text.splitLines ("\x7b" ++ lineOf loadedEvent).toList =
      ['\x7b' :: lineChars loadedEvent] := by
    rw [String.toList_append, lineOf_eq, String.toList_ofList, String.toList_ofList]
    exact Text.splitLines_line hline []
  have hrecords : shortJournal.records t' = .ok [] := by
    rw [records_of_fit hholds hfit, hlines, recordsFrom, parse_brace_lineChars]
    rfl
  exact ⟨t', hwrite, read_of_records hrecords _⟩

end Journal
end Formulary
