import Formulary.Proofs.JournalReading
/-!
# Searches in a journal

Whatever text a journal holds, its lines that are JSON objects are looked through, newest first, and the
wanted ones among them are given up to the limit. With a smaller limit these are the first of those that
a larger one gives; the first record is given even if the limit is zero.
-/

set_option autoImplicit false
namespace Formulary

namespace Filter
variable {f : Filter} {rs found : List Record}

/-- Whether a record is wanted whatever formula it is about. -/
def wantsKind (f : Filter) (r : Record) : Bool :=
  wants f.level (Datum.field? "level" r) && wants f.kind (Datum.field? "event_type" r) &&
    wants f.errorCode (Datum.field? "error_code" r)

/-- The formula that a record is about, if its context is a map with one. -/
def formulaOf? (r : Record) : Option Datum :=
  match Datum.field? "context" r with
  | some (.map context) => Datum.field? "formula" context
  | _ => none

/-- Whether a record fits in every respect. -/
def fits (f : Filter) (r : Record) : Bool := f.wantsKind r && wants f.formula (formulaOf? r)

/-- Whether the formula of a record can be looked at: its context is a map or missing. -/
def HasContext (r : Record) : Prop :=
  ∀ d, Datum.field? "context" r = some d → ∃ context, d = .map context

/-- Whether a record can be compared: no formula is wanted, the record is not wanted in another respect,
or its formula can be looked at. -/
def Compares (f : Filter) (r : Record) : Prop :=
  f.formula = none ∨ f.wantsKind r = false ∨ HasContext r

theorem accepts_of_compares {r : Record} (h : f.Compares r) : f.accepts r = .ok (f.fits r) := by
  change (if f.wantsKind r then _ else _) = Except.ok (f.wantsKind r && wants f.formula (formulaOf? r))
  cases hkind : f.wantsKind r with
  | false => rfl
  | true =>
    simp only [if_true, Bool.true_and]
    rcases h with hnone | hfalse | hcontext
    · rw [hnone]
      rfl
    · rw [hkind] at hfalse
      cases hfalse
    · cases hformula : f.formula with
      | none => rfl
      | some formula =>
        unfold formulaOf?
        cases hfield : Datum.field? "context" r with
        | none => rfl
        | some d =>
          obtain ⟨context, rfl⟩ := hcontext d hfield
          rfl

theorem select_of_compares (h : ∀ r ∈ rs, f.Compares r) {n : Nat} (hn : 0 < n) :
    f.select n rs = .ok ((rs.filter f.fits).take n) := by
  have hselect := select_map (g := id) (fun r hr => accepts_of_compares (h r hr)) hn
  rw [List.map_id, List.map_id] at hselect
  exact hselect

theorem select_take {n m : Nat} (h : f.select n rs = .ok found) (hm : 1 ≤ m) (hmn : m ≤ n) :
    f.select m rs = .ok (found.take m) := by
  induction rs generalizing n m found with
  | nil =>
    cases h
    rw [select, List.take_nil]
  | cons r rs ih =>
    rw [select] at h ⊢
    split at h
    · cases h
    · exact ih h hm hmn
    · split at h
      · cases h
        rw [if_pos (by omega), List.take_of_length_le (by rw [List.length_singleton]; exact hm)]
      · rename_i hn
        obtain ⟨rest, hrest, rfl⟩ := ok_of_map h
        obtain ⟨k, rfl⟩ := Nat.exists_eq_add_of_le' hm
        rw [List.take_succ_cons]
        split
        · rename_i hone
          rw [show k = 0 by omega, List.take_zero]
        · rw [Nat.add_sub_cancel, ih hrest (by omega) (by omega)]
          rfl

theorem length_select {n : Nat} (h : f.select n rs = .ok found) (hn : 1 ≤ n) : found.length ≤ n := by
  have htake := select_take h hn (Nat.le_refl n)
  rw [h, Except.ok.injEq] at htake
  exact (List.take_eq_self_iff found).1 htake.symm

/-- The limit says when a search ends, not what is looked for. -/
theorem select_limit (f : Filter) (limit : Int) (n : Nat) (rs : List Record) :
    { f with limit }.select n rs = f.select n rs := by
  induction rs generalizing n with
  | nil => rfl
  | cons r rs ih =>
    rw [select, select, ih, ih]
    rfl

theorem count_pos (f : Filter) : 1 ≤ f.count := by
  unfold count
  omega

theorem count_mono {limit : Int} (h : limit ≤ f.limit) : { f with limit }.count ≤ f.count := by
  unfold count
  simp only
  omega

end Filter

namespace Journal
variable {j : Journal} {t : FileTree} {f : Filter} {rs : List Record}

/-- The records that are found in a text: those of the lines at its end that are JSON objects, newest
first, as far as they fit. -/
def found (tailBytes : Int) (text : String) (f : Filter) : List Record :=
  ((((Text.splitLines (tail tailBytes text)).filterMap recordOf?).reverse).filter f.fits).take f.count

/-- Whatever stands in a journal, its records are those of the lines that are JSON objects. -/
theorem records_of_text {text : Option String} (hold : t.Holds j.path text)
    (hcut : cutAt j.tailBytes (text.getD "") ≤ maxOffset)
    (hdigits : ∀ l ∈ Text.splitLines (text.getD "").toList, Json.parse l ≠ .error .tooManyDigits) :
    j.records t =
      .ok ((Text.splitLines (tail j.tailBytes (text.getD ""))).filterMap recordOf?).reverse := by
  cases text with
  | none =>
    have hnothing : tail j.tailBytes "" = [] := by
      unfold tail
      simp only
      split <;> rfl
    rw [records_of_holds_none hold, Option.getD_none, hnothing]
    rfl
  | some text =>
    rw [Option.getD_some] at hcut hdigits ⊢
    rw [records_of_holds hold hcut, recordsFrom_eq fun l hl => hdigits l (mem_splitLines_tail hl),
      List.append_nil]

/-- A reading gives what is found, if every record that is wanted but for its formula has a context to
look for the formula in. -/
theorem read_of_compares {text : Option String} (hold : t.Holds j.path text)
    (hcut : cutAt j.tailBytes (text.getD "") ≤ maxOffset)
    (hdigits : ∀ l ∈ Text.splitLines (text.getD "").toList, Json.parse l ≠ .error .tooManyDigits)
    (hcompares : ∀ l ∈ Text.splitLines (text.getD "").toList, ∀ r, recordOf? l = some r →
      f.Compares r) :
    j.read t f = .ok (found j.tailBytes (text.getD "") f) := by
  rw [read_of_records (records_of_text hold hcut hdigits)]
  refine Filter.select_of_compares (fun r hr => ?_) f.count_pos
  obtain ⟨l, hl, hline⟩ := List.mem_filterMap.1 (List.mem_reverse.1 hr)
  exact hcompares l (mem_splitLines_tail hl) r hline

/-- What a journal gives for a limit: no more records than that, and with a smaller limit the first of
them. -/
theorem read_limit (h : j.read t f = .ok rs) :
    (1 ≤ f.limit → (rs.length : Int) ≤ min f.limit Filter.maxLimit) ∧
    ∀ limit, limit ≤ f.limit → ∃ fewer, j.read t { f with limit } = .ok fewer ∧ fewer <+: rs := by
  obtain ⟨all, hall, hselect⟩ := ok_of_bind h
  refine ⟨fun hlimit => ?_, fun limit hle => ?_⟩
  · have hlength := Filter.length_select hselect f.count_pos
    rw [Filter.count_eq hlimit] at hlength
    have hmax : Filter.maxLimit = 2000 := rfl
    omega
  · refine ⟨rs.take { f with limit }.count, ?_, List.take_prefix _ _⟩
    rw [read_of_records hall, Filter.select_limit]
    exact Filter.select_take hselect (Filter.count_pos _) (Filter.count_mono hle)

theorem legible_loaded_failed : ∀ e ∈ [loadedEvent, failedEvent], e.Legible :=
  List.forall_mem_cons.2 ⟨legible_loadedEvent, List.forall_mem_singleton.2 legible_failedEvent⟩

theorem read_limit_two : ∃ tailBytes,
    (inProject tailBytes).read (projectFiles (some (textOf [loadedEvent, failedEvent])))
      { Filter.any with limit := 2 } = .ok [failedEvent.written, loadedEvent.written] ∧
    ([failedEvent.written, loadedEvent.written].length : Int) ≤ min 2 Filter.maxLimit ∧
    ∃ fewer, (inProject tailBytes).read (projectFiles (some (textOf [loadedEvent, failedEvent])))
      { Filter.any with limit := 1 } = .ok fewer ∧
        fewer <+: [failedEvent.written, loadedEvent.written] := by
  let tailBytes : Int := (textOf [loadedEvent, failedEvent]).utf8ByteSize
  have hlists := lists_projectFiles [loadedEvent, failedEvent]
  have hread : (inProject tailBytes).read (projectFiles (some (textOf [loadedEvent, failedEvent])))
      { Filter.any with limit := 2 } = .ok [failedEvent.written, loadedEvent.written] :=
    (hlists.read legible_loaded_failed hlists.size_le (by decide)).trans rfl
  obtain ⟨hbound, hprefix⟩ := read_limit hread
  exact ⟨tailBytes, hread, hbound (by decide), hprefix 1 (by decide)⟩

/-- A record is given though the limit is zero. -/
theorem read_limit_zero : ∃ tailBytes,
    (inProject tailBytes).read (projectFiles (some (textOf [loadedEvent]))) { Filter.any with limit := 0 } =
      .ok [loadedEvent.written] ∧
    ¬ ([loadedEvent.written].length : Int) ≤ min 0 Filter.maxLimit := by
  have hlists := lists_projectFiles [loadedEvent]
  have hrecords := hlists.records (j := inProject (textOf [loadedEvent]).utf8ByteSize)
    (List.forall_mem_singleton.2 legible_loadedEvent) hlists.size_le
  exact ⟨_, (read_of_records hrecords _).trans rfl, by decide⟩

end Journal
end Formulary
