import Formulary.Proofs.JournalReading
/-!
# The part of a journal that is read

A journal that reads the last bytes of its file gives the events whose lines begin in them, each as a
whole: they are the last ones that have been written, and with more bytes there are no fewer. A line
that begins with the first of these bytes is not among them.
-/

set_option autoImplicit false
namespace Formulary.Journal

/-- The text behind a line and its line feed; a cut in the line drops nothing else. -/
theorem afterCut_line {l : List Char} (hl : ∀ c ∈ l, c ≠ '\n') (n : Nat) (cs : List Char) :
    afterCut n (l ++ '\n' :: cs) =
      if n ≤ String.utf8Len l then cs else afterCut (n - (String.utf8Len l + 1)) cs := by
  induction l generalizing n with
  | nil =>
    rw [List.nil_append, afterCut, String.utf8Len_nil]
    simp only [and_true, Nat.le_zero]
    rfl
  | cons c l ih =>
    obtain ⟨hc, hl⟩ := List.forall_mem_cons.1 hl
    rw [List.cons_append, afterCut, if_neg fun h => hc h.2, ih hl, String.utf8Len_cons,
      show n - c.utf8Size - (String.utf8Len l + 1) = n - (String.utf8Len l + c.utf8Size + 1) by omega]
    split
    · rw [if_pos (by omega)]
    · rw [if_neg (by omega)]

/-- Events with the places of the bytes at which their lines begin, the first of them at `m`. -/
def placed : Nat → List Event → List (Nat × Event)
  | _, [] => []
  | m, e :: es => (m, e) :: placed (m + (lineOf e).utf8ByteSize) es

/-- The events whose lines begin behind a place. -/
def behind (k : Int) (m : Nat) (es : List Event) : List Event :=
  ((placed m es).filter fun p => k < p.1).map Prod.snd

/-- The events that are read of a text: all of them if it fits, else those whose lines begin behind its
first byte that is read. -/
def window (tailBytes : Int) (es : List Event) : List Event :=
  let size : Int := (textOf es).utf8ByteSize
  if size ≤ tailBytes then es else behind (size - tailBytes) 0 es

variable {k : Int} {m : Nat} {e : Event} {es : List Event}

theorem behind_cons : behind k m (e :: es) =
    if k < m then e :: behind k (m + (lineOf e).utf8ByteSize) es
    else behind k (m + (lineOf e).utf8ByteSize) es := by
  unfold behind
  rw [placed, List.filter_cons]
  simp only [decide_eq_true_eq]
  split <;> rfl

theorem behind_of_lt (h : k < m) : behind k m es = es := by
  induction es generalizing m with
  | nil => rfl
  | cons e es ih => rw [behind_cons, if_pos h, ih (by omega)]

theorem behind_suffix {k' : Int} (h : k' ≤ k) : behind k m es <:+ behind k' m es := by
  induction es generalizing m with
  | nil => exact List.suffix_refl _
  | cons e es ih =>
    by_cases hk : k < m
    · rw [behind_of_lt hk, behind_of_lt (by omega)]
    · rw [behind_cons, if_neg hk, behind_cons]
      split
      · exact ih.trans (List.suffix_cons _ _)
      · exact ih

theorem window_suffix (tailBytes : Int) (es : List Event) : window tailBytes es <:+ es := by
  unfold window
  simp only
  split
  · exact List.suffix_refl _
  · have hsuffix : behind ((textOf es).utf8ByteSize - tailBytes) 0 es <:+ behind (-1) 0 es :=
      behind_suffix (by omega)
    rw [behind_of_lt (k := -1) (by decide)] at hsuffix
    exact hsuffix

theorem window_mono {tailBytes larger : Int} (h : tailBytes ≤ larger) :
    window tailBytes es <:+ window larger es := by
  by_cases hlarger : ((textOf es).utf8ByteSize : Int) ≤ larger
  · rw [show window larger es = es from if_pos hlarger]
    exact window_suffix tailBytes es
  · unfold window
    simp only
    rw [if_neg (by omega), if_neg hlarger]
    exact behind_suffix (by omega)

theorem textOf_cons (e : Event) (es : List Event) :
    (textOf (e :: es)).toList = lineChars e ++ '\n' :: (textOf es).toList := by
  unfold textOf
  rw [List.flatMap_cons, String.toList_ofList, String.toList_ofList, List.append_assoc]
  rfl

theorem size_lineOf (e : Event) : (lineOf e).utf8ByteSize = String.utf8Len (lineChars e) + 1 := by
  rw [lineOf_eq, String.utf8ByteSize_ofList, String.utf8Len_append]
  rfl

theorem lineChars_ne_newline (e : Event) : ∀ c ∈ lineChars e, c ≠ '\n' := by
  rintro c hc rfl
  exact absurd (isLineEnd_lineChars e '\n' hc) (by decide)

/-- What lies behind a cut are the lines that begin behind it. -/
theorem afterCut_textOf (hm : (m : Int) ≤ k) :
    afterCut (k - m).toNat (textOf es).toList = (textOf (behind k m es)).toList := by
  -- the places are moved on by each line, and what is left of the cut is moved back by it
  induction es generalizing m with
  | nil => rfl
  | cons e es ih =>
    rw [textOf_cons, afterCut_line (lineChars_ne_newline e), behind_cons, if_neg (not_lt.2 hm),
      size_lineOf]
    split
    · rw [behind_of_lt (by omega)]
    · rw [← ih (by omega)]
      congr 1
      omega

theorem tail_textOf (tailBytes : Int) (es : List Event) :
    tail tailBytes (textOf es) = (textOf (window tailBytes es)).toList := by
  by_cases hfit : ((textOf es).utf8ByteSize : Int) ≤ tailBytes
  · rw [tail_of_fit hfit, show window tailBytes es = es from if_pos hfit]
  · have hwindow : window tailBytes es = behind ((textOf es).utf8ByteSize - tailBytes) 0 es :=
      if_neg hfit
    have hcut : 0 < cutAt tailBytes (textOf es) := by
      unfold cutAt
      omega
    rw [hwindow, ← afterCut_textOf (by omega)]
    refine (if_pos hcut).trans ?_
    rw [Nat.cast_zero, sub_zero]
    rfl

theorem Lists.records_window {j : Journal} {t : FileTree} (h : Lists t j.path es)
    (hes : ∀ e ∈ es, e.Legible) (hcut : cutAt j.tailBytes (textOf es) ≤ maxOffset) :
    j.records t = .ok ((window j.tailBytes es).reverse.map Event.written) := by
  rcases h.cases with ⟨hholds, rfl⟩ | hholds
  · rw [records_of_holds_none hholds, List.suffix_nil.1 (window_suffix j.tailBytes [])]
    rfl
  · rw [records_of_holds hholds hcut, tail_textOf, splitLines_textOf]
    exact recordsFrom_events fun e he => hes e ((window_suffix _ _).mem he)

/-- Of all that journals of a directory have written, one that reads the end of the file gives the events
whose lines begin there, newest first; one that reads more of the file gives further events behind
them. -/
theorem records_history {dir : Path} {t₀ t t' : FileTree} {fsync : Bool} {tailBytes : Option Int}
    {first j : Journal} (hopen : openAt t₀ dir fsync tailBytes = (t, .ok first))
    (hnew : t.pathExists (pathIn dir) = .ok false) (h : History dir t es t') (hpath : j.path = pathIn dir)
    (hcut : ((textOf es).utf8ByteSize : Int) - j.tailBytes ≤ maxOffset) :
    Lists t' (pathIn dir) es ∧
    j.records t' = .ok ((window j.tailBytes es).reverse.map Event.written) ∧
    window j.tailBytes es <:+ es ∧
    ∀ larger, j.tailBytes ≤ larger → ∃ more, { j with tailBytes := larger }.records t' =
      .ok ((window j.tailBytes es).reverse.map Event.written ++ more) := by
  have hdir := FileTree.isDirectory_of_makeDirectories (openAt_cases hopen).1
  have hnone : t.Holds (pathIn dir) none := FileTree.holds_none hdir (by decide) hnew
  have hlists := (lists_of_history h hdir hnone).2
  have hrecords (tailBytes : Int) (hle : j.tailBytes ≤ tailBytes) :
      { j with tailBytes }.records t' = .ok ((window tailBytes es).reverse.map Event.written) := by
    refine Lists.records_window (j := { j with tailBytes }) (hpath ▸ hlists) (legible_of_history h) ?_
    change ((textOf es).utf8ByteSize : Int) - tailBytes ≤ maxOffset
    omega
  refine ⟨hlists, hrecords j.tailBytes (Int.le_refl _), window_suffix _ _, fun larger hle => ?_⟩
  have hwindow : window j.tailBytes es <:+ window larger es := window_mono hle
  obtain ⟨more, hmore⟩ := (List.reverse_prefix.2 hwindow).map Event.written
  exact ⟨more, (hrecords larger hle).trans (congrArg _ hmore.symm)⟩

theorem lineChars_ne_nil (he : e.Legible) : lineChars e ≠ [] := by
  intro hnil
  have hparse := parse_lineChars he
  rw [hnil] at hparse
  cases hparse

/-- If the first byte of all is not read, the first line is not. -/
theorem window_cons (he : e.Legible) : window ((textOf (e :: es)).utf8ByteSize - 1) (e :: es) = es := by
  have hline : 0 < String.utf8Len (lineChars e) := by
    obtain ⟨c, cs, hcs⟩ := List.exists_cons_of_ne_nil (lineChars_ne_nil he)
    rw [hcs, String.utf8Len_cons]
    exact Nat.add_pos_right _ c.utf8Size_pos
  have hsize := size_lineOf e
  unfold window
  simp only
  rw [if_neg (by omega), behind_cons, if_neg (by omega), behind_of_lt (by omega)]

theorem records_history_failed : ∃ t', History ["p"] (projectFiles none) [loadedEvent, failedEvent] t' ∧
    (inProject ((textOf [loadedEvent, failedEvent]).utf8ByteSize - 1)).records t' =
      .ok [failedEvent.written] := by
  let j : Journal := inProject ((textOf [loadedEvent, failedEvent]).utf8ByteSize - 1)
  obtain ⟨t', hhistory⟩ := history_loaded_failed
  have hdir : (projectFiles none).isDirectory (["p"] ++ [Project.journalDirectory]) = true := rfl
  have hcut : ((textOf [loadedEvent, failedEvent]).utf8ByteSize : Int) - j.tailBytes ≤ maxOffset := by
    have htail : j.tailBytes = (textOf [loadedEvent, failedEvent]).utf8ByteSize - 1 := rfl
    have hmax : maxOffset = 9223372036854775807 := rfl
    omega
  have hrecords := (records_history (j := j) (openAt_of_isDirectory false none hdir) rfl hhistory rfl
    hcut).2.1
  rw [show window j.tailBytes _ = [failedEvent] from window_cons legible_loadedEvent] at hrecords
  exact ⟨t', hhistory, hrecords⟩

/-- The part to be read may begin further from the start than any place in a file. -/
theorem records_history_far : ∃ t', History ["p"] (projectFiles none) [loadedEvent] t' ∧
    (inProject (-9223372036854775808)).records t' = .error .cutTooFar ∧
    window (-9223372036854775808) [loadedEvent] = [] := by
  obtain ⟨t', hwrite, hholds⟩ :=
    write_of_holds (j := inProject 0) (holds_projectFiles none) legible_loadedEvent
  refine ⟨t', .written .start rfl hwrite, ?_, ?_⟩
  · have hcut : maxOffset < cutAt (-9223372036854775808) ("" ++ lineOf loadedEvent) := by
      have hmax : maxOffset = 9223372036854775807 := rfl
      unfold cutAt
      omega
    have hfar : t'.Holds (inProject (-9223372036854775808)).path (some ("" ++ lineOf loadedEvent)) :=
      hholds
    exact (records_of_holds_some hfar).trans (if_pos hcut)
  · unfold window
    simp only
    rw [if_neg (by omega), behind_cons, if_neg (by omega)]
    rfl

end Formulary.Journal
