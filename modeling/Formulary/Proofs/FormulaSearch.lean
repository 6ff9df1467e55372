import Formulary.Proofs.CalculationRecord
/-!
# Finding a calculation by its formula

In the journal a formula stands with at most 256 characters and a mark behind the ones that were cut.
Under this text the calculation of a formula is found, and no other calculation than those of formulas
with the same text.
-/

set_option autoImplicit false
namespace Formulary

namespace Context

theorem cut_ne_of_short {s : String} (h : s.length ≤ maxText) {other : String} (hne : other ≠ s) :
    cut other ≠ cut s := by
  intro heq
  rw [cut_of_short h] at heq
  by_cases hshort : other.length ≤ maxText
  · rw [cut_of_short hshort] at heq
    exact hne heq
  · -- a text that was cut is longer than any that was not
    have hlong := length_cut_of_long (Nat.not_le.1 hshort)
    have hmark : cutMark.length = 14 := rfl
    rw [heq] at hlong
    omega

end Context

namespace Filter

/-- The records about a formula, up to the default limit. -/
def about (formula : String) : Filter := { any with formula := some (.text formula) }

theorem accepts_of_mem_select {f : Filter} {n : Nat} {rs found : List Record}
    (h : f.select n rs = .ok found) : ∀ r ∈ found, f.accepts r = .ok true := by
  induction rs generalizing n found with
  | nil =>
    cases h
    exact fun _ hr => absurd hr List.not_mem_nil
  | cons r rs ih =>
    rw [select] at h
    split at h
    · cases h
    · exact ih h
    · rename_i haccepts
      split at h
      · cases h
        exact List.forall_mem_singleton.2 haccepts
      · obtain ⟨rest, hrest, rfl⟩ := ok_of_map h
        exact List.forall_mem_cons.2 ⟨haccepts, ih hrest⟩

end Filter

theorem Event.About.isWanted_prepared {formula : String} {e : Event} (h : e.About (.text formula))
    (wanted : String) : e.prepared.isWanted (.about wanted) = (Context.cut formula == wanted) := by
  have hformula : e.context.sanitize.get? "formula" = some (.text (Context.cut formula)) := by
    unfold Context.sanitize
    rw [Table.get?_map, h.formula]
    rfl
  rw [h.prepared]
  unfold isWanted
  simp only [hformula]
  rfl

namespace Session
variable {time : Type} [Clock time] {s s' : Session time} {j : Journal}

/-- Calculations of a session one after the other, each formula with the event that it recorded. Between
them time goes on. -/
inductive Calculations (s : Session time) : List (String × Event) → Session time → Prop
  | start : Calculations s [] s
  | later {cs : List (String × Event)} {s' : Session time} (h : Calculations s cs s') (stamp : String)
    (now : time) : Calculations s cs { s' with stamp, now }
  | calculated {cs : List (String × Event)} {s₁ s₂ : Session time} {cfg : Config} {formula : String}
    {b : Bindings} {c : Calculation} (h : Calculations s cs s₁) (hb : b.Recordable)
    (hcalculate : s₁.calculate cfg (.text formula) b = (.ok c, s₂)) :
    Calculations s (cs ++ [(formula, (Event.ofCalculation s₁.stamp (.text formula) b c).prepared)]) s₂

theorem calculate_text_cases {cfg : Config} {formula : String} {b : Bindings} {c : Calculation}
    (h : s.calculate cfg (.text formula) b = (.ok c, s')) :
    s' = s.emit (.ofCalculation s.stamp (.text formula) b c) := by
  unfold calculate Datum.formulaText at h
  simp only at h
  split at h
  · cases h
  · cases h
    rfl

/-- What calculations leave: the journal stays, holds the lines of their events, and each event is about
its formula. -/
structure Recorded (j : Journal) (s : Session time) (cs : List (String × Event)) : Prop where
  journal : s.journal = some j
  lists : Journal.Lists s.files j.path (cs.map Prod.snd)
  about : ∀ c ∈ cs, ∃ e : Event, e.About (.text c.1) ∧ e.prepared = c.2

theorem recorded_of_calculations (hj : s.journal = some j) (hnew : s.files.Holds j.path none)
    {cs : List (String × Event)} (h : Calculations s cs s') : Recorded j s' cs := by
  induction h with
  | start => exact ⟨hj, Journal.lists_nil hnew, List.forall_mem_nil _⟩
  | later _ stamp now ih => exact ⟨ih.journal, ih.lists, ih.about⟩
  | calculated _ hb hcalculate ih =>
    rename_i cs s₁ s₂ cfg formula b c _
    have habout := Event.about_ofCalculation s₁.stamp formula hb c
    obtain ⟨text, hholds, htext, -⟩ := ih.lists
    obtain ⟨files, hemit, hholds'⟩ := emit_of_holds ih.journal hholds habout.legible_prepared
    rw [calculate_text_cases hcalculate, hemit]
    refine ⟨ih.journal, ?_, ?_⟩
    · rw [List.map_append]
      exact Journal.lists_concat htext hholds'
    · exact List.forall_mem_append.2 ⟨ih.about, List.forall_mem_singleton.2 ⟨_, habout, rfl⟩⟩

section
omit [Clock time]

theorem Recorded.legible {cs : List (String × Event)} (h : Recorded j s cs) :
    ∀ e ∈ cs.map Prod.snd, e.Legible := by
  intro e he
  obtain ⟨c, hc, rfl⟩ := List.mem_map.1 he
  obtain ⟨e, habout, heq⟩ := h.about c hc
  rw [← heq]
  exact habout.legible_prepared

theorem Recorded.isWanted {cs : List (String × Event)} (h : Recorded j s cs) {formula : String}
    {e : Event} (hmem : (formula, e) ∈ cs) (wanted : String) :
    e.isWanted (.about wanted) = (Context.cut formula == wanted) := by
  obtain ⟨e₀, habout, heq⟩ := h.about _ hmem
  have hwanted := habout.isWanted_prepared wanted
  rw [heq] at hwanted
  exact hwanted

end

/-- The newest calculation is found under the text that is recorded for its formula, and a calculation
for whose formula another text is recorded is not found there. -/
theorem read_calculations (hj : s.journal = some j) (hnew : s.files.Holds j.path none)
    {cs : List (String × Event)} (h : Calculations s cs s') (formula : String) :
    (∀ earlier e, cs = earlier ++ [(formula, e)] →
      (∀ text, s'.files.read j.path = .ok text → (text.utf8ByteSize : Int) ≤ j.tailBytes) →
      ∃ rs, j.read s'.files (.about (Context.cut formula)) = .ok (e.written :: rs)) ∧
    (∀ rs, j.read s'.files (.about (Context.cut formula)) = .ok rs → ∀ other e, (other, e) ∈ cs →
      Context.cut other ≠ Context.cut formula → e.written ∉ rs) ∧
    (formula.length ≤ Context.maxText → Context.cut formula = formula ∧
      ∀ other, other ≠ formula → Context.cut other ≠ Context.cut formula) := by
  have hrecorded := recorded_of_calculations hj hnew h
  refine ⟨?_, ?_, fun hshort => ⟨Context.cut_of_short hshort, fun _ => Context.cut_ne_of_short hshort⟩⟩
  · rintro earlier e rfl hfit
    have hwanted : e.isWanted (.about (Context.cut formula)) = true := by
      rw [hrecorded.isWanted (List.mem_append_right _ List.mem_cons_self), beq_self_eq_true]
    have hlimit : 1 ≤ (Filter.about (Context.cut formula)).limit := by
      change (1 : Int) ≤ 200
      omega
    have hread := hrecorded.lists.read hrecorded.legible hfit hlimit
    rw [List.map_append, List.map_singleton, List.reverse_append, List.reverse_singleton,
      List.singleton_append, List.filter_cons_of_pos hwanted] at hread
    exact ⟨_, hread⟩
  · intro rs hread other e hmem hcut hfound
    obtain ⟨all, -, hselect⟩ := ok_of_bind hread
    have haccepts := Filter.accepts_of_mem_select hselect _ hfound
    rw [Event.accepts_written, hrecorded.isWanted hmem, Except.ok.injEq, beq_iff_eq] at haccepts
    exact hcut haccepts

theorem stamp_emit (s : Session time) (e : Event) : (s.emit e).stamp = s.stamp := by
  obtain ⟨_, _, _, hemit⟩ := s.emit_cases e
  rw [hemit]

theorem calculate_standard (formula : String) :
    ∃ c, Config.standard.calculate formula .empty = .ok c := by
  have hcfg := Config.elementary_of_configurePreset Config.configurePreset_standard
  obtain ⟨c, r, hc, -⟩ := Config.calculate_reports hcfg formula Bindings.floating_empty
  exact ⟨c, hc⟩

/-- The event that a session notes of the calculation of a formula without bindings. -/
def noted (formula : String) (c : Calculation) : Event :=
  (Event.ofCalculation (begun 0).stamp (.text formula) .empty c).prepared

theorem recordable_empty : Bindings.Recordable .empty := fun _ hd => absurd hd List.not_mem_nil

theorem read_calculations_unbound : ∃ tailBytes c₁ c₂ s₁ s₂ rs,
    (begun tailBytes).calculate .standard (.text "1+1") .empty = (.ok c₁, s₁) ∧
      s₁.calculate .standard (.text "x/0") .empty = (.ok c₂, s₂) ∧
      (Journal.inProject tailBytes).read s₂.files (.about "x/0") = .ok ((noted "x/0" c₂).written :: rs) ∧
      (noted "1+1" c₁).written ∉ (noted "x/0" c₂).written :: rs := by
  obtain ⟨c₁, hc₁⟩ := calculate_standard "1+1"
  obtain ⟨c₂, hc₂⟩ := calculate_standard "x/0"
  let tailBytes : Int := (Journal.textOf [noted "1+1" c₁, noted "x/0" c₂]).utf8ByteSize
  have hfirst := calculate_text hc₁ (begun tailBytes)
  generalize hs₁ : (begun tailBytes).emit _ = s₁ at hfirst
  have hstamp : s₁.stamp = (begun 0).stamp := by
    rw [← hs₁, stamp_emit]
    rfl
  have hsecond := calculate_text hc₂ s₁
  generalize hs₂ : s₁.emit _ = s₂ at hsecond
  have hcalculations : Calculations (begun tailBytes)
      [("1+1", noted "1+1" c₁), ("x/0", noted "x/0" c₂)] s₂ := by
    have hboth := Calculations.calculated (.calculated .start recordable_empty hfirst) recordable_empty
      hsecond
    rw [hstamp] at hboth
    exact hboth
  have hnew : (begun tailBytes).files.Holds (Journal.pathIn ["p"]) none := Journal.holds_projectFiles none
  obtain ⟨hnewest, hothers, hshort⟩ := read_calculations rfl hnew hcalculations "x/0"
  obtain ⟨hcut, hne⟩ := hshort (by decide)
  have hlists := (recorded_of_calculations rfl hnew hcalculations).lists
  obtain ⟨rs, hread⟩ := hnewest [("1+1", noted "1+1" c₁)] _ rfl hlists.size_le
  have hother := hothers _ hread "1+1" _ List.mem_cons_self (hne "1+1" (by decide))
  rw [hcut] at hread
  exact ⟨tailBytes, c₁, c₂, s₁, s₂, rs, hfirst, hsecond, hread, hother⟩

/-- A sum of 129 ones, which has 257 characters. -/
def longSum : String := String.ofList ((List.replicate 128 ['1', '+']).flatten ++ ['1'])

theorem length_longSum : longSum.length = 257 := by
  unfold longSum
  rw [String.length_ofList, List.length_append, List.length_flatten, List.map_replicate,
    List.sum_replicate]
  rfl

theorem cut_longSum : Context.cut longSum ≠ longSum := by
  intro heq
  have hmark : Context.cutMark.length = 14 := rfl
  have hmax : Context.maxText = 256 := rfl
  have hlength := length_longSum
  have hcut := Context.length_cut_of_long (s := longSum) (by omega)
  rw [heq] at hcut
  omega

/-- The calculation of a long formula is recorded, but not found by the formula itself. -/
theorem read_longSum : ∃ tailBytes c s',
    (begun tailBytes).calculate .standard (.text longSum) .empty = (.ok c, s') ∧
      (Journal.inProject tailBytes).read s'.files .any = .ok [(noted longSum c).written] ∧
      (Journal.inProject tailBytes).read s'.files (.about longSum) = .ok [] := by
  obtain ⟨c, hc⟩ := calculate_standard longSum
  let tailBytes : Int := (Journal.textOf [noted longSum c]).utf8ByteSize
  have hcalculate := calculate_text hc (begun tailBytes)
  generalize hs' : (begun tailBytes).emit _ = s' at hcalculate
  have hcalculations : Calculations (begun tailBytes) [(longSum, noted longSum c)] s' :=
    .calculated .start recordable_empty hcalculate
  have hnew : (begun tailBytes).files.Holds (Journal.pathIn ["p"]) none := Journal.holds_projectFiles none
  have hrecorded := recorded_of_calculations rfl hnew hcalculations
  have hwanted : (noted longSum c).isWanted (.about longSum) = false :=
    (hrecorded.isWanted List.mem_cons_self longSum).trans (beq_eq_false_iff_ne.2 cut_longSum)
  have hread (f : Filter) (hlimit : 1 ≤ f.limit) :=
    hrecorded.lists.read hrecorded.legible hrecorded.lists.size_le hlimit
  refine ⟨tailBytes, c, s', hcalculate, ?_, ?_⟩
  · exact (hread .any (by decide)).trans rfl
  · refine (hread (.about longSum) (by decide)).trans ?_
    rw [List.map_singleton, List.reverse_singleton, List.filter_cons_of_neg (by simp [hwanted])]
    rfl

end Session
end Formulary
