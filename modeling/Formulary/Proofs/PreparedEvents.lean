import Formulary.Proofs.SanitizedContext
/-!
# Prepared events

An event is prepared before it is recorded: its context is sanitized, and if it lacks required context, it
becomes a warning and lists what it lacks. Preparing it again changes nothing, although the list stands in
the context that is looked through.
-/

set_option autoImplicit false
namespace Formulary
namespace Event

theorem prepared_of_complete {e : Event} (h : e.missing = []) :
    e.prepared = { e with context := e.context.sanitize } := by
  unfold prepared
  rw [h]
  rfl

theorem prepared_of_missing {e : Event} (h : e.missing ≠ []) :
    e.prepared = { e with
      level := .warning
      context := e.context.sanitize.insert missingName (.list (e.missing.map .text)) } := by
  have hempty : e.missing.isEmpty = false :=
    Bool.eq_false_iff.2 fun hnone => h (List.isEmpty_iff.1 hnone)
  unfold prepared
  rw [hempty]
  rfl

theorem missingName_not_mem (kind : EventKind) : missingName ∉ kind.required := by
  cases kind <;> decide

theorem sorted_required (kind : EventKind) : kind.required.Pairwise (· < ·) := by
  cases kind <;> decide

theorem length_required {kind : EventKind} : ∀ name ∈ kind.required, name.length ≤ Context.maxText := by
  cases kind <;> decide

theorem mem_missing {e : Event} {name : String} :
    name ∈ e.missing ↔ name ∈ e.kind.required ∧ e.context.get? name = none := by
  unfold missing
  rw [List.mem_filter, Bool.not_eq_true', Table.contains_eq_false_iff]

theorem sorted_missing (e : Event) : e.missing.Pairwise (· < ·) := (sorted_required e.kind).filter _

/-- What an event lacks depends on its kind and on which of the required names occur. -/
theorem missing_congr {e e' : Event} (hkind : e'.kind = e.kind)
    (h : ∀ name ∈ e.kind.required, e'.context.contains name = e.context.contains name) :
    e'.missing = e.missing := by
  unfold missing
  rw [hkind]
  exact List.filter_congr fun name hname => by rw [h name hname]

theorem missing_prepared (e : Event) : e.prepared.missing = e.missing := by
  by_cases hnone : e.missing = []
  · rw [prepared_of_complete hnone]
    exact missing_congr rfl fun name _ => Context.contains_sanitize e.context name
  · rw [prepared_of_missing hnone]
    refine missing_congr rfl fun name hname => ?_
    -- the list of what is missing has a name of its own
    have hne : name ≠ missingName := fun heq => missingName_not_mem e.kind (heq ▸ hname)
    exact (Table.contains_insert_of_ne hne).trans (Context.contains_sanitize e.context name)

theorem clean_missing (e : Event) :
    Context.clean (.list (e.missing.map .text)) = .list (e.missing.map .text) := by
  rw [Context.clean_list, List.map_map]
  refine congrArg _ (List.map_congr_left fun name hname => ?_)
  have hshort := length_required name (mem_missing.1 hname).1
  exact (Context.clean_text name).trans (congrArg _ (Context.cut_of_short hshort))

theorem prepared_prepared (e : Event) : e.prepared.prepared = e.prepared := by
  have hmissing := missing_prepared e
  by_cases hnone : e.missing = []
  · rw [hnone] at hmissing
    rw [prepared_of_complete hmissing, prepared_of_complete hnone]
    simp only [Context.sanitize_sanitize]
  · have hagain : e.prepared.missing ≠ [] := hmissing ▸ hnone
    rw [prepared_of_missing hagain, hmissing, prepared_of_missing hnone]
    simp only [Context.sanitize_insert, Context.sanitize_sanitize, clean_missing, Table.insert_insert]

/-- Sanitizing keeps the lists, maps and keys of a context, makes lists of its tuples, and changes no value in
them but numbers that are not finite and texts that are too long. Preparing an event sanitizes its context,
and makes it a warning with the sorted list of the required names that it lacks if there are any. Neither
does anything when it is done again. -/
theorem sanitized_prepared (c : Context) (e : Event) :
    (c.sanitize.datum.outline = c.datum.outline.untupled ∧
      List.Forall₂ Context.Cleans c.datum.leaves c.sanitize.datum.leaves ∧
      (∀ d ∈ c.sanitize.datum.leaves, (∀ x, d = .float x → Binary64.isFinite x = true) ∧
        ∀ n, d.textLength? = some n → n ≤ Context.maxText + Context.cutMark.length) ∧
      c.sanitize.sanitize = c.sanitize) ∧
    (∃ names : List String, names.Pairwise (· < ·) ∧
      (∀ name, name ∈ names ↔ name ∈ e.kind.required ∧ e.context.get? name = none) ∧
      (names = [] → e.prepared = { e with context := e.context.sanitize }) ∧
      (names ≠ [] → e.prepared = { e with
        level := .warning
        context := e.context.sanitize.insert missingName (.list (names.map .text)) })) ∧
    e.prepared.prepared = e.prepared := by
  refine ⟨⟨?_, ?_, ?_, c.sanitize_sanitize⟩, ?_, e.prepared_prepared⟩
  · rw [Context.datum_sanitize]
    exact Context.outline_clean c.datum
  · rw [Context.datum_sanitize]
    exact Context.cleans_leaves c.datum
  · rw [Context.datum_sanitize]
    intro d hd
    obtain ⟨l, hcleans⟩ := Context.cleans_of_mem_leaves hd
    exact hcleans.admitted
  · exact ⟨e.missing, e.sorted_missing, fun _ => mem_missing, prepared_of_complete, prepared_of_missing⟩

example : (info "" .variablesMissing "" .empty).prepared.context.get? missingName =
    some (.list [.text "formula", .text "missing"]) := rfl

end Event
end Formulary
