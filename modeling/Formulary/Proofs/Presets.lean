import Formulary.Proofs.CatalogConfigs
import Formulary.Proofs.ScanSeparators
/-!
# The configurations of the presets

The names of a preset are in an order in which each is matched where it stands, none is a single
letter, and the low line, the only character of names that can be a symbol, is none. Under such a
configuration whatever a formula writes is read as it was meant, as long as names and numbers are
kept apart.
-/

set_option autoImplicit false
namespace Formulary

/-- A configuration in which names, single letters and symbols are not taken for one another. -/
structure Config.Legible (cfg : Config) : Prop where
  matched : ∀ name ∈ cfg.functions.keys, cfg.functionAt? name.toList = some name
  long : ∀ name ∈ cfg.functions.keys, name.toList.length ≠ 1
  lowLine : cfg.isOperator "_" = false

/-- The configuration of the extended preset from the elementary catalog. -/
def Config.extended : Config :=
  (Catalog.elementary.configurePreset "extended").toOption.get (by decide +kernel)

namespace Config
variable {cfg : Config}

theorem legible_standard : standard.Legible :=
  ⟨by decide +kernel, by decide +kernel, by decide +kernel⟩

theorem legible_extended : extended.Legible :=
  ⟨by decide +kernel, by decide +kernel, by decide +kernel⟩

theorem configurePreset_standard : Catalog.elementary.configurePreset "standard" = .ok standard :=
  ok_get _

theorem configurePreset_extended : Catalog.elementary.configurePreset "extended" = .ok extended :=
  ok_get _

theorem configurePreset_cases {name : String}
    (h : Catalog.elementary.configurePreset name = .ok cfg) : cfg = standard ∨ cfg = extended := by
  have hname : name = "standard" ∨ name = "extended" := by
    unfold Catalog.configurePreset at h
    split at h
    · rename_i p hp
      have hmem := List.mem_of_find?_eq_some hp
      have hsame := List.find?_some hp
      simp only [Preset.all, List.mem_cons, List.not_mem_nil, or_false] at hmem
      rcases hmem with rfl | rfl
      · exact .inr (eq_of_beq hsame).symm
      · exact .inl (eq_of_beq hsame).symm
    · cases h
  rcases hname with rfl | rfl
  · rw [configurePreset_standard] at h
    exact .inl (Except.ok.inj h).symm
  · rw [configurePreset_extended] at h
    exact .inr (Except.ok.inj h).symm

theorem legible_of_configurePreset {name : String}
    (h : Catalog.elementary.configurePreset name = .ok cfg) : cfg.Legible := by
  rcases configurePreset_cases h with rfl | rfl
  · exact legible_standard
  · exact legible_extended

theorem elementary_of_configurePreset {name : String}
    (h : Catalog.elementary.configurePreset name = .ok cfg) : cfg.Elementary := by
  unfold Catalog.configurePreset at h
  split at h
  · exact Catalog.elementary_of_configure h
  · cases h

namespace Legible

theorem functionAt?_singleton (h : cfg.Legible) (c : Char) : cfg.functionAt? [c] = none := by
  rw [functionAt?_eq_none_iff]
  intro name hname hpre
  obtain ⟨d, ds, hds, _⟩ := nameCharacters_of_mem_keys hname
  refine h.long name hname (Nat.le_antisymm hpre.length_le ?_)
  rw [hds, List.length_cons]
  omega

theorem isFunction_singleton (h : cfg.Legible) (c : Char) :
    cfg.isFunction (String.singleton c) = false := by
  refine Bool.eq_false_iff.2 fun hf => ?_
  refine h.long _ ((Table.contains_iff_mem_keys _ _).1 hf) ?_
  rw [String.toList_singleton]
  rfl

theorem separator_of_isSymbol (h : cfg.Legible) {c : Char} (hc : cfg.isSymbol c = true) :
    cfg.Separator c := by
  refine separator_of_not_isNameCharacter hc ?_
  unfold isNameCharacter
  rw [(isSymbol_cases hc).1, Bool.false_or, beq_eq_false_iff_ne]
  rintro rfl
  have hlow : cfg.isSymbol '_' = false := h.lowLine
  rw [hlow] at hc
  cases hc

end Legible
end Config
end Formulary
