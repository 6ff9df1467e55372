import Mathlib.Data.List.Chain
import Formulary.Catalog
import Formulary.Proofs.ScanSeparators
/-!
# Neighbouring identifiers

Within a text without blanks two names of letters never stand side by side: something that is no such
name comes between them, and in a run of letters this is the implicit operator. So two of them are
neighbours only where a blank of the formula separates them.
-/

set_option autoImplicit false
namespace Formulary
namespace Token

/-- A name of letters only that is no function. -/
structure IsBare (cfg : Config) (t : Token) : Prop where
  kind : t.kind = .identifier
  letters : ∀ c ∈ t.text.toList, c.isAlpha = true
  not_function : cfg.isFunction t.text = false

/-- Whether two tokens may be neighbours without a blank between them. -/
def Apart (cfg : Config) (t u : Token) : Prop := ¬(t.IsBare cfg ∧ u.IsBare cfg)

section
variable {cfg : Config}

theorem not_isBare_of_kind {k : TokenKind} (h : k ≠ .identifier) (text : String) :
    ¬IsBare cfg ⟨k, text⟩ := fun hbare => h hbare.kind

theorem not_isBare_of_function {name : String} (h : name ∈ cfg.functions.keys) :
    ¬IsBare cfg ⟨.identifier, name⟩ := by
  intro hbare
  have hf : cfg.isFunction name = true := (Table.contains_iff_mem_keys _ _).2 h
  have hnot := hbare.not_function
  rw [hf] at hnot
  cases hnot

theorem isChain_ofPending (p : List Char) : (ofPending p).IsChain (Apart cfg) := by
  cases p with
  | nil => exact .nil
  | cons c cs => exact .singleton _

/-- A token that is no such name parts what is pending from the tokens behind it. -/
theorem isChain_flush (p : List Char) {x : Token} (hx : ¬x.IsBare cfg) {ts : List Token}
    (h : ts.IsChain (Apart cfg)) : (ofPending p ++ x :: ts).IsChain (Apart cfg) := by
  have hbehind : (x :: ts).IsChain (Apart cfg) :=
    List.isChain_cons.2 ⟨fun _ _ hboth => hx hboth.1, h⟩
  refine List.isChain_append.2 ⟨isChain_ofPending p, hbehind, ?_⟩
  intro t _ u hu hboth
  cases hu
  exact hx hboth.2

theorem isChain_of_scans {p cs : List Char} {ts : List Token} (h : Scans cfg p cs ts)
    (hcs : ∀ c ∈ cs, Text.isBlank c = false) : ts.IsChain (Apart cfg) := by
  -- only the rule for a blank ends what is pending without a token behind it
  induction h with
  | done p => exact isChain_ofPending p
  | function p hf _ ih =>
    have hrest := ih fun c hc => hcs c (List.mem_append_right _ hc)
    exact isChain_flush p (not_isBare_of_function (Config.mem_keys_of_functionAt? hf)) hrest
  | symbol p hc _ ih =>
    exact isChain_flush p (not_isBare_of_kind (kind_ofSymbol _).1 _) (ih (List.forall_mem_cons.1 hcs).2)
  | blank p hc _ ih =>
    have hnot := hcs _ List.mem_cons_self
    rw [hc] at hnot
    cases hnot
  | @factor p c cs ts _ _ _ _ ih =>
    exact isChain_flush p (not_isBare_of_kind (k := .operator) nofun _) (ih (List.forall_mem_cons.1 hcs).2)
  | @digit p c cs ts _ _ _ _ ih =>
    have hrest := ih (List.forall_mem_cons.1 hcs).2
    have himplicit : (cfg.implicitToken :: ts).IsChain (Apart cfg) :=
      isChain_flush [] (not_isBare_of_kind (k := .operator) nofun _) hrest
    exact isChain_flush p (not_isBare_of_kind (k := .number) nofun _) himplicit
  | keep _ _ _ _ ih => exact ih (List.forall_mem_cons.1 hcs).2

/-- Where two lists are put together, two neighbours lie in the first, in the second, or one in each. -/
theorem neighbours_append {α : Type} {xs ys before after : List α} {t u : α}
    (h : xs ++ ys = before ++ t :: u :: after) :
    (∃ more, xs = before ++ t :: u :: more ∧ after = more ++ ys) ∨
      (xs = before ++ [t] ∧ ys = u :: after) ∨
      ∃ more, before = xs ++ more ∧ ys = more ++ t :: u :: after := by
  rcases List.append_eq_append_iff.1 h with ⟨more, hbefore, hys⟩ | ⟨more, hxs, hmore⟩
  · exact .inr (.inr ⟨more, hbefore, hys⟩)
  · match more with
    | [] => exact .inr (.inr ⟨[], by rw [hxs, List.append_nil, List.append_nil], hmore.symm⟩)
    | [v] =>
      obtain ⟨rfl, hys⟩ := List.cons.inj hmore
      exact .inr (.inl ⟨hxs, hys.symm⟩)
    | v :: w :: more =>
      obtain ⟨rfl, hrest⟩ := List.cons.inj hmore
      obtain ⟨rfl, hafter⟩ := List.cons.inj hrest
      exact .inl ⟨more, hxs, hafter⟩

theorem scanFrom_neighbours {cs : List Char} {before after : List Token} {t u : Token}
    (h : scanFrom cfg [] cs = before ++ t :: u :: after) (ht : t.IsBare cfg) (hu : u.IsBare cfg) :
    ∃ fs c gs, Text.isBlank c = true ∧ cs = fs ++ c :: gs ∧
      scanFrom cfg [] fs = before ++ [t] ∧ scanFrom cfg [] gs = u :: after := by
  induction hn : cs.length using Nat.strong_induction_on generalizing cs before after with
  | _ n ih =>
    by_cases hblank : ∀ c ∈ cs, Text.isBlank c = false
    · have hchain := isChain_of_scans (@scans_scanFrom cfg [] cs) hblank
      rw [h] at hchain
      exact absurd ⟨ht, hu⟩ (List.isChain_append_cons_cons.1 hchain).2.1
    · -- both sides of any blank are scanned alone, so the neighbours lie in one of them or around it
      simp only [not_forall, Bool.not_eq_false] at hblank
      obtain ⟨c, hmem, hc⟩ := hblank
      obtain ⟨fs, gs, rfl⟩ := List.append_of_mem hmem
      rw [scanFrom_append_blank hc] at h
      rw [List.length_append, List.length_cons] at hn
      rcases neighbours_append h with ⟨more, hfs, rfl⟩ | ⟨hfs, hgs⟩ | ⟨more, rfl, hgs⟩
      · obtain ⟨fs, d, mid, hd, rfl, hfirst, hsecond⟩ := ih fs.length (by omega) hfs rfl
        refine ⟨fs, d, mid ++ c :: gs, hd, by rw [List.append_assoc]; rfl, hfirst, ?_⟩
        rw [scanFrom_append_blank hc, hsecond]
        rfl
      · exact ⟨fs, c, gs, hc, rfl, hfs, hgs⟩
      · obtain ⟨mid, d, gs, hd, rfl, hfirst, hsecond⟩ := ih gs.length (by omega) hgs rfl
        refine ⟨fs ++ c :: mid, d, gs, hd, by rw [List.append_assoc]; rfl, ?_, hsecond⟩
        rw [scanFrom_append_blank hc, hfirst, List.append_assoc]

end

/-- Two neighbouring tokens of a formula that are both names of letters and no functions have a blank
between them, and the texts before and behind it have the tokens up to the first and from the second
on. -/
theorem scan_neighbours {cfg : Config} {formula : String} {before after : List Token} {t u : Token}
    (h : scan cfg formula = before ++ t :: u :: after) (ht : t.IsBare cfg) (hu : u.IsBare cfg) :
    ∃ (f : String) (c : Char) (g : String), Text.isBlank c = true ∧
      formula = f ++ String.singleton c ++ g ∧
      scan cfg f = before ++ [t] ∧ scan cfg g = u :: after := by
  obtain ⟨fs, c, gs, hc, hformula, hfirst, hsecond⟩ := scanFrom_neighbours h ht hu
  refine ⟨String.ofList fs, c, String.ofList gs, hc, ?_, ?_, ?_⟩
  · refine String.toList_injective ?_
    rw [hformula, String.toList_append, String.toList_append, String.toList_ofList,
      String.toList_ofList, String.toList_singleton, List.append_assoc]
    rfl
  · unfold scan
    rwa [String.toList_ofList]
  · unfold scan
    rwa [String.toList_ofList]

theorem isBare_letter {c : Char} (hc : c.isAlpha = true)
    (hf : Config.standard.isFunction (String.singleton c) = false) :
    IsBare Config.standard ⟨.identifier, String.singleton c⟩ where
  kind := rfl
  letters d hd := by
    rw [String.toList_singleton, List.mem_singleton] at hd
    rw [hd, hc]
  not_function := hf

/-- A blank parts two letters without an operator between them. -/
theorem scan_letters_blank :
    scan Config.standard "a b" = [⟨.identifier, "a"⟩, ⟨.identifier, "b"⟩] ∧
      IsBare Config.standard ⟨.identifier, "a"⟩ ∧ IsBare Config.standard ⟨.identifier, "b"⟩ :=
  ⟨by decide +kernel, isBare_letter (c := 'a') rfl (by decide +kernel),
    isBare_letter (c := 'b') rfl (by decide +kernel)⟩

theorem scan_neighbours_product :
    scan Config.standard "2x y" =
        [⟨.number, "2"⟩, ⟨.operator, "*"⟩, ⟨.identifier, "x"⟩, ⟨.identifier, "y"⟩] ∧
      ∃ (f : String) (c : Char) (g : String), Text.isBlank c = true ∧
        "2x y" = f ++ String.singleton c ++ g ∧
        scan Config.standard f = [⟨.number, "2"⟩, ⟨.operator, "*"⟩, ⟨.identifier, "x"⟩] ∧
        scan Config.standard g = [⟨.identifier, "y"⟩] := by
  have hscan : scan Config.standard "2x y" =
      [⟨.number, "2"⟩, ⟨.operator, "*"⟩] ++ ⟨.identifier, "x"⟩ :: ⟨.identifier, "y"⟩ :: [] := by
    decide +kernel
  exact ⟨hscan, scan_neighbours hscan (isBare_letter (c := 'x') rfl (by decide +kernel))
    (isBare_letter (c := 'y') rfl (by decide +kernel))⟩

end Token
end Formulary
