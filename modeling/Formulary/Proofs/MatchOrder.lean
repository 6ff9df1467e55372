import Formulary.Catalog
import Formulary.Proofs.ScanConservation
import Formulary.Proofs.ScanTokens
/-!
# The order of function names

Of the names that begin a text the scanner takes the first one of the configuration. If no name has a
shorter beginning of itself before it, this is the longest of them. A name that has one is never
taken, and no other way leads to an identifier of its text.
-/

set_option autoImplicit false
namespace Formulary
namespace Config

/-- Whether a proper beginning of the name stands before it in the order of the configuration. -/
def Shadowed (cfg : Config) (name : String) : Prop :=
  ∃ before after short, cfg.functions.keys = before ++ name :: after ∧ short ∈ before ∧
    short.toList <+: name.toList ∧ short ≠ name

section
variable {cfg : Config} {cs : List Char} {name : String}

theorem functionAt?_longest (h : ∀ other ∈ cfg.functions.keys, ¬cfg.Shadowed other)
    (hf : cfg.functionAt? cs = some name) :
    ∀ other ∈ cfg.functions.keys, other.toList <+: cs → other.length ≤ name.length := by
  intro other hother hpre
  have hname := prefix_of_functionAt? hf
  obtain ⟨_, before, after, hkeys, hbefore⟩ := List.find?_eq_some_iff_append.1 hf
  rw [hkeys, List.mem_append, List.mem_cons] at hother
  rcases hother with hmem | rfl | hmem
  · have hnot := hbefore other hmem
    rw [List.isPrefixOf_iff_prefix.2 hpre] at hnot
    cases hnot
  · exact Nat.le_refl _
  · -- a longer name behind the one that is taken would have it as a beginning
    refine Nat.le_of_not_lt fun hlt => ?_
    obtain ⟨between, rest, rfl⟩ := List.append_of_mem hmem
    have hkeys' : cfg.functions.keys = (before ++ name :: between) ++ other :: rest := by
      rw [hkeys, List.append_assoc]
      rfl
    refine h other (hkeys' ▸ List.mem_append_right _ List.mem_cons_self)
      ⟨before ++ name :: between, rest, name, hkeys', List.mem_append_right _ List.mem_cons_self,
        List.prefix_of_prefix_length_le hname hpre ?_, ?_⟩
    · rw [String.length_toList, String.length_toList]
      exact Nat.le_of_lt hlt
    · rintro rfl
      exact Nat.lt_irrefl _ hlt

theorem not_mem_of_keys_eq {before after : List String}
    (h : cfg.functions.keys = before ++ name :: after) : name ∉ before := by
  have hnodup : cfg.functions.keys.Nodup := cfg.functions.nodup
  rw [h] at hnodup
  exact fun hmem => (List.nodup_append.1 hnodup).2.2 name hmem name List.mem_cons_self rfl

theorem Shadowed.functionAt?_ne (h : cfg.Shadowed name) (cs : List Char) :
    cfg.functionAt? cs ≠ some name := by
  intro hf
  obtain ⟨before, after, short, hkeys, hmem, hpre, hne⟩ := h
  have hshort : short.toList.isPrefixOf cs = true :=
    List.isPrefixOf_iff_prefix.2 (hpre.trans (prefix_of_functionAt? hf))
  have hfound : (before.find? fun other => other.toList.isPrefixOf cs).isSome = true :=
    List.find?_isSome.2 ⟨short, hmem, hshort⟩
  obtain ⟨first, hfirst⟩ := Option.isSome_iff_exists.1 hfound
  unfold functionAt? at hf
  rw [hkeys, List.find?_append, hfirst, Option.some_or, Option.some.injEq] at hf
  subst hf
  exact not_mem_of_keys_eq hkeys (List.mem_of_find?_eq_some hfirst)

/-- A name without a beginning before it is taken where it stands alone. -/
theorem functionAt?_self (hmem : name ∈ cfg.functions.keys) (h : ¬cfg.Shadowed name) :
    cfg.functionAt? name.toList = some name := by
  obtain ⟨before, after, hkeys⟩ := List.append_of_mem hmem
  refine List.find?_eq_some_iff_append.2
    ⟨List.isPrefixOf_iff_prefix.2 (List.prefix_refl _), before, after, hkeys, fun short hshort => ?_⟩
  have hne : short ≠ name := by
    rintro rfl
    exact not_mem_of_keys_eq hkeys hshort
  rw [Bool.not_eq_true', ← Bool.not_eq_true, List.isPrefixOf_iff_prefix]
  exact fun hpre => h ⟨before, after, short, hkeys, hshort, hpre, hne⟩

end
end Config

namespace Token

/-- Whether the tokens, less implicit operators that the scanner entered, spell the text less its
blanks. -/
def Spells (cfg : Config) (ts : List Token) (cs : List Char) : Prop :=
  ∃ ms : List (Token × Origin), ms.map Prod.fst = ts ∧
    keptText ms = cs.filter (fun c => !Text.isBlank c) ∧
    ∀ t, (t, Origin.inserted) ∈ ms → t = cfg.implicitToken

section
variable {cfg : Config} {ts : List Token} {cs : List Char}

theorem spells_nil : Spells cfg [] [] := ⟨[], rfl, rfl, fun _ h => nomatch h⟩

theorem Spells.kept (h : Spells cfg ts cs) {t : Token} {ds : List Char} (ht : t.text.toList = ds)
    (hds : ∀ c ∈ ds, Text.isBlank c = false) : Spells cfg (t :: ts) (ds ++ cs) := by
  obtain ⟨ms, hts, htext, hms⟩ := h
  refine ⟨(t, .kept) :: ms, by rw [List.map_cons, hts], ?_, fun u hu => ?_⟩
  · rw [keptText, htext, ht, List.filter_append, filter_of_not_isBlank hds]
  · rcases List.mem_cons.1 hu with heq | hu
    · cases heq
    · exact hms u hu

theorem Spells.inserted (h : Spells cfg ts cs) : Spells cfg (cfg.implicitToken :: ts) cs := by
  obtain ⟨ms, hts, htext, hms⟩ := h
  refine ⟨(cfg.implicitToken, .inserted) :: ms, by rw [List.map_cons, hts], htext, fun u hu => ?_⟩
  rcases List.mem_cons.1 hu with heq | hu
  · cases heq
    rfl
  · exact hms u hu

theorem Spells.blank (h : Spells cfg ts cs) {c : Char} (hc : Text.isBlank c = true) :
    Spells cfg ts (c :: cs) := by
  obtain ⟨ms, hts, htext, hms⟩ := h
  exact ⟨ms, hts, htext.trans (filter_cons_of_isBlank hc cs).symm, hms⟩

theorem Spells.flush (h : Spells cfg ts cs) {p ds : List Char} (hk : Kept cfg p ds) :
    Spells cfg (ofPending p ++ ts) (p ++ cs) := by
  by_cases hp : p = []
  · subst hp
    exact h
  · rw [ofPending_of_ne_nil hp]
    refine h.kept String.toList_ofList fun c hc => ?_
    obtain ⟨r, hl⟩ := hk.alone.loose_of_mem hc
    exact hl.isBlank

theorem cons_eq_append_cons {α : Type} {u t : α} {us before after : List α}
    (h : u :: us = before ++ t :: after) (hu : u ≠ t) :
    ∃ more, before = u :: more ∧ us = more ++ t :: after := by
  cases before with
  | nil =>
    cases h
    exact absurd rfl hu
  | cons v before =>
    cases h
    exact ⟨before, rfl, rfl⟩

/-- Pending characters never spell a function name. -/
theorem Kept.flush_eq_append {p ds : List Char} (hk : Kept cfg p ds) {name : String}
    (hname : name ∈ cfg.functions.keys) {us before after : List Token}
    (h : ofPending p ++ us = before ++ ⟨.identifier, name⟩ :: after) :
    ∃ more, before = ofPending p ++ more ∧ us = more ++ ⟨.identifier, name⟩ :: after := by
  by_cases hp : p = []
  · subst hp
    exact ⟨before, rfl, h⟩
  · rw [ofPending_of_ne_nil hp] at h ⊢
    refine cons_eq_append_cons h fun heq => hk.alone.not_name name hname ?_
    have htext : (pendingToken p).text.toList = p := String.toList_ofList
    rw [heq] at htext
    exact htext ▸ List.infix_rfl

/-- A token of a function name was taken at a place of the text: the tokens before it spell the text
before that place, and the tokens behind it are those of the text behind the name. -/
theorem matched_of_scans {p cs : List Char} {ts : List Token} (h : Scans cfg p cs ts)
    (hk : Kept cfg p cs) {name : String} (hname : name ∈ cfg.functions.keys)
    {before after : List Token} (hts : ts = before ++ ⟨.identifier, name⟩ :: after) :
    ∃ fs rest, cs = fs ++ (name.toList ++ rest) ∧ cfg.functionAt? (name.toList ++ rest) = some name ∧
      Spells cfg before (p ++ fs) ∧ scanFrom cfg [] rest = after := by
  induction h generalizing before with
  | done p =>
    rw [← List.append_nil (ofPending p)] at hts
    obtain ⟨more, _, hmore⟩ := hk.flush_eq_append hname hts
    exact absurd hmore.symm (List.append_ne_nil_of_right_ne_nil more (List.cons_ne_nil _ after))
  | @function p other cs ts hf hs ih =>
    obtain ⟨more, rfl, hmore⟩ := hk.flush_eq_append hname hts
    cases more with
    | nil =>
      cases hmore
      refine ⟨[], cs, rfl, hf, ?_, scanFrom_of_scans hs⟩
      exact spells_nil.flush hk
    | cons t more =>
      cases hmore
      obtain ⟨fs, rest, rfl, hmatch, hspells, hafter⟩ := ih (kept_nil _) rfl
      refine ⟨other.toList ++ fs, rest, by rw [List.append_assoc], hmatch, ?_, hafter⟩
      refine Spells.flush (hspells.kept rfl fun c hc => ?_) hk
      exact Config.isBlank_of_mem_name (Config.mem_keys_of_functionAt? hf) hc
  | @symbol p c cs ts hc _ ih =>
    obtain ⟨more, rfl, hmore⟩ := hk.flush_eq_append hname hts
    obtain ⟨more, rfl, rfl⟩ := cons_eq_append_cons hmore fun heq => (kind_ofSymbol c).1 (by rw [heq])
    obtain ⟨fs, rest, rfl, hmatch, hspells, hafter⟩ := ih (kept_nil _) rfl
    have hblank : ∀ d ∈ [c], Text.isBlank d = false :=
      List.forall_mem_singleton.2 (Config.isSymbol_cases hc).2.1
    exact ⟨c :: fs, rest, rfl, hmatch, (hspells.kept (toList_text_ofSymbol c) hblank).flush hk, hafter⟩
  | @blank p c cs ts hc _ ih =>
    obtain ⟨more, rfl, rfl⟩ := hk.flush_eq_append hname hts
    obtain ⟨fs, rest, rfl, hmatch, hspells, hafter⟩ := ih (kept_nil _) rfl
    exact ⟨c :: fs, rest, rfl, hmatch, (hspells.blank hc).flush hk, hafter⟩
  | @factor p c cs ts hl _ _ _ ih =>
    obtain ⟨more, rfl, hmore⟩ := hk.flush_eq_append hname hts
    obtain ⟨more, rfl, rfl⟩ := cons_eq_append_cons hmore nofun
    obtain ⟨fs, rest, rfl, hmatch, hspells, hafter⟩ := ih (kept_singleton hl) rfl
    exact ⟨c :: fs, rest, rfl, hmatch, hspells.inserted.flush hk, hafter⟩
  | @digit p c cs ts hc _ _ _ ih =>
    obtain ⟨more, rfl, hnumber⟩ := hk.flush_eq_append hname hts
    obtain ⟨more, rfl, himplicit⟩ := cons_eq_append_cons hnumber nofun
    obtain ⟨more, rfl, rfl⟩ := cons_eq_append_cons himplicit nofun
    obtain ⟨fs, rest, rfl, hmatch, hspells, hafter⟩ := ih (kept_nil _) rfl
    have hblank : ∀ d ∈ [c], Text.isBlank d = false :=
      List.forall_mem_singleton.2 (Text.isBlank_of_isAlphanum (Text.isAlphanum_of_isDigit hc))
    have hkept := hspells.inserted.kept (t := ⟨.number, String.singleton c⟩)
      (String.toList_singleton c) hblank
    exact ⟨c :: fs, rest, rfl, hmatch, hkept.flush hk, hafter⟩
  | @keep p c cs ts hl hp hcs _ ih =>
    obtain ⟨fs, rest, rfl, hmatch, hspells, hafter⟩ := ih (hk.keep hl hp hcs) hts
    rw [List.append_assoc] at hspells
    exact ⟨c :: fs, rest, rfl, hmatch, hspells, hafter⟩

theorem functionAt?_of_mem_scan {name formula : String} (hname : name ∈ cfg.functions.keys)
    (h : ⟨.identifier, name⟩ ∈ scan cfg formula) : ∃ cs, cfg.functionAt? cs = some name := by
  obtain ⟨before, after, hts⟩ := List.append_of_mem h
  obtain ⟨_, rest, _, hmatch, _⟩ :=
    matched_of_scans (scans_scanFrom [] formula.toList) (kept_nil _) hname hts
  exact ⟨name.toList ++ rest, hmatch⟩

end

/-- If no name has a proper beginning of itself before it, each function name among the tokens of a
formula is the longest one that begins the text at its place. A name is never among the tokens of any
formula exactly if it has such a beginning before it. -/
theorem scan_longest (cfg : Config) :
    ((∀ name ∈ cfg.functions.keys, ¬cfg.Shadowed name) →
      ∀ formula before name after, scan cfg formula = before ++ ⟨.identifier, name⟩ :: after →
        cfg.isFunction name = true →
        ∃ f rest, formula = f ++ (name ++ rest) ∧ Spells cfg before f.toList ∧
          scan cfg rest = after ∧
          ∀ other ∈ cfg.functions.keys, other.toList <+: (name ++ rest).toList →
            other.length ≤ name.length) ∧
    ∀ name ∈ cfg.functions.keys,
      cfg.Shadowed name ↔ ∀ formula, ⟨.identifier, name⟩ ∉ scan cfg formula := by
  refine ⟨fun hclear formula before name after hts hf => ?_, fun name hname => ⟨?_, ?_⟩⟩
  · have hname := (Table.contains_iff_mem_keys _ _).1 hf
    obtain ⟨fs, rest, hformula, hmatch, hspells, hafter⟩ :=
      matched_of_scans (scans_scanFrom [] formula.toList) (kept_nil _) hname hts
    refine ⟨String.ofList fs, String.ofList rest, String.toList_injective ?_, ?_, ?_, ?_⟩
    · rw [hformula, String.toList_append, String.toList_append, String.toList_ofList,
        String.toList_ofList]
    · rwa [String.toList_ofList]
    · unfold scan
      rwa [String.toList_ofList]
    · rw [String.toList_append, String.toList_ofList]
      exact Config.functionAt?_longest hclear hmatch
  · intro hshadowed formula hmem
    obtain ⟨cs, hmatch⟩ := functionAt?_of_mem_scan hname hmem
    exact hshadowed.functionAt?_ne cs hmatch
  · intro hnever
    refine Classical.byContradiction fun hclear => hnever name ?_
    rw [scan_of_functionAt? (Config.functionAt?_self hname hclear)]
    exact List.mem_singleton_self _

end Token

/-- A configuration that tries `log` before `log10`. -/
def Config.logFirst : Config :=
  (Catalog.elementary.configure ["log", "log10"] ["*"]).toOption.get (by decide +kernel)

namespace Token

theorem scan_longest_log10 :
    (∀ name ∈ Config.standard.functions.keys, ¬Config.standard.Shadowed name) ∧
      scan Config.standard "2log10(x)" =
        [⟨.number, "2"⟩, ⟨.operator, "*"⟩] ++ ⟨.identifier, "log10"⟩ ::
          [lparen, ⟨.identifier, "x"⟩, rparen] ∧
      (∃ f rest, "2log10(x)" = f ++ ("log10" ++ rest) ∧
        Spells Config.standard [⟨.number, "2"⟩, ⟨.operator, "*"⟩] f.toList ∧
        scan Config.standard rest = [lparen, ⟨.identifier, "x"⟩, rparen] ∧
        ∀ other ∈ Config.standard.functions.keys, other.toList <+: ("log10" ++ rest).toList →
          other.length ≤ "log10".length) ∧
      Config.logFirst.Shadowed "log10" ∧
      ∀ formula, ⟨.identifier, "log10"⟩ ∉ scan Config.logFirst formula := by
  have htaken : ∀ name ∈ Config.standard.functions.keys,
      Config.standard.functionAt? name.toList = some name := by decide +kernel
  have hclear : ∀ name ∈ Config.standard.functions.keys, ¬Config.standard.Shadowed name :=
    fun name hname hshadowed => hshadowed.functionAt?_ne _ (htaken name hname)
  have hscan : scan Config.standard "2log10(x)" =
      [⟨.number, "2"⟩, ⟨.operator, "*"⟩] ++ ⟨.identifier, "log10"⟩ ::
        [lparen, ⟨.identifier, "x"⟩, rparen] := by decide +kernel
  have hkeys : Config.logFirst.functions.keys = ["log"] ++ "log10" :: [] := by decide +kernel
  have hshadowed : Config.logFirst.Shadowed "log10" :=
    ⟨["log"], [], "log", hkeys, List.mem_singleton_self _, by decide, by decide⟩
  have hmem : "log10" ∈ Config.logFirst.functions.keys := by
    rw [hkeys]
    decide
  exact ⟨hclear, hscan, (scan_longest Config.standard).1 hclear _ _ _ _ hscan (by decide +kernel),
    hshadowed, ((scan_longest Config.logFirst).2 "log10" hmem).1 hshadowed⟩

end Token
end Formulary
