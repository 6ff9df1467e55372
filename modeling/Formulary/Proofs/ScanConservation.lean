import Formulary.Proofs.ScanRules
/-!
# What a scan keeps and what it enters

The tokens of a formula are those that the text itself writes and the implicit operators between them.
Without the operators that were entered the tokens spell the text less its blanks, and each operator
that was entered stands between two factors of the text.
-/

set_option autoImplicit false
namespace Formulary
namespace Token

inductive Origin where
  | kept
  | inserted
  deriving DecidableEq

/-- The characters of the kept tokens. -/
def keptText : List (Token × Origin) → List Char
  | [] => []
  | (t, .kept) :: ms => t.text.toList ++ keptText ms
  | (_, .inserted) :: ms => keptText ms

def IsFactor (t : Token) : Prop := t.kind = .number ∨ t.kind = .identifier

instance (t : Token) : Decidable t.IsFactor :=
  inferInstanceAs (Decidable (t.kind = .number ∨ t.kind = .identifier))

/-- Whether a kept number or identifier comes first. -/
def Opens (ms : List (Token × Origin)) : Prop := ∃ t, ms.head? = some (t, .kept) ∧ t.IsFactor

/-- Whether a kept number or identifier comes last. -/
def Ends (ms : List (Token × Origin)) : Prop := ∃ t, ms.getLast? = some (t, .kept) ∧ t.IsFactor

/-- Whether each inserted token is the implicit operator and stands between kept factors. -/
def Flanked (cfg : Config) (ms : List (Token × Origin)) : Prop :=
  ∀ before t after, ms = before ++ (t, .inserted) :: after →
    t = cfg.implicitToken ∧ Ends before ∧ Opens after

section
variable {cfg : Config}

theorem Ends.cons {m : Token × Origin} {ms : List (Token × Origin)} (h : Ends ms) : Ends (m :: ms) := by
  obtain ⟨t, ht, hf⟩ := h
  refine ⟨t, ?_, hf⟩
  rw [List.getLast?_cons, ht]
  rfl

theorem flanked_nil : Flanked cfg [] := by
  intro before t after h
  cases before <;> cases h

theorem Flanked.kept {ms : List (Token × Origin)} (h : Flanked cfg ms) (t : Token) :
    Flanked cfg ((t, .kept) :: ms) := by
  intro before u after heq
  cases before with
  | nil => cases heq
  | cons m before =>
    rw [List.cons_append, List.cons.injEq] at heq
    obtain ⟨hi, he, ho⟩ := h before u after heq.2
    exact ⟨hi, he.cons, ho⟩

theorem Flanked.insert {ms : List (Token × Origin)} (h : Flanked cfg ms) (ho : Opens ms) {t : Token}
    (ht : t.IsFactor) : Flanked cfg ((t, .kept) :: (cfg.implicitToken, .inserted) :: ms) := by
  intro before u after heq
  cases before with
  | nil => cases heq
  | cons m before =>
    rw [List.cons_append, List.cons.injEq] at heq
    obtain ⟨rfl, heq⟩ := heq
    cases before with
    | nil =>
      cases heq
      exact ⟨rfl, ⟨t, rfl, ht⟩, ho⟩
    | cons m before =>
      rw [List.cons_append, List.cons.injEq] at heq
      obtain ⟨hi, he, hopen⟩ := h before u after heq.2
      exact ⟨hi, he.cons.cons, hopen⟩

theorem pendingToken_isFactor (p : List Char) : (pendingToken p).IsFactor := by
  unfold IsFactor pendingToken
  split
  · exact .inl rfl
  · exact .inr rfl

/-- How the tokens `ts` of pending characters and the text behind them come about. The last field
is for an operator in front: it needs a factor behind it. -/
structure Division (cfg : Config) (p cs : List Char) (ts : List Token)
    (ms : List (Token × Origin)) : Prop where
  tokens : ms.map Prod.fst = ts
  text : keptText ms = p ++ cs.filter fun c => !Text.isBlank c
  flanked : Flanked cfg ms
  opens : p ≠ [] ∨ startsWithLetter cs = true → Opens ms

theorem Division.flush {cs : List Char} {ts : List Token} {ms : List (Token × Origin)}
    (h : Division cfg [] cs ts ms) (p : List Char) :
    ∃ ns, Division cfg p cs (ofPending p ++ ts) ns := by
  by_cases hp : p = []
  · subst hp
    exact ⟨ms, h⟩
  · rw [ofPending_of_ne_nil hp]
    refine ⟨(pendingToken p, .kept) :: ms, ?_, ?_, h.flanked.kept _, ?_⟩
    · rw [List.map_cons, h.tokens]
      rfl
    · rw [keptText, h.text, pendingToken, String.toList_ofList, List.nil_append]
    · intro _
      exact ⟨_, rfl, pendingToken_isFactor p⟩

theorem division_done (p : List Char) : ∃ ms, Division cfg p [] (ofPending p) ms := by
  have hnil : Division cfg [] [] [] [] := by
    refine ⟨rfl, rfl, flanked_nil, ?_⟩
    rintro (h | h)
    · exact absurd rfl h
    · cases h
  obtain ⟨ms, hms⟩ := hnil.flush p
  rw [List.append_nil] at hms
  exact ⟨ms, hms⟩

theorem filter_of_not_isBlank {cs : List Char} (h : ∀ c ∈ cs, Text.isBlank c = false) :
    (cs.filter fun c => !Text.isBlank c) = cs := by
  refine List.filter_eq_self.2 fun c hc => ?_
  rw [h c hc]
  rfl

theorem filter_cons_of_isBlank {c : Char} (hc : Text.isBlank c = true) (cs : List Char) :
    ((c :: cs).filter fun d => !Text.isBlank d) = cs.filter fun d => !Text.isBlank d := by
  have hdrop : ¬(!Text.isBlank c) = true := by rw [hc]; decide
  rw [List.filter_cons, if_neg hdrop]

theorem Division.function {name : String} {cs : List Char} {ts : List Token}
    {ms : List (Token × Origin)} (h : Division cfg [] cs ts ms)
    (hname : name ∈ cfg.functions.keys) :
    Division cfg [] (name.toList ++ cs) (⟨.identifier, name⟩ :: ts)
      ((⟨.identifier, name⟩, .kept) :: ms) := by
  refine ⟨by rw [List.map_cons, h.tokens], ?_, h.flanked.kept _, fun _ => ⟨_, rfl, .inr rfl⟩⟩
  have hfilter := filter_of_not_isBlank fun c hc => Config.isBlank_of_mem_name hname hc
  rw [keptText, h.text, List.filter_append, hfilter]
  rfl

theorem Division.symbol {c : Char} {cs : List Char} {ts : List Token}
    {ms : List (Token × Origin)} (h : Division cfg [] cs ts ms) (hc : cfg.isSymbol c = true) :
    Division cfg [] (c :: cs) (ofSymbol c :: ts) ((ofSymbol c, .kept) :: ms) := by
  refine ⟨by rw [List.map_cons, h.tokens], ?_, h.flanked.kept _, ?_⟩
  · have hkeep : (!Text.isBlank c) = true := by rw [(Config.isSymbol_cases hc).2.1]; rfl
    rw [keptText, h.text, toList_text_ofSymbol, List.filter_cons, if_pos hkeep]
    rfl
  · rintro (hnil | hletter)
    · exact absurd rfl hnil
    · rw [startsWithLetter, Config.isAlpha_of_isSymbol hc] at hletter
      cases hletter

theorem Division.blank {c : Char} {cs : List Char} {ts : List Token}
    {ms : List (Token × Origin)} (h : Division cfg [] cs ts ms) (hc : Text.isBlank c = true) :
    Division cfg [] (c :: cs) ts ms := by
  refine ⟨h.tokens, ?_, h.flanked, ?_⟩
  · rw [h.text, filter_cons_of_isBlank hc]
  · rintro (hnil | hletter)
    · exact absurd rfl hnil
    · rw [startsWithLetter, Text.isAlpha_of_isBlank hc] at hletter
      cases hletter

theorem Division.insert {p q cs ds : List Char} {t : Token} {ts : List Token}
    {ms : List (Token × Origin)} (h : Division cfg q ds ts ms)
    (hq : q ≠ [] ∨ startsWithLetter ds = true) (ht : t.IsFactor)
    (htext : t.text.toList ++ (q ++ ds.filter fun c => !Text.isBlank c) =
      p ++ cs.filter fun c => !Text.isBlank c) :
    Division cfg p cs (t :: cfg.implicitToken :: ts)
      ((t, .kept) :: (cfg.implicitToken, .inserted) :: ms) := by
  refine ⟨by rw [List.map_cons, List.map_cons, h.tokens], ?_, h.flanked.insert (h.opens hq) ht,
    fun _ => ⟨t, rfl, ht⟩⟩
  rw [keptText, keptText, h.text, htext]

theorem Loose.filter_cons {c : Char} {cs : List Char} (h : Loose cfg c cs) :
    ((c :: cs).filter fun d => !Text.isBlank d) = c :: cs.filter fun d => !Text.isBlank d := by
  have hkeep : (!Text.isBlank c) = true := by rw [h.isBlank]; rfl
  rw [List.filter_cons, if_pos hkeep]

theorem division_of_scans {p cs : List Char} {ts : List Token} (h : Scans cfg p cs ts) :
    ∃ ms, Division cfg p cs ts ms := by
  induction h with
  | done p => exact division_done p
  | function p hf _ ih =>
    obtain ⟨ms, hms⟩ := ih
    exact (hms.function (Config.mem_keys_of_functionAt? hf)).flush p
  | symbol p hc _ ih =>
    obtain ⟨ms, hms⟩ := ih
    exact (hms.symbol hc).flush p
  | blank p hc _ ih =>
    obtain ⟨ms, hms⟩ := ih
    exact (hms.blank hc).flush p
  | @factor p c cs ts hl _ hp _ ih =>
    obtain ⟨ms, hms⟩ := ih
    have hne : p ≠ [] := by rintro rfl; cases hp
    rw [ofPending_of_ne_nil hne]
    refine ⟨_, hms.insert (.inl (List.cons_ne_nil c [])) (pendingToken_isFactor p) ?_⟩
    rw [pendingToken, String.toList_ofList, hl.filter_cons]
    rfl
  | @digit p c cs ts hc _ hcs _ ih =>
    obtain ⟨ms, hms⟩ := ih
    have hl : Loose cfg c cs := loose_of_isDigit hc cs
    refine (hms.insert (.inr hcs) (.inl rfl) ?_).flush p
    rw [String.toList_singleton, hl.filter_cons]
    rfl
  | @keep p c cs ts hl _ _ _ ih =>
    obtain ⟨ms, hms⟩ := ih
    refine ⟨ms, hms.tokens, ?_, hms.flanked, fun _ => hms.opens (.inl ?_)⟩
    · rw [hms.text, hl.filter_cons, List.append_assoc]
      rfl
    · exact List.append_ne_nil_of_right_ne_nil p (List.cons_ne_nil c [])

theorem mem_keptText {ms : List (Token × Origin)} {t : Token} (ht : (t, Origin.kept) ∈ ms) {c : Char}
    (hc : c ∈ t.text.toList) : c ∈ keptText ms := by
  induction ms with
  | nil => cases ht
  | cons m ms ih =>
    obtain ⟨u, origin⟩ := m
    cases origin with
    | kept =>
      rw [keptText, List.mem_append]
      rcases List.mem_cons.1 ht with heq | ht
      · cases heq
        exact .inl hc
      · exact .inr (ih ht)
    | inserted =>
      rcases List.mem_cons.1 ht with heq | ht
      · cases heq
      · exact ih ht

/-- The characters of the tokens are those of the formula and of the implicit operator. -/
theorem mem_formula_of_mem_scan {formula : String} {t : Token} (ht : t ∈ scan cfg formula) {c : Char}
    (hc : c ∈ t.text.toList) : c ∈ formula.toList ∨ c ∈ cfg.implicitOperator.toList := by
  obtain ⟨ms, hms⟩ := division_of_scans (@scans_scanFrom cfg [] formula.toList)
  rw [scan, ← hms.tokens] at ht
  obtain ⟨⟨u, origin⟩, hmem, rfl⟩ := List.mem_map.1 ht
  cases origin with
  | kept =>
    have htext := mem_keptText hmem hc
    rw [hms.text, List.nil_append] at htext
    exact .inl (List.mem_filter.1 htext).1
  | inserted =>
    obtain ⟨before, after, heq⟩ := List.append_of_mem hmem
    have himplicit : u = cfg.implicitToken := (hms.flanked before u after heq).1
    rw [himplicit] at hc
    exact .inr hc

end

/-- Every token is kept or inserted: the kept ones spell the formula without its blanks, and the
inserted ones are implicit operators between kept numbers and identifiers. -/
theorem scan_division (cfg : Config) (formula : String) :
    ∃ ms : List (Token × Origin), ms.map Prod.fst = scan cfg formula ∧
      keptText ms = formula.toList.filter (fun c => !Text.isBlank c) ∧ Flanked cfg ms := by
  obtain ⟨ms, hms⟩ := division_of_scans (@scans_scanFrom cfg [] formula.toList)
  exact ⟨ms, hms.tokens, hms.text, hms.flanked⟩

end Token
end Formulary
