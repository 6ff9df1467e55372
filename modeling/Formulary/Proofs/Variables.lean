import Formulary.Proofs.CalculationRecord
/-!
# What a calculation depends on

The variables of a formula are the letters that stand alone among its tokens. With one-letter names bound
only, and without functions of one letter, nothing else of the bindings is looked at: bindings that agree
on the variables of a formula give it the same calculation.
-/

set_option autoImplicit false
namespace Formulary

/-- Whether a text is a single letter. -/
def IsLetter (s : String) : Prop := ∃ c, c.isAlpha = true ∧ s = String.singleton c

instance (s : String) : Decidable (IsLetter s) :=
  decidable_of_iff (s.toList.length = 1 ∧ s.toList.all Char.isAlpha = true) <| by
    constructor
    · rintro ⟨hlength, hall⟩
      obtain ⟨c, hc⟩ := List.length_eq_one_iff.1 hlength
      rw [hc, List.all_cons, Bool.and_eq_true] at hall
      refine ⟨c, hall.1, String.toList_injective ?_⟩
      rw [hc, String.toList_singleton]
    · rintro ⟨c, hc, rfl⟩
      rw [String.toList_singleton, List.all_cons, hc]
      exact ⟨rfl, rfl⟩

section
variable {cfg : Config} {env env' : Environment}

/-- A run looks up nothing but the identifiers among its tokens. -/
theorem run_congr {ts : List Token}
    (h : ∀ t ∈ ts, t.kind = .identifier → env t.text = env' t.text) (s : Stacks) :
    run cfg env ts s = run cfg env' ts s := by
  -- the two runs take the same way, since each step of it is decided by the same look-up
  induction ts using run_induction cfg env generalizing s with
  | nil => rw [run_nil, run_nil]
  | number text ts ih =>
    have hrest := ih fun u hu => h u (List.mem_cons_of_mem _ hu)
    simp only [run_number, hrest]
  | operator symbol ts ih =>
    have hrest := funext (ih fun u hu => h u (List.mem_cons_of_mem _ hu))
    rw [run_operator, run_operator, hrest]
  | lparen text ts ih =>
    have hrest := ih fun u hu => h u (List.mem_cons_of_mem _ hu)
    rw [run_lparen, run_lparen, hrest]
  | rparen text ts ih =>
    have hrest := funext (ih fun u hu => h u (List.mem_cons_of_mem _ hu))
    rw [run_rparen, run_rparen, hrest]
  | bound name x ts hbound ih =>
    have hbound' := (h ⟨.identifier, name⟩ List.mem_cons_self rfl).symm.trans hbound
    have hrest := ih fun u hu => h u (List.mem_cons_of_mem _ hu)
    rw [run_bound hbound, run_bound hbound']
    simp only [hrest]
  | skipped name ts hunbound hno ih =>
    have hunbound' := (h ⟨.identifier, name⟩ List.mem_cons_self rfl).symm.trans hunbound
    have hrest := ih fun u hu => h u (List.mem_cons_of_mem _ hu)
    rw [run_skipped hunbound hno, run_skipped hunbound' hno, hrest]
  | unclosed name f text inner hunbound hf hsplit =>
    have hunbound' := (h ⟨.identifier, name⟩ List.mem_cons_self rfl).symm.trans hunbound
    rw [run_unclosed hf hunbound hsplit, run_unclosed hf hunbound' hsplit]
  | call name f text arg close rest hunbound hf hsplit iharg ihrest =>
    have hunbound' := (h ⟨.identifier, name⟩ List.mem_cons_self rfl).symm.trans hunbound
    have harg := iharg fun u hu => h u (by simp [hu])
    have hrest := ihrest fun u hu => h u (by simp [hu])
    rw [run_call hf hunbound hsplit, run_call hf hunbound' hsplit]
    unfold evaluate
    simp only [harg, hrest]
  | unparenthesized name f ts hunbound hf hopen =>
    have hunbound' := (h ⟨.identifier, name⟩ List.mem_cons_self rfl).symm.trans hunbound
    rw [run_unparenthesized hf hunbound hopen, run_unparenthesized hf hunbound' hopen]

theorem evaluate_congr {ts : List Token}
    (h : ∀ t ∈ ts, t.kind = .identifier → env t.text = env' t.text) :
    evaluate cfg env ts = evaluate cfg env' ts := by
  unfold evaluate
  rw [run_congr h]

end

namespace Token
variable {cfg : Config}

theorem kind_of_isVariable {t : Token} (h : t.isVariable cfg = true) : t.kind = .identifier := by
  unfold isVariable at h
  simp only [Bool.and_eq_true, beq_iff_eq] at h
  exact h.1.1.1.1

theorem letters_of_isVariable {t : Token} (h : t.isVariable cfg = true) :
    t.text ≠ "" ∧ t.text.toList.all Char.isAlpha = true ∧ cfg.isFunction t.text = false := by
  unfold isVariable at h
  simp only [Bool.and_eq_true, Bool.not_eq_true'] at h
  obtain ⟨⟨⟨⟨-, hne⟩, hall⟩, -⟩, hf⟩ := h
  refine ⟨?_, hall, hf⟩
  rintro heq
  rw [heq] at hne
  cases hne

/-- What is kept pending has one letter at most, so a variable is a single one. -/
theorem isLetter_of_isVariable {formula : String} {t : Token} (ht : t ∈ scan cfg formula)
    (h : t.isVariable cfg = true) : IsLetter t.text := by
  obtain ⟨hne, hall, hf⟩ := letters_of_isVariable h
  have hkind := kind_of_isVariable h
  cases scanned_of_mem_scan ht with
  | @pending p hp hk =>
    have htext : (pendingToken p).text.toList = p := String.toList_ofList
    rw [htext] at hall
    match p with
    | [] => exact absurd rfl hp
    | [c] => exact ⟨c, by simpa using hall, String.toList_injective (by rw [htext, String.toList_singleton])⟩
    | c :: d :: r =>
      simp only [List.all_cons, Bool.and_eq_true] at hall
      have hfirst := hk.factor [c] d r rfl (Text.isAlphanum_of_isAlpha hall.2.1)
      rw [List.any_cons, hall.1] at hfirst
      cases hfirst
  | function hname =>
    have hfunction : cfg.isFunction _ = true :=
      (Table.contains_iff_mem_keys _ _).2 (Config.mem_keys_of_functionAt? hname)
    rw [hfunction] at hf
    cases hf
  | symbol => exact absurd hkind (kind_ofSymbol _).1
  | implicit => cases hkind

theorem isVariable_eq (hcfg : ∀ name ∈ cfg.functions.keys, ¬IsLetter name) {formula : String}
    {t : Token} (ht : t ∈ scan cfg formula) :
    t.isVariable cfg = (t.kind == .identifier && decide (IsLetter t.text)) := by
  rw [Bool.eq_iff_iff, Bool.and_eq_true, beq_iff_eq, decide_eq_true_eq]
  constructor
  · exact fun h => ⟨kind_of_isVariable h, isLetter_of_isVariable ht h⟩
  · rintro ⟨hkind, hletter⟩
    obtain ⟨_, text⟩ := t
    cases hkind
    have hf : cfg.isFunction text = false := by
      rw [← Bool.not_eq_true]
      exact fun h => hcfg text ((Table.contains_iff_mem_keys _ _).1 h) hletter
    obtain ⟨c, hc, rfl⟩ := hletter
    exact Config.isVariable_letter hc hf

theorem nodup_addName {names : List String} (h : names.Nodup) (name : String) :
    (addName names name).Nodup := by
  unfold addName
  split
  · exact h
  · rename_i hnew
    refine List.nodup_append.2 ⟨h, List.nodup_singleton _, fun a ha b hb => ?_⟩
    rw [List.mem_singleton.1 hb]
    exact ne_of_mem_of_not_mem ha hnew

theorem nodup_foldl_addName {names : List String} (h : names.Nodup) (xs : List String) :
    (xs.foldl addName names).Nodup := by
  induction xs generalizing names with
  | nil => exact h
  | cons x xs ih => exact ih (nodup_addName h x)

end Token

/-- Whether only single letters are bound. -/
def Bindings.Lettered (b : Bindings) : Prop := ∀ name ∈ b.keys, IsLetter name

namespace Config
variable {cfg : Config} {formula : String} {b b' : Bindings}

theorem mem_variableNames {name : String} : name ∈ cfg.variableNames formula ↔
    ∃ t ∈ Token.scan cfg formula, t.isVariable cfg = true ∧ t.text = name := by
  rw [variableNames_eq_eraseDups, List.mem_eraseDups]
  simp only [variableTexts, List.mem_map, List.mem_filter, and_assoc]

theorem get?_of_lettered (hb : b.Lettered) {name : String} (h : ¬IsLetter name) :
    b.get? name = none := by
  cases hname : b.get? name with
  | none => rfl
  | some d => exact absurd (hb name (Table.mem_keys_of_get? hname)) h

/-- The evaluation and the search for variables take the same identifiers for variables. -/
theorem get?_of_agree (hcfg : ∀ name ∈ cfg.functions.keys, ¬IsLetter name) (hb : b.Lettered)
    (hb' : b'.Lettered) (hagree : ∀ name ∈ cfg.variableNames formula, b.get? name = b'.get? name)
    {t : Token} (ht : t ∈ Token.scan cfg formula) (hkind : t.kind = .identifier) :
    b.get? t.text = b'.get? t.text := by
  by_cases hletter : IsLetter t.text
  · refine hagree _ (mem_variableNames.2 ⟨t, ht, ?_, rfl⟩)
    rw [Token.isVariable_eq hcfg ht, hkind, decide_eq_true hletter]
    rfl
  · rw [get?_of_lettered hb hletter, get?_of_lettered hb' hletter]

theorem outcome_congr (hcfg : ∀ name ∈ cfg.functions.keys, ¬IsLetter name) (hb : b.Lettered)
    (hb' : b'.Lettered) (hagree : ∀ name ∈ cfg.variableNames formula, b.get? name = b'.get? name) :
    cfg.outcome formula b = cfg.outcome formula b' := by
  have hcheck : cfg.checkBindings b.contains formula = cfg.checkBindings b'.contains formula := by
    unfold checkBindings
    have hfilter : ((cfg.variableNames formula).filter fun name => !b.contains name) =
        (cfg.variableNames formula).filter fun name => !b'.contains name := by
      refine List.filter_congr fun name hname => ?_
      unfold Table.contains
      rw [hagree name hname]
    simp only [hfilter]
  have hevaluate : evaluate cfg (.ofBindings b) (Token.scan cfg formula) =
      evaluate cfg (.ofBindings b') (Token.scan cfg formula) := by
    refine evaluate_congr fun t ht hkind => ?_
    unfold Environment.ofBindings
    rw [get?_of_agree hcfg hb hb' hagree ht hkind]
  unfold outcome
  rw [hcheck, hevaluate]

/-- The variables of a formula are the single letters among its identifiers, each once, in the order of
their first appearance; and the result depends on nothing else that is bound. -/
theorem calculate_agreeing (hcfg : ∀ name ∈ cfg.functions.keys, ¬IsLetter name) (formula : String) :
    ((cfg.variableNames formula).Nodup ∧ (∀ name ∈ cfg.variableNames formula, IsLetter name) ∧
      cfg.variableNames formula = (((Token.scan cfg formula).filter fun t =>
        t.kind == .identifier && decide (IsLetter t.text)).map Token.text).eraseDups) ∧
    ∀ b b' : Bindings, b.Lettered → b'.Lettered →
      (∀ name ∈ cfg.variableNames formula, b.get? name = b'.get? name) →
      ∀ {time : Type} [Clock time] (s : Session time),
        (s.calculate cfg (.text formula) b).1 = (s.calculate cfg (.text formula) b').1 := by
  refine ⟨⟨Token.nodup_foldl_addName List.nodup_nil _, ?_, ?_⟩, ?_⟩
  · intro name hname
    obtain ⟨t, ht, hvariable, rfl⟩ := mem_variableNames.1 hname
    exact Token.isLetter_of_isVariable ht hvariable
  · rw [variableNames_eq_eraseDups, variableTexts,
      List.filter_congr fun t ht => Token.isVariable_eq hcfg ht]
  · intro b b' hb hb' hagree time _ s
    rw [Session.calculate_fst, Session.calculate_fst]
    unfold calculate
    rw [outcome_congr hcfg hb hb' hagree]

/-- Values for two names, and for others. -/
def coordinates (others : List (String × Datum)) : Bindings :=
  .ofList ([("x", .float 0.5), ("y", .float 2)] ++ others)

theorem calculate_agreeing_sum : standard.variableNames "2x+sin(y)" = ["x", "y"] ∧
    ((Session.begun 0).calculate standard (.text "2x+sin(y)") (coordinates [])).1 =
      ((Session.begun 0).calculate standard (.text "2x+sin(y)")
        (coordinates [("s", .null), ("z", .float 0)])).1 := by
  have hcfg : ∀ name ∈ standard.functions.keys, ¬IsLetter name := by decide +kernel
  have hnames : standard.variableNames "2x+sin(y)" = ["x", "y"] := by decide +kernel
  have hfewer : ∀ name ∈ (coordinates []).keys, IsLetter name := by decide +kernel
  have hmore : ∀ name ∈ (coordinates [("s", .null), ("z", .float 0)]).keys, IsLetter name := by
    decide +kernel
  obtain ⟨-, hdepends⟩ := calculate_agreeing hcfg "2x+sin(y)"
  refine ⟨hnames, hdepends _ _ hfewer hmore ?_ _⟩
  rw [hnames]
  exact List.forall_mem_cons.2 ⟨rfl, List.forall_mem_singleton.2 rfl⟩

end Config
end Formulary
