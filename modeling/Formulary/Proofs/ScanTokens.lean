import Formulary.Proofs.ScanRules
/-!
# The tokens that a scan can give

A token is the name of a function, a symbol, the implicit operator, or made of characters that were
pending. Of such characters none begins a name, a symbol or a blank; at most one is a letter, and no
digit comes after it; and a digit stands right before the letter only if it is the first of all.
-/

set_option autoImplicit false
namespace Formulary
namespace Token

/-- What holds of pending characters before the text `cs`: each could be kept behind those before it,
but the first may be a digit before a letter. -/
structure Kept (cfg : Config) (p cs : List Char) : Prop where
  loose : ∀ q c r, p = q ++ c :: r → Loose cfg c (r ++ cs)
  factor : ∀ q c r, p = q ++ c :: r → c.isAlphanum = true → q.any Char.isAlpha = false
  digit : ∀ q c r, p = q ++ c :: r → q ≠ [] → c.isDigit = true → startsWithLetter (r ++ cs) = false

section
variable {cfg : Config}

theorem append_cons_eq_singleton {q r : List Char} {c d : Char} (h : [c] = q ++ d :: r) :
    q = [] ∧ d = c ∧ r = [] := by
  cases q with
  | nil =>
    cases h
    exact ⟨rfl, rfl, rfl⟩
  | cons x q =>
    rw [List.cons_append, List.cons.injEq] at h
    exact absurd h.2.symm (List.append_ne_nil_of_right_ne_nil q (List.cons_ne_nil d r))

theorem append_singleton_cases {p q r : List Char} {c d : Char} (h : p ++ [c] = q ++ d :: r) :
    (q = p ∧ d = c ∧ r = []) ∨ ∃ s, r = s ++ [c] ∧ p = q ++ d :: s := by
  rcases List.eq_nil_or_concat r with rfl | ⟨s, x, rfl⟩
  · obtain ⟨hp, hc⟩ := List.append_inj' h rfl
    cases hc
    exact .inl ⟨hp.symm, rfl, rfl⟩
  · rw [List.concat_eq_append, ← List.cons_append, ← List.append_assoc] at h
    obtain ⟨hp, hc⟩ := List.append_inj' h rfl
    cases hc
    exact .inr ⟨s, List.concat_eq_append, hp⟩

theorem kept_nil (cs : List Char) : Kept cfg [] cs where
  loose q c r h := absurd h.symm (List.append_ne_nil_of_right_ne_nil q (List.cons_ne_nil c r))
  factor q c r h := absurd h.symm (List.append_ne_nil_of_right_ne_nil q (List.cons_ne_nil c r))
  digit q c r h := absurd h.symm (List.append_ne_nil_of_right_ne_nil q (List.cons_ne_nil c r))

theorem kept_singleton {c : Char} {cs : List Char} (hl : Loose cfg c cs) : Kept cfg [c] cs where
  loose q d r h := by
    obtain ⟨rfl, rfl, rfl⟩ := append_cons_eq_singleton h
    exact hl
  factor q d r h _ := by
    obtain ⟨rfl, rfl, rfl⟩ := append_cons_eq_singleton h
    rfl
  digit q d r h hq := absurd (append_cons_eq_singleton h).1 hq

theorem Kept.keep {p cs : List Char} {c : Char} (h : Kept cfg p (c :: cs)) (hl : Loose cfg c cs)
    (hp : c.isAlphanum = true → p.any Char.isAlpha = false)
    (hcs : c.isDigit = true → startsWithLetter cs = false) : Kept cfg (p ++ [c]) cs where
  loose q d r heq := by
    rcases append_singleton_cases heq with ⟨rfl, rfl, rfl⟩ | ⟨s, rfl, hs⟩
    · exact hl
    · rw [List.append_assoc]
      exact h.loose q d s hs
  factor q d r heq hd := by
    rcases append_singleton_cases heq with ⟨rfl, rfl, rfl⟩ | ⟨s, rfl, hs⟩
    · exact hp hd
    · exact h.factor q d s hs hd
  digit q d r heq hq hd := by
    rcases append_singleton_cases heq with ⟨rfl, rfl, rfl⟩ | ⟨s, rfl, hs⟩
    · exact hcs hd
    · rw [List.append_assoc]
      exact h.digit q d s hs hq hd

theorem Loose.of_append {c : Char} {r cs : List Char} (h : Loose cfg c (r ++ cs)) : Loose cfg c r where
  functionAt? := Config.functionAt?_none_of_prefix h.functionAt? (List.prefix_append (c :: r) cs)
  isSymbol := h.isSymbol
  isBlank := h.isBlank

theorem startsWithLetter_of_append {r cs : List Char} (h : startsWithLetter (r ++ cs) = false) :
    startsWithLetter r = false := by
  cases r with
  | nil => rfl
  | cons c r => exact h

theorem Kept.alone {p cs : List Char} (h : Kept cfg p cs) : Kept cfg p [] where
  loose q c r heq := by
    rw [List.append_nil]
    exact (h.loose q c r heq).of_append
  factor := h.factor
  digit q c r heq hq hc := by
    rw [List.append_nil]
    exact startsWithLetter_of_append (h.digit q c r heq hq hc)

theorem Kept.tail {c : Char} {p : List Char} (h : Kept cfg (c :: p) []) : Kept cfg p [] where
  loose q d r heq := h.loose (c :: q) d r (congrArg (c :: ·) heq)
  factor q d r heq hd := by
    have hq := h.factor (c :: q) d r (congrArg (c :: ·) heq) hd
    rw [List.any_cons, Bool.or_eq_false_iff] at hq
    exact hq.2
  digit q d r heq _ hd := h.digit (c :: q) d r (congrArg (c :: ·) heq) (List.cons_ne_nil c q) hd

theorem Kept.loose_of_mem {p : List Char} (h : Kept cfg p []) {c : Char} (hc : c ∈ p) :
    ∃ r, Loose cfg c r := by
  obtain ⟨q, r, rfl⟩ := List.append_of_mem hc
  exact ⟨r ++ [], h.loose q c r rfl⟩

theorem Kept.not_name {p : List Char} (h : Kept cfg p []) :
    ∀ name ∈ cfg.functions.keys, ¬name.toList <:+: p := by
  rintro name hname ⟨q, r, hp⟩
  obtain ⟨c, cs, hcs, _⟩ := Config.nameCharacters_of_mem_keys hname
  rw [hcs, List.append_assoc, List.cons_append] at hp
  have hnone := (h.loose q c (cs ++ r) hp.symm).functionAt?
  refine Config.functionAt?_eq_none_iff.1 hnone name hname ?_
  rw [hcs, List.append_nil]
  exact List.prefix_append (c :: cs) r

/-- The tokens of scans. -/
inductive Scanned (cfg : Config) : Token → Prop
  | pending {p : List Char} (hp : p ≠ []) (hk : Kept cfg p []) : Scanned cfg (pendingToken p)
  | function {name : String} (hf : cfg.functionAt? name.toList = some name) :
      Scanned cfg ⟨.identifier, name⟩
  | symbol {c : Char} (hc : cfg.isSymbol c = true) : Scanned cfg (ofSymbol c)
  | implicit : Scanned cfg cfg.implicitToken

theorem Kept.scanned_flush {p cs : List Char} (h : Kept cfg p cs) {ts : List Token}
    (hts : ∀ t ∈ ts, Scanned cfg t) : ∀ t ∈ ofPending p ++ ts, Scanned cfg t := by
  refine List.forall_mem_append.2 ⟨?_, hts⟩
  by_cases hp : p = []
  · subst hp
    exact List.forall_mem_nil _
  · rw [ofPending_of_ne_nil hp]
    exact List.forall_mem_singleton.2 (.pending hp h.alone)

theorem scanned_digit {c : Char} (h : c.isDigit = true) :
    Scanned cfg ⟨.number, String.singleton c⟩ := by
  have hnumeral : isNumeral [c] = true := by
    unfold isNumeral
    rw [List.dropWhile_cons_of_pos h]
    rfl
  have htoken : pendingToken [c] = ⟨.number, String.singleton c⟩ := pendingToken_of_isNumeral hnumeral
  rw [← htoken]
  exact .pending (List.cons_ne_nil c []) (kept_singleton (loose_of_isDigit h []))

theorem scanned_of_scans {p cs : List Char} {ts : List Token} (h : Scans cfg p cs ts)
    (hk : Kept cfg p cs) : ∀ t ∈ ts, Scanned cfg t := by
  -- each rule leaves pending characters that are well kept before the text it goes on with
  induction h with
  | done p =>
    have hlast := hk.scanned_flush (List.forall_mem_nil _)
    rwa [List.append_nil] at hlast
  | @function p name cs ts hf _ ih =>
    have hpre := List.prefix_append name.toList cs
    have hname := Config.functionAt?_of_prefix hf (List.prefix_refl _) hpre
    exact hk.scanned_flush (List.forall_mem_cons.2 ⟨.function hname, ih (kept_nil _)⟩)
  | symbol p hc _ ih => exact hk.scanned_flush (List.forall_mem_cons.2 ⟨.symbol hc, ih (kept_nil _)⟩)
  | blank p _ _ ih => exact hk.scanned_flush (ih (kept_nil _))
  | factor hl _ _ _ ih =>
    exact hk.scanned_flush (List.forall_mem_cons.2 ⟨.implicit, ih (kept_singleton hl)⟩)
  | digit hc _ _ _ ih =>
    have hrest := List.forall_mem_cons.2 ⟨Scanned.implicit, ih (kept_nil _)⟩
    exact hk.scanned_flush (List.forall_mem_cons.2 ⟨scanned_digit hc, hrest⟩)
  | keep hl hp hcs _ ih => exact ih (hk.keep hl hp hcs)

theorem scanned_of_mem_scan {formula : String} {t : Token} (h : t ∈ scan cfg formula) :
    Scanned cfg t :=
  scanned_of_scans (scans_scanFrom [] formula.toList) (kept_nil _) t h

end
end Token
end Formulary
