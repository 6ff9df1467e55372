import Mathlib.Data.List.Basic
import Formulary.Catalog
import Formulary.Proofs.ScanSeparators
import Formulary.Proofs.ScanTokens
/-!
# Scanning the tokens of a scan again

The tokens of a formula, joined by blanks and scanned again, are the same tokens, except where a
factor that begins with a digit and then a letter comes apart. After that nothing changes any more.
-/

set_option autoImplicit false
namespace Formulary
namespace Token

/-- What a token is scanned as when it stands alone: an identifier that begins with a digit and a
letter is a product. -/
def rescanned (cfg : Config) (t : Token) : List Token :=
  match t.kind, t.text.toList with
  | .identifier, d :: r =>
    if d.isDigit && startsWithLetter r then
      [⟨.number, String.singleton d⟩, cfg.implicitToken, ⟨.identifier, String.ofList r⟩]
    else [t]
  | _, _ => [t]

section
variable {cfg : Config}

theorem rescanned_of_kind {t : Token} (h : t.kind ≠ .identifier) : rescanned cfg t = [t] := by
  unfold rescanned
  split
  · rename_i hk _
    exact absurd hk h
  · rfl

theorem rescanned_product {d : Char} {r : List Char} (h : (d.isDigit && startsWithLetter r) = true) :
    rescanned cfg ⟨.identifier, String.ofList (d :: r)⟩ =
      [⟨.number, String.singleton d⟩, cfg.implicitToken, ⟨.identifier, String.ofList r⟩] := by
  unfold rescanned
  simp only [String.toList_ofList]
  rw [if_pos h]

theorem rescanned_of_cons {t : Token} {d : Char} {r : List Char} (ht : t.text.toList = d :: r)
    (h : (d.isDigit && startsWithLetter r) = false) : rescanned cfg t = [t] := by
  unfold rescanned
  split
  · rename_i e s _ hs
    rw [ht, List.cons.injEq] at hs
    rw [← hs.1, ← hs.2, h]
    rfl
  · rfl

theorem rescanned_of_letter {t : Token} {c : Char} {cs : List Char} (ht : t.text.toList = c :: cs)
    (hc : c.isAlpha = true) : rescanned cfg t = [t] := by
  refine rescanned_of_cons ht ?_
  rw [Text.isDigit_of_isAlpha hc]
  rfl

/-- Well kept characters are kept together again, unless they begin with a digit and a letter. -/
theorem scans_of_kept {p : List Char} (hk : Kept cfg p [])
    (hp : ∀ d r, p = d :: r → d.isDigit = true → startsWithLetter r = false) :
    ∀ q r, p = q ++ r → Scans cfg q r (ofPending p) := by
  intro q r heq
  induction r generalizing q with
  | nil =>
    rw [List.append_nil] at heq
    rw [heq]
    exact .done q
  | cons c r ih =>
    have hl := hk.loose q c r heq
    rw [List.append_nil] at hl
    refine .keep hl (hk.factor q c r heq) ?_ (ih (q ++ [c]) ?_)
    · intro hc
      by_cases hq : q = []
      · subst hq
        exact hp c r heq hc
      · have hdigit := hk.digit q c r heq hq hc
        rwa [List.append_nil] at hdigit
    · rw [List.append_assoc]
      exact heq

theorem dropWhile_isDigit_of_letter {r : List Char} (h : startsWithLetter r = true) :
    r.dropWhile Char.isDigit = r := by
  cases r with
  | nil => rfl
  | cons c r =>
    have hc : ¬c.isDigit = true := by
      rw [Text.isDigit_of_isAlpha h]
      exact Bool.false_ne_true
    exact List.dropWhile_cons_of_neg hc

theorem isNumeral_of_letter {cs : List Char}
    (h : startsWithLetter (cs.dropWhile Char.isDigit) = true) : isNumeral cs = false := by
  unfold isNumeral
  split
  · rename_i hnil
    rw [hnil] at h
    cases h
  · rename_i fraction hpoint
    rw [hpoint] at h
    cases h
  · rfl

theorem scan_pendingToken {p : List Char} (hp : p ≠ []) (hk : Kept cfg p []) :
    scan cfg (pendingToken p).text = rescanned cfg (pendingToken p) := by
  obtain ⟨d, r, rfl⟩ := List.exists_cons_of_ne_nil hp
  have htext : (pendingToken (d :: r)).text.toList = d :: r := String.toList_ofList
  unfold scan
  rw [htext]
  cases hproduct : d.isDigit && startsWithLetter r with
  | true =>
    obtain ⟨hd, hr⟩ := Bool.and_eq_true_iff.1 hproduct
    have hne : r ≠ [] := by rintro rfl; cases hr
    have hdrop := dropWhile_isDigit_of_letter hr
    have hwhole : isNumeral (d :: r) = false :=
      isNumeral_of_letter (by rwa [List.dropWhile_cons_of_pos hd, hdrop])
    have hpart : isNumeral r = false := isNumeral_of_letter (by rwa [hdrop])
    have hrest := scans_of_kept hk.tail (fun e s heq he => ?_) [] r rfl
    · have hscan : scanFrom cfg [] (d :: r) = _ := scanFrom_of_scans (.digit hd rfl hr hrest)
      rw [hscan, ofPending_of_ne_nil hne, pendingToken_of_not_isNumeral hpart,
        pendingToken_of_not_isNumeral hwhole, rescanned_product hproduct]
      rfl
    · rw [heq] at hr
      have hletter : e.isAlpha = true := hr
      rw [Text.isAlpha_of_isDigit he] at hletter
      cases hletter
  | false =>
    rw [rescanned_of_cons htext hproduct, ← ofPending_of_ne_nil hp]
    refine scanFrom_of_scans (scans_of_kept hk (fun e s heq he => ?_) [] (d :: r) rfl)
    cases heq
    rwa [he, Bool.true_and] at hproduct

theorem scan_name {name : String} (hf : cfg.functionAt? name.toList = some name) :
    scan cfg name = rescanned cfg ⟨.identifier, name⟩ := by
  obtain ⟨c, cs, hcs, hc, _⟩ := Config.nameCharacters_of_mem_keys (Config.mem_keys_of_functionAt? hf)
  rw [rescanned_of_letter hcs hc, scan_of_functionAt? hf]

theorem scan_ofSymbol {c : Char} (hc : cfg.isSymbol c = true) :
    scan cfg (ofSymbol c).text = rescanned cfg (ofSymbol c) := by
  rw [rescanned_of_kind (kind_ofSymbol c).1]
  unfold scan
  rw [toList_text_ofSymbol]
  exact scanFrom_of_scans (.symbol [] hc (.done []))

theorem operator_eq_ofSymbol {symbol : String} (h : cfg.isOperator symbol = true) :
    ∃ c, cfg.isSymbol c = true ∧ (⟨.operator, symbol⟩ : Token) = ofSymbol c := by
  obtain ⟨c, rfl, _⟩ := operatorSymbol_cases (Config.operatorSymbol_of_isOperator h)
  exact ⟨c, Config.isSymbol_of_isOperator h, (ofSymbol_of_isOperator h).symm⟩

theorem scan_text_of_scanned (himplicit : cfg.isOperator cfg.implicitOperator = true) {t : Token}
    (h : Scanned cfg t) : scan cfg t.text = rescanned cfg t := by
  cases h with
  | pending hp hk => exact scan_pendingToken hp hk
  | function hf => exact scan_name hf
  | symbol hc => exact scan_ofSymbol hc
  | implicit =>
    obtain ⟨c, hc, heq⟩ := operator_eq_ofSymbol himplicit
    unfold Config.implicitToken
    rw [heq]
    exact scan_ofSymbol hc

theorem rescanned_cases (t : Token) :
    rescanned cfg t = [t] ∨ ∃ d r, startsWithLetter r = true ∧ rescanned cfg t =
      [⟨.number, String.singleton d⟩, cfg.implicitToken, ⟨.identifier, String.ofList r⟩] := by
  unfold rescanned
  split
  · rename_i d r _ _
    split
    · rename_i hproduct
      exact .inr ⟨d, r, (Bool.and_eq_true_iff.1 hproduct).2, rfl⟩
    · exact .inl rfl
  · exact .inl rfl

theorem rescanned_of_mem {t u : Token} (h : u ∈ rescanned cfg t) : rescanned cfg u = [u] := by
  rcases rescanned_cases t with ht | ⟨d, r, hr, ht⟩
  · have hu := ht
    rw [ht, List.mem_singleton] at h
    rwa [← h] at hu
  · rw [ht] at h
    simp only [List.mem_cons, List.not_mem_nil, or_false] at h
    rcases h with rfl | rfl | rfl
    · exact rescanned_of_kind nofun
    · exact rescanned_of_kind nofun
    · obtain ⟨e, s, rfl⟩ := List.exists_cons_of_ne_nil (show r ≠ [] by rintro rfl; cases hr)
      exact rescanned_of_letter String.toList_ofList hr

end

/-- Scanning the joined tokens of a formula takes apart each identifier that begins with a digit and
a letter, and nothing else. Doing so once more changes nothing. -/
theorem scan_join_scan {cfg : Config} (himplicit : cfg.isOperator cfg.implicitOperator = true)
    (formula : String) :
    scan cfg (join (scan cfg formula)) = (scan cfg formula).flatMap (rescanned cfg) ∧
      scan cfg (join (scan cfg (join (scan cfg formula)))) = scan cfg (join (scan cfg formula)) := by
  have hagain (g : String) : scan cfg (join (scan cfg g)) = (scan cfg g).flatMap (rescanned cfg) := by
    rw [scan_join]
    refine List.flatMap_congr fun t ht => ?_
    exact scan_text_of_scanned himplicit (scanned_of_mem_scan ht)
  refine ⟨hagain formula, ?_⟩
  rw [hagain (join (scan cfg formula))]
  have hfixed : ∀ u ∈ scan cfg (join (scan cfg formula)), rescanned cfg u = [u] := by
    intro u hu
    rw [hagain formula] at hu
    obtain ⟨t, _, ht⟩ := List.mem_flatMap.1 hu
    exact rescanned_of_mem ht
  rw [List.flatMap_congr hfixed, List.flatMap_singleton']

/-- `a2b` is scanned as `a`, `*` and `2b`, and joined and scanned again as `a`, `*`, `2`, `*` and
`b`. -/
theorem scan_join_scan_a2b :
    scan Config.standard "a2b" = [⟨.identifier, "a"⟩, ⟨.operator, "*"⟩, ⟨.identifier, "2b"⟩] ∧
      scan Config.standard (join (scan Config.standard "a2b")) =
        [⟨.identifier, "a"⟩, ⟨.operator, "*"⟩, ⟨.number, "2"⟩, ⟨.operator, "*"⟩,
          ⟨.identifier, "b"⟩] := by
  refine ⟨by decide +kernel, ?_⟩
  rw [(scan_join_scan (by decide +kernel) "a2b").1]
  decide +kernel

end Token
end Formulary
