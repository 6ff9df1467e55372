import Formulary.Proofs.CopiedMarkup
/-!
# Display markup token by token

Display markup is made by dropping multiplication signs from the finished markup of a formula. A sign
that goes is always the operator of one token, and the letter or digit before it is the last character
of the token before. So what is shown of a token depends on nothing but that token and the one before.
-/

set_option autoImplicit false
namespace Formulary

namespace Token

/-- Whether the text of a token ends in a letter or digit. -/
def endsAlphanum (t : Token) : Bool := t.text.toList.getLast?.any Char.isAlphanum

theorem endsAlphanum_of_concat {t : Token} {q : List Char} {e : Char} (h : t.text.toList = q ++ [e]) :
    t.endsAlphanum = e.isAlphanum := by
  unfold endsAlphanum
  rw [h, List.getLast?_concat, Option.any_some]

end Token

namespace Markup

/-- What display markup shows of a token that stands behind another one, or in front. -/
def shown (cfg : Config) (before : Option Token) (t : Token) : String :=
  match t.kind with
  | .operator =>
    if t.text = "*" ∧ before.any Token.endsAlphanum = true then " " else " " ++ t.text ++ " "
  | .identifier => if cfg.isFunction t.text then "\\" ++ t.text else t.text
  | .number | .lparen | .rparen => t.text

/-- What display markup shows of tokens, each with the one before it. -/
def shownFrom (cfg : Config) (before : Option Token) (ts : List Token) : List String :=
  List.zipWith (shown cfg) (before :: ts.map some) ts

section
variable {c d : Char}

theorem dropTimes_cons_of_not_isAlphanum (hc : c.isAlphanum = false) (cs : List Char) :
    dropTimes (c :: cs) = c :: dropTimes cs := by
  rw [dropTimes.eq_def]
  split <;> simp_all

theorem dropTimes_cons_cons (hd : d ≠ '*') (hb : Text.isBlank d = false) (cs : List Char) :
    dropTimes (c :: d :: cs) = c :: dropTimes (d :: cs) := by
  rw [dropTimes.eq_def]
  split <;> simp_all

theorem dropTimes_blank_times (hc : c.isAlphanum = true) (cs : List Char) :
    dropTimes (c :: ' ' :: '*' :: cs) = c :: dropTimes cs := by
  have hblank : Text.isBlank ' ' = true := by decide
  rw [dropTimes]
  · rw [hc, hblank]
    rfl
  · exact fun h => absurd h (by decide)

theorem dropTimes_blank_cons (hd : d ≠ '*') (cs : List Char) :
    dropTimes (c :: ' ' :: d :: cs) = c :: dropTimes (' ' :: d :: cs) := by
  rw [dropTimes.eq_def]
  split <;> simp_all

/-- Of an operator between blanks nothing goes but a multiplication sign behind a letter or digit. -/
theorem dropTimes_operator (hd : d.isAlphanum = false) (cs : List Char) :
    dropTimes (c :: ' ' :: d :: ' ' :: cs) =
      c :: (if d = '*' ∧ c.isAlphanum = true then [] else [' ', d]) ++ dropTimes (' ' :: cs) := by
  have hkept : dropTimes (' ' :: d :: ' ' :: cs) = ' ' :: d :: dropTimes (' ' :: cs) := by
    rw [dropTimes_cons_of_not_isAlphanum (by decide), dropTimes_cons_of_not_isAlphanum hd]
  split
  · rename_i h
    rw [h.1, dropTimes_blank_times h.2]
    rfl
  · rename_i h
    rcases Decidable.not_and_iff_or_not.1 h with hnot | hnot
    · rw [dropTimes_blank_cons hnot, hkept]
      rfl
    · rw [dropTimes_cons_of_not_isAlphanum (Bool.eq_false_iff.2 hnot), hkept]
      rfl

/-- Within a text nothing goes. -/
theorem dropTimes_append {q : List Char} (hq : ∀ d ∈ q, d ≠ '*' ∧ Text.isBlank d = false) {e : Char}
    (he : e ≠ '*' ∧ Text.isBlank e = false) (cs : List Char) :
    dropTimes (c :: (q ++ e :: cs)) = c :: (q ++ dropTimes (e :: cs)) := by
  induction q generalizing c with
  | nil => exact dropTimes_cons_cons he.1 he.2 cs
  | cons d q ih =>
    obtain ⟨hd, hq⟩ := List.forall_mem_cons.1 hq
    rw [List.cons_append, dropTimes_cons_cons hd.1 hd.2, ih hq]
    rfl

end

section
variable {cfg : Config}

theorem shownFrom_cons (before : Option Token) (t : Token) (ts : List Token) :
    shownFrom cfg before (t :: ts) = shown cfg before t :: shownFrom cfg (some t) ts := rfl

theorem isFunction_of_head {s : String} {c : Char} {cs : List Char} (hs : s.toList = c :: cs)
    (hc : c.isAlpha = false) : cfg.isFunction s = false := by
  refine Bool.eq_false_iff.2 fun hf => ?_
  obtain ⟨d, ds, hds, hd, _⟩ := functionName_cases (Config.functionName_of_isFunction hf)
  obtain ⟨rfl, _⟩ := List.cons.inj (hs.symm.trans hds)
  rw [hd] at hc
  cases hc

theorem isFunction_of_literal {s : String} (h : DecimalLiteral s.toList) : cfg.isFunction s = false := by
  have hnumeral := isNumeral_iff.2 h
  obtain ⟨c, cs, hcs⟩ := List.exists_cons_of_ne_nil (ne_nil_of_isNumeral hnumeral)
  refine isFunction_of_head hcs ?_
  rcases digit_or_point_of_isNumeral hnumeral c (hcs ▸ List.mem_cons_self) with hd | rfl
  · exact Text.isAlpha_of_isDigit hd
  · rfl

theorem ofToken_operator {t : Token} (h : cfg.isOperator t.text = true) :
    ofToken cfg t = ' ' :: t.text.toList ++ [' '] := by
  unfold ofToken
  rw [if_pos h]

theorem ofToken_of_not_operator {t : Token} (h : cfg.isOperator t.text = false) :
    ofToken cfg t = if cfg.isFunction t.text then '\\' :: t.text.toList else t.text.toList := by
  unfold ofToken
  rw [h]
  rfl

/-- A token that is no operator is shown as it stands in the markup. -/
theorem ofToken_eq_shown {t : Token} (h : Token.Shaped cfg t) (hkind : t.kind ≠ .operator)
    (before : Option Token) : ofToken cfg t = (shown cfg before t).toList := by
  rw [ofToken_of_not_operator (h.not_isOperator hkind)]
  unfold shown
  cases h with
  | operator => exact absurd rfl hkind
  | number hs => rw [isFunction_of_literal hs]; rfl
  | lparen => rw [isFunction_of_head (c := '(') rfl rfl]; rfl
  | rparen => rw [isFunction_of_head (c := ')') rfl rfl]; rfl
  | function hf => simp only [hf, if_true, String.toList_append]; rfl
  | plain => simp only [apply_ite String.toList, String.toList_append]; rfl

/-- The text of a token that is no operator is not empty, and nothing in it is dropped. -/
theorem text_of_shaped (htimes : cfg.isOperator "*" = true) {t : Token} (h : Token.Shaped cfg t)
    (hkind : t.kind ≠ .operator) :
    t.text.toList ≠ [] ∧ ∀ c ∈ t.text.toList, c ≠ '*' ∧ Text.isBlank c = false := by
  cases h with
  | operator => exact absurd rfl hkind
  | number hs =>
    have hs := isNumeral_iff.2 hs
    refine ⟨ne_nil_of_isNumeral hs, fun c hc => ?_⟩
    rcases digit_or_point_of_isNumeral hs c hc with hd | rfl
    · refine ⟨?_, Text.isBlank_of_isAlphanum (Text.isAlphanum_of_isDigit hd)⟩
      rintro rfl
      cases hd
    · decide
  | lparen => exact ⟨List.cons_ne_nil '(' [], List.forall_mem_singleton.2 (by decide)⟩
  | rparen => exact ⟨List.cons_ne_nil ')' [], List.forall_mem_singleton.2 (by decide)⟩
  | function hf =>
    obtain ⟨c, cs, hcs, _, hall⟩ := functionName_cases (Config.functionName_of_isFunction hf)
    rw [hcs]
    refine ⟨List.cons_ne_nil c cs, fun d hd => ⟨?_, isBlank_of_isNameCharacter (hall d hd)⟩⟩
    rintro rfl
    cases hall '*' hd
  | plain hs =>
    refine ⟨hs.ne_nil, fun c hc => ⟨?_, hs.not_blank c hc⟩⟩
    rintro rfl
    have hno := (hs.not_symbol '*' hc).2.2
    rw [show String.singleton '*' = "*" from rfl, htimes] at hno
    cases hno

/-- What stands in the markup of a token that is no operator, up to its last character. -/
theorem ofToken_concat (htimes : cfg.isOperator "*" = true) {t : Token} (h : Token.Shaped cfg t)
    (hkind : t.kind ≠ .operator) : ∃ q e, ofToken cfg t = q ++ [e] ∧
      (∀ d ∈ q, d ≠ '*' ∧ Text.isBlank d = false) ∧ (e ≠ '*' ∧ Text.isBlank e = false) ∧
      e.isAlphanum = t.endsAlphanum := by
  obtain ⟨hne, hkept⟩ := text_of_shaped htimes h hkind
  obtain ⟨q, e, hqe⟩ := (List.eq_nil_or_concat t.text.toList).resolve_left hne
  rw [List.concat_eq_append] at hqe
  have hends := Token.endsAlphanum_of_concat hqe
  rw [hqe] at hkept
  obtain ⟨hq, he⟩ := List.forall_mem_append.1 hkept
  rw [ofToken_of_not_operator (h.not_isOperator hkind), hqe]
  split
  · have hname : ∀ d ∈ '\\' :: q, d ≠ '*' ∧ Text.isBlank d = false :=
      List.forall_mem_cons.2 ⟨by decide, hq⟩
    exact ⟨'\\' :: q, e, rfl, hname, he e List.mem_cons_self, hends.symm⟩
  · exact ⟨q, e, rfl, hq, he e List.mem_cons_self, hends.symm⟩

theorem shown_operator {d : Char} {before : Option Token} {c : Char}
    (hc : c.isAlphanum = before.any Token.endsAlphanum) :
    (shown cfg before ⟨.operator, String.singleton d⟩).toList =
      (if d = '*' ∧ c.isAlphanum = true then [] else [' ', d]) ++ [' '] := by
  have hd : String.singleton d = "*" ↔ d = '*' := @String.singleton_inj d '*'
  unfold shown
  simp only [hd, hc]
  split
  · rfl
  · rw [String.toList_append, String.toList_append, String.toList_singleton]
    rfl

/-- Behind a letter or digit the signs go that go behind a token that ends in one. -/
theorem dropTimes_flatMap (htimes : cfg.isOperator "*" = true) {ts : List Token}
    (hshape : ∀ t ∈ ts, Token.Shaped cfg t) {c : Char} {before : Option Token}
    (hc : c.isAlphanum = before.any Token.endsAlphanum) :
    dropTimes (c :: ts.flatMap (ofToken cfg)) =
      c :: (shownFrom cfg before ts).flatMap String.toList := by
  induction ts generalizing c before with
  | nil => rfl
  | cons t ts ih =>
    obtain ⟨ht, hts⟩ := List.forall_mem_cons.1 hshape
    rw [shownFrom_cons, List.flatMap_cons, List.flatMap_cons]
    by_cases hkind : t.kind = .operator
    · obtain ⟨_, symbol⟩ := t
      cases hkind
      have ho := ht.isOperator_iff.2 rfl
      obtain ⟨d, rfl, hd, _⟩ := operatorSymbol_cases (Config.operatorSymbol_of_isOperator ho)
      have hlast : Token.endsAlphanum ⟨.operator, String.singleton d⟩ = d.isAlphanum :=
        Token.endsAlphanum_of_concat (q := []) (String.toList_singleton d)
      have hd : d.isAlphanum = false :=
        Bool.eq_false_iff.2 fun h => by rw [Text.isAlphanumeric_of_isAlphanum h] at hd; cases hd
      -- what comes behind the operator stands behind a blank
      have hblank : Char.isAlphanum ' ' =
          (some (⟨.operator, String.singleton d⟩ : Token)).any Token.endsAlphanum := by
        rw [Option.any_some, hlast, hd]
        decide
      rw [ofToken_operator ho, String.toList_singleton, shown_operator hc]
      change dropTimes (c :: ' ' :: d :: ' ' :: ts.flatMap (ofToken cfg)) = _
      rw [dropTimes_operator hd, ih hts hblank, List.append_assoc]
      rfl
    · obtain ⟨q, e, hqe, hq, he, hends⟩ := ofToken_concat htimes ht hkind
      rw [← ofToken_eq_shown ht hkind before, hqe, List.append_assoc, List.append_assoc,
        List.singleton_append, List.singleton_append, dropTimes_append hq he,
        ih hts (by rw [hends, Option.any_some])]

end

/-- Display markup is the concatenation of what it shows of each token: a blank for a multiplication sign
behind a token that ends in a letter or digit, any other operator between blanks, the name of a function
behind a backslash, and everything else as it is. -/
theorem display_eq_join {cfg : Config} (htimes : cfg.isOperator "*" = true)
    (himplicit : cfg.isOperator cfg.implicitOperator = true) (formula : String) :
    display cfg formula = String.join (shownFrom cfg none (Token.scan cfg formula)) := by
  have hshape : ∀ t ∈ Token.scan cfg formula, Token.Shaped cfg t :=
    fun t ht => Token.shaped_of_scanned himplicit (Token.scanned_of_mem_scan ht)
  -- a blank in front changes nothing, and gives the first token something to stand behind
  have hblank : Char.isAlphanum ' ' = (none : Option Token).any Token.endsAlphanum := by decide
  have hfront := dropTimes_flatMap htimes hshape hblank
  rw [dropTimes_cons_of_not_isAlphanum (by decide)] at hfront
  refine String.toList_injective ?_
  unfold display ofFormula
  rw [String.toList_ofList, String.toList_ofList, String.toList_join, (List.cons.inj hfront).2]

theorem display_eq_join_product :
    Config.standard.isOperator "*" = true ∧
      Config.standard.isOperator Config.standard.implicitOperator = true ∧
      Token.scan Config.standard "2x**3.*sin*(y)" =
        [⟨.number, "2"⟩, ⟨.operator, "*"⟩, ⟨.identifier, "x"⟩, ⟨.operator, "*"⟩, ⟨.operator, "*"⟩,
          ⟨.number, "3."⟩, ⟨.operator, "*"⟩, ⟨.identifier, "sin"⟩, ⟨.operator, "*"⟩, .lparen,
          ⟨.identifier, "y"⟩, .rparen] ∧
      display Config.standard "2x**3.*sin*(y)" =
        String.join ["2", " ", "x", " ", " * ", "3.", " * ", "\\sin", " ", "(", "y", ")"] := by
  have htimes : Config.standard.isOperator "*" = true := by decide +kernel
  have himplicit : Config.standard.isOperator Config.standard.implicitOperator = true := by
    decide +kernel
  have hscan : Token.scan Config.standard "2x**3.*sin*(y)" =
      [⟨.number, "2"⟩, ⟨.operator, "*"⟩, ⟨.identifier, "x"⟩, ⟨.operator, "*"⟩, ⟨.operator, "*"⟩,
        ⟨.number, "3."⟩, ⟨.operator, "*"⟩, ⟨.identifier, "sin"⟩, ⟨.operator, "*"⟩, .lparen,
        ⟨.identifier, "y"⟩, .rparen] := by decide +kernel
  refine ⟨htimes, himplicit, hscan, ?_⟩
  rw [display_eq_join htimes himplicit, hscan]
  decide +kernel

end Markup
end Formulary
