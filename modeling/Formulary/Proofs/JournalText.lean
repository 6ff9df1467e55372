import Formulary.Journal
import Formulary.Proofs.JsonReading
/-!
# Lines of a journal

A line that an event adds is cut off as a whole, however many bytes of the file are read, provided that
the text before it is empty or ends with a line feed.
-/

set_option autoImplicit false
namespace Formulary

/-- Whether a text ends with a line feed, or has nothing in it. -/
def Terminated (cs : List Char) : Prop := ∀ c ∈ cs.getLast?, c = '\n'

theorem terminated_nil : Terminated [] := fun _ hc => absurd hc (Option.not_mem_none _)

theorem terminated_append_newline (cs : List Char) : Terminated (cs ++ ['\n']) := by
  intro c hc
  rw [List.getLast?_concat] at hc
  cases hc
  rfl

theorem terminated_cases {cs : List Char} (h : Terminated cs) : cs = [] ∨ ∃ l, cs = l ++ ['\n'] := by
  rcases List.eq_nil_or_concat cs with rfl | ⟨l, c, rfl⟩
  · exact .inl rfl
  · rw [List.concat_eq_append] at h ⊢
    have hc := h c (List.getLast?_concat)
    subst hc
    exact .inr ⟨l, rfl⟩

theorem Terminated.of_suffix {cs ds : List Char} (h : Terminated cs) (hs : ds <:+ cs) :
    Terminated ds := by
  intro c hc
  obtain ⟨pre, rfl⟩ := hs
  refine h c ?_
  rw [List.getLast?_append, hc]
  rfl

namespace Text

theorem splitLines_cons (c : Char) (cs : List Char) :
    splitLines (c :: cs) = (lineStep c (cs.head?, splitLines cs)).2 := by
  rw [← fst_foldr_lineStep]
  rfl

theorem splitLines_newline (cs : List Char) : splitLines ('\n' :: cs) = [] :: splitLines cs :=
  splitLines_cons_of_isLineEnd rfl (.inl (by decide))

/-- A line without a line end in it is the first one of a text. -/
theorem splitLines_line {l : List Char} (h : ∀ c ∈ l, isLineEnd c = false) (cs : List Char) :
    splitLines (l ++ '\n' :: cs) = l :: splitLines cs := by
  induction l with
  | nil => exact splitLines_newline cs
  | cons c l ih =>
    obtain ⟨hc, hl⟩ := List.forall_mem_cons.1 h
    rw [List.cons_append, splitLines_cons, ih hl]
    unfold lineStep
    simp only [hc]
    rfl

theorem splitLines_ne_nil {cs : List Char} (h : cs ≠ []) : splitLines cs ≠ [] := by
  induction cs with
  | nil => exact absurd rfl h
  | cons c cs ih =>
    rw [splitLines_cons]
    unfold lineStep
    simp only
    split
    · split
      · rename_i hfeed
        refine ih ?_
        rintro rfl
        cases hfeed.2
      · exact List.cons_ne_nil _ _
    · split
      · exact List.cons_ne_nil _ _
      · exact List.cons_ne_nil _ _

theorem snd_lineStep_append (c : Char) (next : Option Char) {ls : List (List Char)} (hls : ls ≠ [])
    (more : List (List Char)) :
    (lineStep c (next, ls ++ more)).2 = (lineStep c (next, ls)).2 ++ more := by
  obtain ⟨l, ls, rfl⟩ := List.exists_cons_of_ne_nil hls
  unfold lineStep
  simp only
  split
  · split <;> rfl
  · rfl

theorem splitLines_append_newline (cs ds : List Char) :
    splitLines (cs ++ '\n' :: ds) = splitLines (cs ++ ['\n']) ++ splitLines ds := by
  induction cs with
  | nil => exact splitLines_newline ds
  | cons c cs ih =>
    have hne : splitLines (cs ++ ['\n']) ≠ [] :=
      splitLines_ne_nil (List.append_ne_nil_of_right_ne_nil _ (List.cons_ne_nil _ _))
    have hhead : (cs ++ '\n' :: ds).head? = (cs ++ ['\n']).head? := by
      cases cs <;> rfl
    rw [List.cons_append, List.cons_append, splitLines_cons, splitLines_cons, ih, hhead]
    exact snd_lineStep_append c _ hne _

/-- Behind a line feed the lines are those of the text there. -/
theorem splitLines_append {cs : List Char} (h : Terminated cs) (ds : List Char) :
    splitLines (cs ++ ds) = splitLines cs ++ splitLines ds := by
  rcases terminated_cases h with rfl | ⟨l, rfl⟩
  · rfl
  · rw [List.append_assoc]
    exact splitLines_append_newline l ds

end Text

namespace Journal

/-- The cut falls into the text before an added one, and what is read of it does not depend on the
added one. -/
theorem afterCut_append_newline {n : Nat} {cs : List Char} (h : n ≤ String.utf8Len cs)
    (ds : List Char) : afterCut n (cs ++ '\n' :: ds) = afterCut n (cs ++ ['\n']) ++ ds := by
  induction cs generalizing n with
  | nil =>
    have hn : n = 0 := by simpa using h
    subst hn
    rfl
  | cons c cs ih =>
    rw [String.utf8Len_cons] at h
    rw [List.cons_append, List.cons_append, afterCut, afterCut]
    split
    · rw [List.append_assoc]
      rfl
    · exact ih (by omega)

theorem afterCut_cases (n : Nat) (cs : List Char) :
    afterCut n cs = [] ∨ ∃ before, cs = before ++ '\n' :: afterCut n cs := by
  induction cs generalizing n with
  | nil => exact .inl rfl
  | cons c cs ih =>
    rw [afterCut]
    split
    · rename_i h
      exact .inr ⟨[], by rw [h.2]; rfl⟩
    · exact (ih _).imp_right fun ⟨before, hcs⟩ => ⟨c :: before, congrArg (c :: ·) hcs⟩

theorem tail_of_fit {tailBytes : Int} {text : String} (h : (text.utf8ByteSize : Int) ≤ tailBytes) :
    tail tailBytes text = text.toList := by
  have hcut : ¬ 0 < cutAt tailBytes text := by
    unfold cutAt
    omega
  exact if_neg hcut

/-- What is read are whole lines of the text. -/
theorem mem_splitLines_tail {tailBytes : Int} {text : String} {l : List Char}
    (h : l ∈ Text.splitLines (tail tailBytes text)) : l ∈ Text.splitLines text.toList := by
  unfold tail at h
  simp only at h
  split at h
  · rcases afterCut_cases (cutAt tailBytes text).toNat text.toList with hnone | ⟨before, hbefore⟩
    · rw [hnone] at h
      exact absurd h List.not_mem_nil
    · rw [hbefore, Text.splitLines_append_newline]
      exact List.mem_append_right _ h
  · exact h

/-- The record of a line that is a JSON object. -/
def recordOf? (l : List Char) : Option Record :=
  match Json.parse l with
  | .ok (.map r) => some r
  | _ => none

/-- Lines that are no JSON objects are skipped; only an integer that is too long ends the reading. -/
theorem recordsFrom_eq {ls : List (List Char)} (h : ∀ l ∈ ls, Json.parse l ≠ .error .tooManyDigits)
    (earlier : List Record) :
    recordsFrom earlier ls = .ok ((ls.filterMap recordOf?).reverse ++ earlier) := by
  induction ls generalizing earlier with
  | nil => rfl
  | cons l ls ih =>
    obtain ⟨hl, hls⟩ := List.forall_mem_cons.1 h
    rw [recordsFrom, List.filterMap_cons]
    unfold recordOf?
    cases hparse : Json.parse l with
    | error e =>
      cases e with
      | malformed => exact ih hls earlier
      | tooManyDigits => exact absurd hparse hl
    | ok d =>
      cases d with
      | map r =>
        simp only
        rw [ih hls, List.reverse_cons, List.append_assoc]
        rfl
      | _ => exact ih hls earlier

theorem utf8Len_toList (s : String) : String.utf8Len s.toList = s.utf8ByteSize := by
  rw [← String.utf8ByteSize_ofList, String.ofList_toList]

/-- A line that is shorter than the part to be read is read as a whole, behind some of the lines before
it. -/
theorem tail_append {tailBytes : Int} {old : String} (hold : Terminated old.toList) {line : List Char}
    (hfit : (String.utf8Len line : Int) + 1 < tailBytes) :
    ∃ before, tail tailBytes (old ++ String.ofList (line ++ ['\n'])) = before ++ (line ++ ['\n']) ∧
      Terminated before ∧ ∀ l ∈ Text.splitLines before, l ∈ Text.splitLines old.toList := by
  have hsize : (old ++ String.ofList (line ++ ['\n'])).utf8ByteSize =
      String.utf8Len old.toList + String.utf8Len line + 1 := by
    rw [String.utf8ByteSize_append, String.utf8ByteSize_ofList, String.utf8Len_append, utf8Len_toList,
      ← Nat.add_assoc]
    rfl
  have htext : (old ++ String.ofList (line ++ ['\n'])).toList = old.toList ++ (line ++ ['\n']) := by
    rw [String.toList_append, String.toList_ofList]
  unfold tail cutAt
  simp only [hsize, htext]
  split
  · rename_i hcut
    rcases terminated_cases hold with hnil | ⟨cs, hcs⟩
    · rw [hnil, String.utf8Len_nil] at hcut
      omega
    · rw [hcs, String.utf8Len_append, String.utf8Len_cons, String.utf8Len_nil] at hcut ⊢
      have hone : '\n'.utf8Size = 1 := rfl
      rw [List.append_assoc, List.singleton_append, afterCut_append_newline (by omega)]
      rw [hcs] at hold
      generalize Int.toNat _ = n
      refine ⟨_, rfl, ?_⟩
      rcases afterCut_cases n (cs ++ ['\n']) with hnone | ⟨before, hbefore⟩
      · rw [hnone]
        exact ⟨terminated_nil, fun l hl => absurd hl List.not_mem_nil⟩
      · refine ⟨hold.of_suffix ⟨before ++ ['\n'], ?_⟩, fun l hl => ?_⟩
        · rw [List.append_assoc]
          exact hbefore.symm
        · rw [hbefore, Text.splitLines_append_newline]
          exact List.mem_append_right _ hl
  · exact ⟨old.toList, rfl, hold, fun l hl => hl⟩

end Journal
end Formulary
