import Formulary.Proofs.FileChanges
/-!
# Rooted trees

In a tree every entry lies in a directory, and every operation keeps it so. Hence there is nothing behind
a missing entry: a path that leads nowhere now, and somewhere once more has been made, leads to a new
place, unless it goes back from a directory that was missing.
-/

set_option autoImplicit false
namespace Formulary

namespace FileTree
variable {t t' : FileTree} {p : Path}

/-- Whether every entry of a tree is in another one. -/
def Keeps (t t' : FileTree) : Prop := ∀ place e, t.get? place = some e → t'.get? place = some e

theorem Keeps.trans {t₁ t₂ t₃ : FileTree} (h : Keeps t₁ t₂) (h' : Keeps t₂ t₃) : Keeps t₁ t₃ :=
  fun place e he => h' place e (h place e he)

theorem keeps_set {place : Path} (h : t.get? place = none) (e : Entry) : Keeps t (t.set place e) := by
  intro other e' hother
  have hne : other ≠ place := by
    rintro rfl
    rw [h] at hother
    cases hother
  rw [get?_set_of_ne hne, hother]

theorem AddsDirectories.keeps (h : AddsDirectories t t') : Keeps t t' := by
  intro place e he
  cases e with
  | directory => exact h.grows place he
  | file text =>
    rw [← textAt_eq_some_iff, h.textAt]
    exact textAt_eq_some_iff.2 he

/-- Whether every entry lies in a directory. -/
def Rooted (t : FileTree) : Prop :=
  ∀ place c, t.get? (place ++ [c]) ≠ none → t.get? place = some .directory

theorem Rooted.below (h : t.Rooted) {place : Path} (hplace : t.get? place = none) (cs : List String) :
    t.get? (place ++ cs) = none := by
  induction cs generalizing place with
  | nil => rwa [List.append_nil]
  | cons c cs ih =>
    have hnext : t.get? (place ++ [c]) = none := by
      cases hsome : t.get? (place ++ [c]) with
      | none => rfl
      | some e =>
        rw [h place c (by simp [hsome])] at hplace
        cases hplace
    rw [List.append_cons]
    exact ih hnext

theorem Rooted.above_of_step (h : t.Rooted) {start above : Path} {next c : String}
    (hstart : t.get? start = some .directory) (hstep : start.step next = above ++ [c]) :
    t.get? above = some .directory := by
  unfold Path.step at hstep
  split at hstep
  · split at hstep
    · rw [← List.append_inj_left' (show [] ++ [Path.parentMark] = above ++ [c] from hstep) rfl]
      exact t.get?_nil
    · rename_i last hlast
      split at hstep
      · rwa [← List.append_inj_left' hstep rfl]
      · -- the step back leads to the directory that holds this one
        obtain ⟨before, rfl⟩ := List.getLast?_eq_some_iff.1 hlast
        rw [List.dropLast_concat] at hstep
        have hbefore := h before last (by rw [hstart]; exact nofun)
        rw [hstep] at hbefore
        exact h above c (by rw [hbefore]; exact nofun)
  · rwa [← List.append_inj_left' hstep rfl]

theorem Rooted.above_of_walk (h : t.Rooted) {start place : Path} {cs : List String}
    (hstart : ∀ above c, start = above ++ [c] → t.get? above = some .directory)
    (hwalk : t.walk start cs = .ok place) {above : Path} {c : String} (hplace : place = above ++ [c]) :
    t.get? above = some .directory := by
  induction cs generalizing start with
  | nil =>
    cases hwalk
    exact hstart above c hplace
  | cons next cs ih =>
    rw [walk] at hwalk
    split at hwalk
    · rename_i hdir
      split at hwalk
      · cases hwalk
      · exact ih (fun _ _ hstep => h.above_of_step hdir hstep) hwalk
    · cases hwalk
    · cases hwalk

theorem Rooted.set (h : t.Rooted) {place : Path} (hplace : t.locate p = .ok place)
    (hfile : t.get? place ≠ some .directory) (e : Entry) : (t.set place e).Rooted := by
  intro above c hentry
  refine grows_set hfile e above ?_
  by_cases heq : above ++ [c] = place
  · unfold locate at hplace
    split at hplace
    · cases hplace
    · exact h.above_of_walk (fun q d hq => absurd hq (by simp)) hplace heq.symm
  · rw [get?_set_of_ne heq] at hentry
    exact h above c hentry

theorem Rooted.ensureDirectory (h : t.Rooted) (p : Path) : (t.ensureDirectory p).1.Rooted := by
  unfold FileTree.ensureDirectory
  split
  · rename_i hmade
    obtain ⟨place, hplace, hnone, rfl⟩ := makeDirectory_cases hmade
    exact h.set hplace (by simp [hnone]) _
  · exact h

theorem Rooted.makeDirectories (h : t.Rooted) (p : Path) : (t.makeDirectories p).1.Rooted := by
  fun_induction t.makeDirectories p with
  | case1 => exact h
  | case2 p _ _ above hmade ih =>
    rw [hmade] at ih
    exact ih.ensureDirectory p
  | case3 p _ _ _ ih => exact ih
  | case4 p => exact h.ensureDirectory p

theorem Rooted.modify (h : t.Rooted) {f : String → String} (hmodify : t.modify p f = .ok t') :
    t'.Rooted := by
  obtain ⟨place, hplace, text, hentry, rfl⟩ := modify_cases hmodify
  exact h.set hplace (not_directory_of_get? hentry) _

/-- Whether each way back on a path begins at a directory. -/
def Traceable (t : FileTree) (p : Path) : Prop :=
  ∀ above below, p = above ++ Path.parentMark :: below → t.isDirectory above = true

theorem traceable_of_plain (h : Path.parentMark ∉ p) : t.Traceable p := by
  rintro above below rfl
  exact absurd (List.mem_append_right above List.mem_cons_self) h

theorem Traceable.of_concat {c : String} (h : t.Traceable (p ++ [c])) : t.Traceable p := by
  rintro above below rfl
  exact h above (below ++ [c]) (by rw [List.append_assoc, List.cons_append])

theorem Traceable.concat (h : t.Traceable p) {c : String} (hc : c ≠ Path.parentMark) :
    t.Traceable (p ++ [c]) := by
  intro above below heq
  rcases List.eq_nil_or_concat below with rfl | ⟨below, last, rfl⟩
  · exact absurd (List.append_inj_right' heq rfl) (by simpa using hc)
  · rw [List.concat_eq_append, ← List.cons_append, ← List.append_assoc] at heq
    exact h above below (List.append_inj_left' heq rfl)

theorem walk_of_plain {start place : Path} {cs : List String} (hplain : Path.parentMark ∉ cs)
    (hwalk : t.walk start cs = .ok place) : place = start ++ cs := by
  induction cs generalizing start with
  | nil =>
    cases hwalk
    exact (List.append_nil _).symm
  | cons c cs ih =>
    rw [List.mem_cons, not_or] at hplain
    rw [walk] at hwalk
    split at hwalk
    · split at hwalk
      · cases hwalk
      · rw [ih hplain.2 hwalk, Path.step, if_neg (Ne.symm hplain.1), List.append_assoc]
        rfl
    · cases hwalk
    · cases hwalk

/-- Where a path leads in a later tree, it has led before, unless something was missing on the way. -/
theorem Keeps.walk_cases (h : Keeps t t') {start place : Path} {cs : List String}
    (hwalk : t'.walk start cs = .ok place) :
    t.walk start cs = .ok place ∨ t.walk start cs = .error .notFound := by
  induction cs generalizing start with
  | nil => exact .inl hwalk
  | cons c cs ih =>
    rw [walk] at hwalk ⊢
    cases hstart : t.get? start with
    | none => exact .inr rfl
    | some e =>
      rw [h start e hstart] at hwalk
      cases e with
      | file text => cases hwalk
      | directory =>
        simp only at hwalk ⊢
        split at hwalk
        · cases hwalk
        · rename_i hlong
          rw [if_neg hlong]
          exact ih hwalk

/-- Behind a missing entry there is nothing but new places, if no way leads back from there. -/
theorem Rooted.get?_of_walk (htree : t.Rooted) {start place : Path} {cs : List String}
    (hback : ∀ above below, cs = above ++ Path.parentMark :: below →
      ∃ there, t.walk start above = .ok there ∧ t.get? there = some .directory)
    (hmissing : t.walk start cs = .error .notFound) (hwalk : t'.walk start cs = .ok place) :
    t.get? place = none := by
  induction cs generalizing start with
  | nil => cases hmissing
  | cons c cs ih =>
    cases hstart : t.get? start with
    | none =>
      have hplain : Path.parentMark ∉ c :: cs := by
        intro hmem
        obtain ⟨above, below, heq⟩ := List.append_of_mem hmem
        obtain ⟨there, habove, hdir⟩ := hback above below heq
        cases above with
        | nil =>
          cases habove
          rw [hstart] at hdir
          cases hdir
        | cons a above =>
          rw [walk, hstart] at habove
          cases habove
      rw [walk_of_plain hplain hwalk]
      exact htree.below hstart _
    | some e =>
      rw [walk, hstart] at hmissing
      cases e with
      | file text => cases hmissing
      | directory =>
        simp only at hmissing
        split at hmissing
        · cases hmissing
        · rename_i hlong
          rw [walk] at hwalk
          split at hwalk
          · rw [if_neg hlong] at hwalk
            refine ih (fun above below heq => ?_) hmissing hwalk
            obtain ⟨there, habove, hdir⟩ := hback (c :: above) below (by rw [heq]; rfl)
            rw [walk, hstart] at habove
            simp only at habove
            rw [if_neg hlong] at habove
            exact ⟨there, habove, hdir⟩
          · cases hwalk
          · cases hwalk

theorem Traceable.locate_cases (hp : t.Traceable p) (htree : t.Rooted) (h : Keeps t t') {place : Path}
    (hplace : t'.locate p = .ok place) :
    t.locate p = .ok place ∨ t.locate p = .error .notFound ∧ t.get? place = none := by
  unfold locate at hplace ⊢
  split at hplace
  · cases hplace
  · rename_i hlong
    rw [if_neg hlong]
    refine (h.walk_cases hplace).imp_right fun hmissing => ⟨hmissing, ?_⟩
    refine htree.get?_of_walk (fun above below heq => ?_) hmissing hplace
    obtain ⟨there, habove, hdir⟩ := isDirectory_iff.1 (hp above below heq)
    unfold locate at habove
    split at habove
    · cases habove
    · exact ⟨there, habove, hdir⟩

/-- A file that a path leads to in a later tree has been there before, if it is no new one. -/
theorem Traceable.holds_of_textAt (hp : t.Traceable p) (htree : t.Rooted) (h : Keeps t t') {text : String}
    {place : Path} (hplace : t'.locate p = .ok place) (htext : t.textAt place = some text) :
    t.Holds p (some text) := by
  have hfile := textAt_eq_some_iff.1 htext
  rcases hp.locate_cases htree h hplace with hbefore | ⟨-, hnew⟩
  · exact ⟨place, hbefore, hfile⟩
  · rw [hfile] at hnew
    cases hnew

end FileTree
end Formulary
