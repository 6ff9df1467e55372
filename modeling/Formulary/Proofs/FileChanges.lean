import Formulary.FileTree
/-!
# Changes of a file tree

Text that is added at a path is found behind the text that was there, and a directory that is made is
there afterwards. No operation takes a directory away, so what a path leads to stays where it was; and
the texts of files change only where text is added.
-/

set_option autoImplicit false
namespace Formulary.FileTree
variable {t : FileTree} {p : Path}

/-- Whether a path leads to a place with a file of the given text, or with nothing. -/
def Holds (t : FileTree) (p : Path) (text : Option String) : Prop :=
  ∃ place, t.locate p = .ok place ∧ t.get? place = text.map .file

theorem get?_set_of_not_directory {place : Path} (h : t.get? place ≠ some .directory) (e : Entry) :
    (t.set place e).get? place = some e := by
  have hne : place ≠ [] := by
    rintro rfl
    exact h t.get?_nil
  rw [get?_set t e hne, if_pos rfl]

theorem get?_set_of_ne {place q : Path} (h : q ≠ place) (e : Entry) :
    (t.set place e).get? q = t.get? q := by
  by_cases hq : q = []
  · subst hq
    rfl
  · rw [get?_set t e hq, if_neg h]

/-- Whether the directories of one tree are all in another. -/
def Grows (t t' : FileTree) : Prop :=
  ∀ place, t.get? place = some .directory → t'.get? place = some .directory

theorem Grows.refl (t : FileTree) : Grows t t := fun _ h => h

theorem Grows.trans {t₁ t₂ t₃ : FileTree} (h : Grows t₁ t₂) (h' : Grows t₂ t₃) : Grows t₁ t₃ :=
  fun place hplace => h' place (h place hplace)

theorem grows_set {place : Path} (h : t.get? place ≠ some .directory) (e : Entry) :
    Grows t (t.set place e) := by
  intro other hother
  have hne : other ≠ place := by
    rintro rfl
    exact h hother
  rw [get?_set_of_ne hne, hother]

/-- A way leads through directories, so it is still there while they are. -/
theorem Grows.walk {t' : FileTree} (h : Grows t t') {start target : Path} {cs : List String}
    (hwalk : t.walk start cs = .ok target) : t'.walk start cs = .ok target := by
  induction cs generalizing start with
  | nil => exact hwalk
  | cons c cs ih =>
    rw [FileTree.walk] at hwalk ⊢
    split at hwalk
    · rename_i hdir
      rw [h _ hdir]
      simp only
      split at hwalk
      · cases hwalk
      · rename_i hlong
        rw [if_neg hlong]
        exact ih hwalk
    · cases hwalk
    · cases hwalk

theorem Grows.locate {t' : FileTree} (h : Grows t t') {place : Path} (hp : t.locate p = .ok place) :
    t'.locate p = .ok place := by
  unfold FileTree.locate at hp ⊢
  split at hp
  · cases hp
  · rename_i hlong
    rw [if_neg hlong]
    exact h.walk hp

theorem resolve_of_locate {place : Path} (h : t.locate p = .ok place) : t.resolve p = .ok place := by
  unfold resolve
  rw [h]
  rfl

theorem read_of_holds {text : String} (h : t.Holds p (some text)) : t.read p = .ok text := by
  obtain ⟨place, hplace, hentry⟩ := h
  simp only [read, resolve_of_locate hplace, bind, Except.bind, hentry, Option.map_some]

theorem holds_of_read {text : String} (h : t.read p = .ok text) : t.Holds p (some text) := by
  unfold read at h
  cases hplace : t.locate p with
  | error e =>
    unfold resolve at h
    rw [hplace] at h
    cases h
  | ok place =>
    rw [resolve_of_locate hplace] at h
    simp only [bind, Except.bind] at h
    split at h
    · rename_i hentry
      cases h
      exact ⟨place, hplace, hentry⟩
    · cases h
    · cases h

theorem eq_of_read {text : Option String} {s : String} (h : t.Holds p text) (hread : t.read p = .ok s) :
    text = some s := by
  cases text with
  | none =>
    obtain ⟨place, hplace, hentry⟩ := h
    simp only [read, resolve_of_locate hplace, bind, Except.bind, hentry, Option.map_none] at hread
    cases hread
  | some text =>
    rw [read_of_holds h, Except.ok.injEq] at hread
    rw [hread]

theorem pathExists_of_holds {text : Option String} (h : t.Holds p text) :
    t.pathExists p = .ok text.isSome := by
  obtain ⟨place, hplace, hentry⟩ := h
  unfold pathExists
  rw [hplace]
  simp only [hentry, Option.isSome_map]

theorem isDirectory_iff : t.isDirectory p = true ↔
    ∃ place, t.locate p = .ok place ∧ t.get? place = some .directory := by
  unfold isDirectory entry?
  cases t.locate p <;> simp [Except.toOption]

theorem Grows.isDirectory {t' : FileTree} (h : Grows t t') (hp : t.isDirectory p = true) :
    t'.isDirectory p = true := by
  obtain ⟨place, hplace, hdir⟩ := isDirectory_iff.1 hp
  exact isDirectory_iff.2 ⟨place, h.locate hplace, h place hdir⟩

theorem not_directory_of_get? {place : Path} {text : Option String}
    (h : t.get? place = text.map .file) : t.get? place ≠ some .directory := by
  rw [h]
  cases text <;> simp

theorem append_of_holds {text : Option String} (h : t.Holds p text) (more : String) :
    ∃ t', t.append p more = .ok t' ∧ t'.Holds p (some (text.getD "" ++ more)) ∧
      ∀ q, t.isDirectory q = true → t'.isDirectory q = true := by
  obtain ⟨place, hplace, hentry⟩ := h
  have hfile := not_directory_of_get? hentry
  refine ⟨t.set place (.file (text.getD "" ++ more)), ?_, ?_, fun q => (grows_set hfile _).isDirectory⟩
  · simp only [append, modify, resolve_of_locate hplace, bind, Except.bind, hentry]
    cases text <;> rfl
  · exact ⟨place, (grows_set hfile _).locate hplace, get?_set_of_not_directory hfile _⟩

theorem makeDirectory_cases {t' : FileTree} (h : t.makeDirectory p = .ok t') :
    ∃ place, t.locate p = .ok place ∧ t.get? place = none ∧ t' = t.set place .directory := by
  unfold makeDirectory at h
  split at h
  · cases h
  · rename_i place hplace
    split at h
    · cases h
    · rename_i hnone
      cases h
      exact ⟨place, hplace, hnone, rfl⟩

theorem isDirectory_of_ensureDirectory {t' : FileTree} (h : t.ensureDirectory p = (t', .ok ())) :
    t'.isDirectory p = true := by
  unfold ensureDirectory at h
  split at h
  · rename_i made hmade
    cases h
    obtain ⟨place, hplace, hnone, rfl⟩ := makeDirectory_cases hmade
    have hfree : t.get? place ≠ some .directory := by simp [hnone]
    exact isDirectory_iff.2
      ⟨place, (grows_set hfree _).locate hplace, get?_set_of_not_directory hfree _⟩
  · split at h
    · rename_i hdir
      cases h
      exact hdir
    · cases h

theorem isDirectory_of_makeDirectories {t' : FileTree} (h : t.makeDirectories p = (t', .ok ())) :
    t'.isDirectory p = true := by
  rw [makeDirectories] at h
  split at h
  · rename_i hroot
    cases h
    subst hroot
    rfl
  · split at h
    · split at h
      · exact isDirectory_of_ensureDirectory h
      · rename_i failed hfailed
        exact (hfailed t' h).elim
    · exact isDirectory_of_ensureDirectory h

theorem makeDirectories_of_isDirectory (h : t.isDirectory p = true) :
    t.makeDirectories p = (t, .ok ()) := by
  obtain ⟨place, hplace, hdir⟩ := isDirectory_iff.1 h
  have hmade : t.makeDirectory p = .error .alreadyExists := by
    unfold makeDirectory
    rw [hplace]
    simp only [hdir]
  rw [makeDirectories, hmade]
  unfold ensureDirectory
  rw [hmade, h]
  simp

theorem walk_append {start place : Path} {cs : List String} (h : t.walk start cs = .ok place)
    (ds : List String) : t.walk start (cs ++ ds) = t.walk place ds := by
  induction cs generalizing start with
  | nil =>
    cases h
    rfl
  | cons c cs ih =>
    rw [walk] at h
    rw [List.cons_append, walk]
    split at h
    · split at h
      · cases h
      · rename_i hlong
        rw [if_neg hlong]
        exact ih h
    · cases h
    · cases h

/-- In a directory a file that does not exist can be made. -/
theorem holds_none {dir : Path} {c : String} (hdir : t.isDirectory dir = true)
    (hshort : c.utf8ByteSize ≤ Path.maxComponent) (hnew : t.pathExists (dir ++ [c]) = .ok false) :
    t.Holds (dir ++ [c]) none := by
  obtain ⟨place, hplace, hentry⟩ := isDirectory_iff.1 hdir
  have hlong : ¬ Path.maxBytes < (dir ++ [c]).toText.utf8ByteSize := by
    intro hlong
    unfold pathExists locate at hnew
    rw [if_pos hlong] at hnew
    cases hnew
  have hlocate : t.locate (dir ++ [c]) = .ok (place.step c) := by
    unfold locate at hplace ⊢
    split at hplace
    · cases hplace
    · rw [if_neg hlong, walk_append hplace, walk, hentry]
      simp only
      rw [if_neg (Nat.not_lt.2 hshort)]
      rfl
  refine ⟨place.step c, hlocate, ?_⟩
  unfold pathExists at hnew
  rw [hlocate] at hnew
  simpa using hnew

/-- The text of the file at a place, if there is a file. -/
def textAt (t : FileTree) (place : Path) : Option String :=
  match t.get? place with
  | some (.file text) => some text
  | _ => none

theorem textAt_of_get? {place : Path} {text : Option String} (h : t.get? place = text.map .file) :
    t.textAt place = text := by
  unfold textAt
  rw [h]
  cases text <;> rfl

theorem textAt_eq_some_iff {place : Path} {text : String} :
    t.textAt place = some text ↔ t.get? place = some (.file text) := by
  unfold textAt
  constructor
  · intro h
    split at h
    · rename_i hfile
      cases h
      exact hfile
    · cases h
  · intro h
    rw [h]

/-- Whether a tree has become another one without any change of its files. -/
structure AddsDirectories (t t' : FileTree) : Prop where
  grows : Grows t t'
  textAt : ∀ place, t'.textAt place = t.textAt place

theorem AddsDirectories.refl (t : FileTree) : AddsDirectories t t := ⟨.refl t, fun _ => rfl⟩

theorem AddsDirectories.trans {t₁ t₂ t₃ : FileTree} (h : AddsDirectories t₁ t₂)
    (h' : AddsDirectories t₂ t₃) : AddsDirectories t₁ t₃ :=
  ⟨h.grows.trans h'.grows, fun place => (h'.textAt place).trans (h.textAt place)⟩

theorem addsDirectories_of_makeDirectory {t' : FileTree} (h : t.makeDirectory p = .ok t') :
    AddsDirectories t t' := by
  obtain ⟨place, -, hnone, rfl⟩ := makeDirectory_cases h
  have hfree : t.get? place ≠ some .directory := by simp [hnone]
  refine ⟨grows_set hfree _, fun other => ?_⟩
  unfold FileTree.textAt
  by_cases heq : other = place
  · rw [heq, get?_set_of_not_directory hfree, hnone]
  · rw [get?_set_of_ne heq]

theorem addsDirectories_ensureDirectory (t : FileTree) (p : Path) :
    AddsDirectories t (t.ensureDirectory p).1 := by
  unfold ensureDirectory
  split
  · rename_i hmade
    exact addsDirectories_of_makeDirectory hmade
  · exact .refl t

theorem addsDirectories_makeDirectories (t : FileTree) (p : Path) :
    AddsDirectories t (t.makeDirectories p).1 := by
  fun_induction t.makeDirectories p with
  | case1 => exact .refl t
  | case2 p _ _ above hmade ih =>
    rw [hmade] at ih
    exact ih.trans (addsDirectories_ensureDirectory above p)
  | case3 p _ _ _ ih => exact ih
  | case4 p => exact addsDirectories_ensureDirectory t p

theorem modify_cases {t' : FileTree} {f : String → String} (h : t.modify p f = .ok t') :
    ∃ place, t.locate p = .ok place ∧ ∃ text : Option String, t.get? place = text.map .file ∧
      t' = t.set place (.file (f (text.getD ""))) := by
  unfold modify at h
  cases hplace : t.locate p with
  | error e =>
    unfold resolve at h
    rw [hplace] at h
    cases h
  | ok place =>
    rw [resolve_of_locate hplace] at h
    simp only [bind, Except.bind] at h
    refine ⟨place, rfl, ?_⟩
    split at h
    · rename_i text hfile
      cases h
      exact ⟨some text, hfile, rfl⟩
    · cases h
    · rename_i hnone
      cases h
      exact ⟨none, hnone, rfl⟩

theorem textAt_set {place : Path} (h : t.get? place ≠ some .directory) (text : String) (other : Path) :
    (t.set place (.file text)).textAt other = if other = place then some text else t.textAt other := by
  unfold textAt
  by_cases heq : other = place
  · rw [if_pos heq, heq, get?_set_of_not_directory h]
  · rw [if_neg heq, get?_set_of_ne heq]

/-- What is added at a path is behind the text of one file, and no other file is changed. -/
theorem append_cases {t' : FileTree} {more : String} (h : t.append p more = .ok t') :
    ∃ place, t.locate p = .ok place ∧ Grows t t' ∧ ∀ other, t'.textAt other =
      if other = place then some ((t.textAt other).getD "" ++ more) else t.textAt other := by
  obtain ⟨place, hplace, text, hentry, rfl⟩ := modify_cases h
  have hfile := not_directory_of_get? hentry
  refine ⟨place, hplace, grows_set hfile _, fun other => ?_⟩
  rw [textAt_set hfile]
  split
  · rename_i heq
    rw [heq, textAt_of_get? hentry]
  · rfl

end Formulary.FileTree
