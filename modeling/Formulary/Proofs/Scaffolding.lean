import Formulary.Project.Scaffold
import Formulary.Proofs.RootedTrees
/-!
# New projects

Making a project keeps every file and directory that there is. When it fails because something exists
already, the tree is what it was, unless that is a file in place of the journal's directory, which is
found last. What exists is seen only if each way back on the path begins at a directory.
-/

set_option autoImplicit false
namespace Formulary

namespace FileTree
variable {t t' : FileTree} {p : Path}

theorem locate_ne_alreadyExists : t.locate p ≠ .error .alreadyExists := by
  have hwalk (start : Path) : t.walk start p ≠ .error .alreadyExists := by
    induction p generalizing start with
    | nil => exact fun h => by cases h
    | cons c cs ih =>
      rw [walk]
      split
      · split
        · exact fun h => by cases h
        · exact ih _
      · exact fun h => by cases h
      · exact fun h => by cases h
  unfold locate
  split
  · exact fun h => by cases h
  · exact hwalk []

theorem exists_of_makeDirectory (h : t.makeDirectory p = .error .alreadyExists) :
    ∃ place e, t.locate p = .ok place ∧ t.get? place = some e := by
  unfold makeDirectory at h
  cases hplace : t.locate p with
  | error e =>
    rw [hplace] at h
    cases h
    exact absurd hplace locate_ne_alreadyExists
  | ok place =>
    rw [hplace] at h
    simp only at h
    split at h
    · rename_i e he
      exact ⟨place, e, rfl, he⟩
    · cases h

theorem exists_of_ensureDirectory {f : FileFault} (h : t.ensureDirectory p = (t', .error f))
    (hf : f.error = .alreadyExists) : t' = t ∧ ∃ text, t.Holds p (some text) := by
  unfold ensureDirectory at h
  split at h
  · cases h
  · rename_i e hmade
    split at h
    · cases h
    · rename_i hno
      cases h
      obtain rfl : e = .alreadyExists := hf
      obtain ⟨place, e, hplace, he⟩ := exists_of_makeDirectory hmade
      cases e with
      | directory => exact absurd (isDirectory_iff.2 ⟨place, hplace, he⟩) hno
      | file text => exact ⟨rfl, text, place, hplace, he⟩

theorem makeDirectory_of_holds {text : String} (h : t.Holds p (some text)) :
    t.makeDirectory p = .error .alreadyExists := by
  obtain ⟨place, hplace, hfile⟩ := h
  unfold makeDirectory
  rw [hplace]
  simp only [hfile, Option.map_some]

theorem makeDirectory_below_file {text : String} (h : t.Holds p (some text)) (c : String) :
    t.makeDirectory (p ++ [c]) ≠ .error .notFound := by
  obtain ⟨place, hplace, hfile⟩ := h
  unfold makeDirectory
  unfold locate at hplace ⊢
  split at hplace
  · cases hplace
  · split
    · rename_i e he
      split at he
      · cases he
        exact fun h => by cases h
      · rw [walk_append hplace, walk, hfile] at he
        cases he
        exact fun h => by cases h
    · split
      · exact fun h => by cases h
      · exact fun h => by cases h

/-- Directories are made from the first missing one on, and in a new directory nothing can exist. -/
theorem exists_of_makeDirectories (htree : t.Rooted) (hp : t.Traceable p) {f : FileFault}
    (h : t.makeDirectories p = (t', .error f)) (hf : f.error = .alreadyExists) :
    t' = t ∧ ∃ text, t.Holds p (some text) := by
  fun_induction t.makeDirectories p generalizing t' with
  | case1 => cases h
  | case2 p hne hmade above habove ih =>
    obtain ⟨-, text, place, hplace, hfile⟩ := exists_of_ensureDirectory h hf
    have hadds := addsDirectories_makeDirectories t p.dropLast
    rw [habove] at hadds
    have htext : t.textAt place = some text := by
      rw [← hadds.textAt]
      exact textAt_eq_some_iff.2 hfile
    rw [makeDirectory_of_holds (hp.holds_of_textAt htree hadds.keeps hplace htext)] at hmade
    cases hmade
  | case3 p hne hmade hfailed ih =>
    rw [← List.dropLast_concat_getLast hne] at hp hmade
    obtain ⟨-, text, hfile⟩ := ih hp.of_concat h
    exact absurd hmade (makeDirectory_below_file hfile _)
  | case4 p hne hother => exact exists_of_ensureDirectory h hf

theorem error_of_modify {f : String → String} {e : FileFault} (h : t.modify p f = .error e) :
    e.error ≠ .alreadyExists := by
  unfold modify at h
  cases hplace : t.locate p with
  | error e' =>
    unfold resolve at h
    rw [hplace] at h
    cases h
    rintro rfl
    exact locate_ne_alreadyExists hplace
  | ok place =>
    rw [resolve_of_locate hplace] at h
    simp only [bind, Except.bind] at h
    split at h
    · cases h
    · cases h
      exact fun heq => by cases heq
    · cases h

theorem error_of_pathExists {e : FileFault} (h : t.pathExists p = .error e) :
    e.error ≠ .alreadyExists := by
  unfold pathExists at h
  split at h
  · cases h
    exact fun heq => by cases heq
  · cases h
  · cases h

/-- What leads from a directory to places by different names leads to different places. -/
theorem locate_concat_ne (hp : t.isDirectory p = true) {c c' : String} (hne : c ≠ c')
    (hc : c ≠ Path.parentMark) (hc' : c' ≠ Path.parentMark) {place place' : Path}
    (h : t.locate (p ++ [c]) = .ok place) (h' : t.locate (p ++ [c']) = .ok place') :
    place ≠ place' := by
  obtain ⟨dir, hdir, hentry⟩ := isDirectory_iff.1 hp
  have hstep {c : String} (hc : c ≠ Path.parentMark) {place : Path}
      (h : t.locate (p ++ [c]) = .ok place) : place = dir ++ [c] := by
    unfold locate at h hdir
    split at h
    · cases h
    · split at hdir
      · cases hdir
      · rw [walk_append hdir] at h
        exact walk_of_plain (by simpa using hc.symm) h
  rw [hstep hc h, hstep hc' h']
  simpa using hne

end FileTree

namespace Project
variable {t t' : FileTree} {dir : Path}

/-- Whether an error says that something exists already. -/
def ScaffoldError.Exists : ScaffoldError → Prop
  | .settingsExist _ => True
  | .file f => f.error = .alreadyExists

/-- A new project: its settings file is new and holds the default text, its journal has a directory,
every other file is what it was, and every directory is still there. -/
structure Scaffolded (t t' : FileTree) (dir : Path) : Prop where
  missing : t.pathExists (settingsPath dir) = .ok false
  settings : t'.Holds (settingsPath dir) (some settingsText)
  journal : t'.isDirectory (dir ++ [journalDirectory]) = true
  keeps : t.Keeps t'
  others : ∃ place, t'.locate (settingsPath dir) = .ok place ∧ t.get? place = none ∧
    ∀ other, other ≠ place → t'.textAt other = t.textAt other

/-- A new project that has its settings file at a place, but no directory for the journal yet. -/
structure Begun (t t' : FileTree) (dir place : Path) : Prop where
  missing : t.pathExists (settingsPath dir) = .ok false
  located : t'.locate (settingsPath dir) = .ok place
  new : t.get? place = none
  settings : t'.get? place = some (.file settingsText)
  directory : t'.isDirectory dir = true
  keeps : t.Keeps t'
  others : ∀ other, other ≠ place → t'.textAt other = t.textAt other

/-- The settings file is written where nothing has been, neither before its directory was made nor
afterwards. -/
theorem begun_of_write (htree : t.Rooted) (hdir : t.Traceable dir)
    (hmissing : t.pathExists (settingsPath dir) = .ok false) {t₁ t₂ : FileTree}
    (hmade : t.makeDirectories dir = (t₁, .ok ()))
    (hwrite : t₁.write (settingsPath dir) settingsText = .ok t₂) : ∃ place, Begun t t₂ dir place := by
  have hadds := FileTree.addsDirectories_makeDirectories t dir
  rw [hmade] at hadds
  have hsettings : t.Traceable (settingsPath dir) := hdir.concat (by decide)
  obtain ⟨place, hplace, old, hentry, rfl⟩ := FileTree.modify_cases hwrite
  have hfree : t₁.get? place = none := by
    cases old with
    | none => exact hentry
    | some old =>
      have hold : t.textAt place = some old := by
        rw [← hadds.textAt, FileTree.textAt_of_get? hentry]
      have hholds := hsettings.holds_of_textAt htree hadds.keeps hplace hold
      rw [FileTree.pathExists_of_holds hholds] at hmissing
      cases hmissing
  have hfile : t₁.get? place ≠ some .directory := by simp [hfree]
  have hgrows := FileTree.grows_set hfile (.file settingsText)
  refine ⟨place, hmissing, hgrows.locate hplace, ?_, FileTree.get?_set_of_not_directory hfile _,
    hgrows.isDirectory (FileTree.isDirectory_of_makeDirectories hmade),
    hadds.keeps.trans (FileTree.keeps_set hfree _), fun other hother => ?_⟩
  · cases hbefore : t.get? place with
    | none => rfl
    | some e =>
      rw [hadds.keeps place e hbefore] at hfree
      cases hfree
  · rw [FileTree.textAt_set hfile, if_neg hother, hadds.textAt]

namespace Begun
variable {place : Path}

/-- A file in place of the journal's directory has been there before. -/
theorem holds_journal (h : Begun t t' dir place) (htree : t.Rooted) (hdir : t.Traceable dir)
    {text : String} (hfile : t'.Holds (dir ++ [journalDirectory]) (some text)) :
    t.Holds (dir ++ [journalDirectory]) (some text) := by
  obtain ⟨other, hother, hentry⟩ := hfile
  have hne : other ≠ place :=
    FileTree.locate_concat_ne h.directory (by decide) (by decide) (by decide) hother h.located
  have hjournal : t.Traceable (dir ++ [journalDirectory]) := hdir.concat (by decide)
  refine hjournal.holds_of_textAt htree h.keeps hother ?_
  rw [← h.others other hne, FileTree.textAt_of_get? hentry]

theorem scaffolded (h : Begun t t' dir place) {t₂ : FileTree}
    (hjournal : t'.ensureDirectory (dir ++ [journalDirectory]) = (t₂, .ok ())) :
    Scaffolded t t₂ dir := by
  have hadds := FileTree.addsDirectories_ensureDirectory t' (dir ++ [journalDirectory])
  rw [hjournal] at hadds
  have hplace := hadds.grows.locate h.located
  refine ⟨h.missing, ?_, FileTree.isDirectory_of_ensureDirectory hjournal, h.keeps.trans hadds.keeps,
    place, hplace, h.new, fun other hother => ?_⟩
  · exact ⟨place, hplace, hadds.keeps place _ h.settings⟩
  · rw [hadds.textAt, h.others other hother]

end Begun

/-- What making a project can come to: the tree and the result. -/
inductive Scaffolds (t : FileTree) (dir : Path) : FileTree → Except ScaffoldError Unit → Prop
  | unseen {f : FileFault} (h : t.pathExists (settingsPath dir) = .error f) :
    Scaffolds t dir t (.error (.file f))
  | present (h : t.pathExists (settingsPath dir) = .ok true) :
    Scaffolds t dir t (.error (.settingsExist dir))
  | unmade {t₁ : FileTree} {f : FileFault} (missing : t.pathExists (settingsPath dir) = .ok false)
    (made : t.makeDirectories dir = (t₁, .error f)) : Scaffolds t dir t₁ (.error (.file f))
  | unwritten {t₁ : FileTree} {f : FileFault} (missing : t.pathExists (settingsPath dir) = .ok false)
    (made : t.makeDirectories dir = (t₁, .ok ()))
    (write : t₁.write (settingsPath dir) settingsText = .error f) : Scaffolds t dir t₁ (.error (.file f))
  | written {t₁ t₂ t₃ : FileTree} {x : Except FileFault Unit}
    (missing : t.pathExists (settingsPath dir) = .ok false)
    (made : t.makeDirectories dir = (t₁, .ok ()))
    (write : t₁.write (settingsPath dir) settingsText = .ok t₂)
    (journal : t₂.ensureDirectory (dir ++ [journalDirectory]) = (t₃, x)) :
    Scaffolds t dir t₃ (x.mapError .file)

theorem scaffold_cases (t : FileTree) (dir : Path) :
    Scaffolds t dir (scaffold t dir).1 (scaffold t dir).2 := by
  unfold scaffold
  split
  · rename_i hexists
    exact .unseen hexists
  · rename_i hexists
    exact .present hexists
  · rename_i hmissing
    split
    · rename_i hmade
      exact .unmade hmissing hmade
    · rename_i hmade
      split
      · rename_i hwrite
        exact .unwritten hmissing hmade hwrite
      · rename_i hwrite
        exact .written hmissing hmade hwrite rfl

theorem Scaffolds.of_eq {x : Except ScaffoldError Unit} (h : scaffold t dir = (t', x)) :
    Scaffolds t dir t' x := by
  have hcases := scaffold_cases t dir
  rw [h] at hcases
  exact hcases

theorem Scaffolds.unchanged (htree : t.Rooted) (hdir : t.Traceable dir) {e : ScaffoldError}
    (h : Scaffolds t dir t' (.error e)) (he : e.Exists) :
    t' = t ∧ (t.pathExists (settingsPath dir) = .ok true ∨ ∃ text, t.Holds dir (some text)) ∨
      t.pathExists (settingsPath dir) = .ok false ∧
        ∃ text, t.Holds (dir ++ [journalDirectory]) (some text) := by
  generalize hx : (.error e : Except ScaffoldError Unit) = x at h
  cases h with
  | unseen hexists =>
    cases hx
    exact absurd he (FileTree.error_of_pathExists hexists)
  | present hexists => exact .inl ⟨rfl, .inl hexists⟩
  | unmade missing made =>
    cases hx
    obtain ⟨heq, hfile⟩ := FileTree.exists_of_makeDirectories htree hdir made he
    exact .inl ⟨heq, .inr hfile⟩
  | unwritten _ _ write =>
    cases hx
    exact absurd he (FileTree.error_of_modify write)
  | @written t₁ t₂ t₃ x missing made write journal =>
    obtain ⟨place, hbegun⟩ := begun_of_write htree hdir missing made write
    cases x with
    | ok => cases hx
    | error f =>
      cases hx
      obtain ⟨-, text, hfile⟩ := FileTree.exists_of_ensureDirectory journal he
      exact .inr ⟨missing, text, hbegun.holds_journal htree hdir hfile⟩

theorem Scaffolds.scaffolded (htree : t.Rooted) (hdir : t.Traceable dir)
    (h : Scaffolds t dir t' (.ok ())) : Scaffolded t t' dir := by
  generalize hx : (.ok () : Except ScaffoldError Unit) = x at h
  cases h with
  | unseen | present | unmade | unwritten => cases hx
  | @written t₁ t₂ t₃ x missing made write journal =>
    obtain ⟨place, hbegun⟩ := begun_of_write htree hdir missing made write
    cases x with
    | ok => exact hbegun.scaffolded journal
    | error => cases hx

theorem Scaffolds.rooted {x : Except ScaffoldError Unit} (htree : t.Rooted)
    (h : Scaffolds t dir t' x) : t'.Rooted := by
  have hmade := htree.makeDirectories dir
  cases h with
  | unseen | present => exact htree
  | unmade _ made | unwritten _ made =>
    rw [made] at hmade
    exact hmade
  | written _ made write journal =>
    rw [made] at hmade
    have hjournal := (hmade.modify write).ensureDirectory (dir ++ [journalDirectory])
    rw [journal] at hjournal
    exact hjournal

/-- When making a project fails because something exists already, that is a settings file or a file in
place of the directory, and the tree is what it was; or there are no settings, and it is a file in place of
the journal's directory. When it does not fail, the project is new and nothing else has changed. -/
theorem scaffold_all_or_nothing (htree : t.Rooted) (hdir : t.Traceable dir) :
    (∀ t' e, scaffold t dir = (t', .error e) → e.Exists →
      t' = t ∧ (t.pathExists (settingsPath dir) = .ok true ∨ ∃ text, t.Holds dir (some text)) ∨
        t.pathExists (settingsPath dir) = .ok false ∧
          ∃ text, t.Holds (dir ++ [journalDirectory]) (some text)) ∧
    (∀ t', scaffold t dir = (t', .ok ()) → Scaffolded t t' dir) ∧ (scaffold t dir).1.Rooted :=
  ⟨fun _ _ h => (Scaffolds.of_eq h).unchanged htree hdir,
    fun _ h => (Scaffolds.of_eq h).scaffolded htree hdir, (scaffold_cases t dir).rooted htree⟩

theorem rooted_empty : FileTree.empty.Rooted := by
  intro above c h
  refine absurd ?_ h
  unfold FileTree.get?
  rw [if_neg (by simp)]
  rfl

theorem scaffold_empty : ∃ t', scaffold .empty ["p"] = (t', .ok ()) := by
  have hmade : FileTree.empty.makeDirectories ["p"] =
      (FileTree.empty.set ["p"] .directory, .ok ()) := by
    rw [FileTree.makeDirectories]
    rfl
  unfold scaffold
  rw [hmade]
  exact ⟨_, rfl⟩

theorem scaffold_twice : ∃ t' t'', scaffold .empty ["p"] = (t', .ok ()) ∧ Scaffolded .empty t' ["p"] ∧
    scaffold t' ["p"] = (t'', .error (.settingsExist ["p"])) ∧ t'' = t' := by
  have hplain (t : FileTree) : t.Traceable ["p"] := FileTree.traceable_of_plain (by decide)
  obtain ⟨t', hfirst⟩ := scaffold_empty
  obtain ⟨-, hok, hrooted⟩ := scaffold_all_or_nothing rooted_empty (hplain .empty)
  have hmade := hok t' hfirst
  rw [hfirst] at hrooted
  obtain ⟨t'', hsecond⟩ : ∃ t'', scaffold t' ["p"] = (t'', .error (.settingsExist ["p"])) := by
    unfold scaffold
    rw [FileTree.pathExists_of_holds hmade.settings]
    exact ⟨_, rfl⟩
  refine ⟨t', t'', hfirst, hmade, hsecond, ?_⟩
  rcases (scaffold_all_or_nothing hrooted (hplain t')).1 _ _ hsecond trivial with
    ⟨heq, -⟩ | ⟨hmissing, -⟩
  · exact heq
  · rw [FileTree.pathExists_of_holds hmade.settings] at hmissing
    cases hmissing

/-- A project directory with a file in place of the journal's directory. -/
def occupied : FileTree := .ofList [(["p"], .directory), (["p", "logs"], .file "")]

/-- A directory with settings of its own. -/
def settled : FileTree :=
  .ofList [(["b"], .directory), (settingsPath ["b"], .file "preset: extended")]

/-- A file in place of the journal's directory leaves half of a project behind, and settings that are
reached by a way back from a missing directory are replaced. -/
theorem scaffold_half_made :
    (∃ t', scaffold occupied ["p"] = (t', .error (.file ⟨.alreadyExists, ["p", "logs"]⟩)) ∧
      occupied.pathExists (settingsPath ["p"]) = .ok false ∧
      t'.read (settingsPath ["p"]) = .ok settingsText) ∧
    ∃ t', scaffold settled ["a", "..", "b"] = (t', .ok ()) ∧
      settled.read (settingsPath ["b"]) = .ok "preset: extended" ∧
      t'.read (settingsPath ["b"]) = .ok settingsText := by
  have hmade : settled.makeDirectories ["a", "..", "b"] = (settled.set ["a"] .directory, .ok ()) := by
    rw [FileTree.makeDirectories, FileTree.makeDirectories, FileTree.makeDirectories]
    rfl
  have hthere := FileTree.makeDirectories_of_isDirectory (t := occupied) (p := ["p"]) rfl
  unfold scaffold
  rw [hmade, hthere]
  exact ⟨⟨_, rfl, rfl, rfl⟩, _, rfl, rfl, rfl⟩

end Project
end Formulary
