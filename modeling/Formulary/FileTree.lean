import Formulary.Table
import Formulary.Text.Quoted
/-!
# File trees

A tree of directories and text files under one root. A path is the list of its components, and the
root is the empty path. An entry is reached only through directories; a component of two points goes
back to the directory above.
-/

set_option autoImplicit false
namespace Formulary

/-- The components of a path. -/
abbrev Path := List String

namespace Path

/-- The components of a path text; empty ones and single points are left out. A text that begins with
a slash begins with the component of the topmost directory. -/
def ofText (s : String) : Path :=
  let parts := (s.toList.splitOn '/').map String.ofList
  (if s.toList.head? = some '/' then ["/"] else []) ++ parts.filter fun c => c ≠ "" ∧ c ≠ "."

def toText : Path → String
  | [] => "."
  | "/" :: rest => "/" ++ "/".intercalate rest
  | p => "/".intercalate p

/-- Bytes of the longest component that a directory can hold. -/
def maxComponent : Nat := 255

/-- Bytes of the longest path text that is followed. -/
def maxBytes : Nat := 4095

/-- The component that goes back to the directory above. -/
def parentMark : String := ".."

/-- The path behind one more component. A way back from the root leads out of the tree; there is
something only if the tree has an entry for it. -/
def step (p : Path) (component : String) : Path :=
  if component = parentMark then
    match p.getLast? with
    | none => [parentMark]
    | some c => if c = parentMark then p ++ [parentMark] else p.dropLast
  else p ++ [component]

end Path

inductive Entry where
  | directory
  | file (text : String)
  deriving DecidableEq, Repr

/-- Why an operation on files fails. -/
inductive FileError where
  | notFound
  | alreadyExists
  | notDirectory
  | isDirectory
  /-- A component or the whole path is too long. -/
  | nameTooLong
  deriving DecidableEq, Repr

/-- A failed operation and the path it was asked for. -/
structure FileFault where
  error : FileError
  path : Path
  deriving DecidableEq, Repr

namespace FileError

def name : FileError → String
  | notFound => "FileNotFoundError"
  | alreadyExists => "FileExistsError"
  | notDirectory => "NotADirectoryError"
  | isDirectory => "IsADirectoryError"
  | nameTooLong => "OSError"

/-- Number and wording of the operating system. -/
def description : FileError → String
  | notFound => "[Errno 2] No such file or directory"
  | alreadyExists => "[Errno 17] File exists"
  | notDirectory => "[Errno 20] Not a directory"
  | isDirectory => "[Errno 21] Is a directory"
  | nameTooLong => "[Errno 36] File name too long"

end FileError

def FileFault.message (f : FileFault) : String :=
  f.error.description ++ ": " ++ Text.quoted f.path.toText

/-- Directories and text files by their paths. -/
structure FileTree where
  table : Table Path Entry

namespace FileTree

def empty : FileTree := ⟨.empty⟩

def ofList (entries : List (Path × Entry)) : FileTree := ⟨.ofList entries⟩

/-- All entries but the root, in the order in which they were made. -/
def toList (t : FileTree) : List (Path × Entry) := t.table.entries

/-- The entry at a path without marks of a parent. The root is always a directory. -/
def get? (t : FileTree) (p : Path) : Option Entry :=
  if p = [] then some .directory else t.table.get? p

def set (t : FileTree) (p : Path) (e : Entry) : FileTree := ⟨t.table.insert p e⟩

theorem get?_nil (t : FileTree) : t.get? [] = some .directory := rfl

@[simp] theorem get?_set (t : FileTree) {p q : Path} (e : Entry) (h : q ≠ []) :
    (t.set p e).get? q = if q = p then some e else t.get? q := by
  simp only [get?, set, h, if_false, Table.get?_insert]

/-- Follows components from a path through directories. -/
def walk (t : FileTree) (p : Path) : Path → Except FileError Path
  | [] => .ok p
  | c :: cs =>
    match t.get? p with
    | some .directory =>
      if Path.maxComponent < c.utf8ByteSize then .error .nameTooLong else t.walk (p.step c) cs
    | some (.file _) => .error .notDirectory
    | none => .error .notFound

/-- The place that a path leads to, whether there is an entry or not. -/
def locate (t : FileTree) (p : Path) : Except FileError Path :=
  if Path.maxBytes < p.toText.utf8ByteSize then .error .nameTooLong else t.walk [] p

/-- The place that a path leads to, with the path in the fault. -/
def resolve (t : FileTree) (p : Path) : Except FileFault Path := (t.locate p).mapError (⟨·, p⟩)

/-- The entry that a path leads to. -/
def entry? (t : FileTree) (p : Path) : Option Entry :=
  (t.locate p).toOption.bind t.get?

/-- Whether a path leads to an entry, unless it is too long to be followed. -/
def pathExists (t : FileTree) (p : Path) : Except FileFault Bool :=
  match t.locate p with
  | .error .nameTooLong => .error ⟨.nameTooLong, p⟩
  | .error _ => .ok false
  | .ok place => .ok (t.get? place).isSome

def isDirectory (t : FileTree) (p : Path) : Bool := t.entry? p == some .directory

/-- Makes one directory inside of one that exists. -/
def makeDirectory (t : FileTree) (p : Path) : Except FileError FileTree :=
  match t.locate p with
  | .error e => .error e
  | .ok place =>
    match t.get? place with
    | some _ => .error .alreadyExists
    | none => .ok (t.set place .directory)

/-- Makes one directory, unless there is one. -/
def ensureDirectory (t : FileTree) (p : Path) : FileTree × Except FileFault Unit :=
  match t.makeDirectory p with
  | .ok t => (t, .ok ())
  | .error e => (t, if t.isDirectory p then .ok () else .error ⟨e, p⟩)

/-- Makes a directory and those above it, as far as they are missing. When it fails, the directories
made before stay. -/
def makeDirectories (t : FileTree) (p : Path) : FileTree × Except FileFault Unit :=
  if _h : p = [] then (t, .ok ())
  else
    match t.makeDirectory p with
    | .error .notFound =>
      match t.makeDirectories p.dropLast with
      | (t, .ok ()) => t.ensureDirectory p
      | failed => failed
    | _ => t.ensureDirectory p
termination_by p.length
decreasing_by
  have := List.length_pos_iff.2 _h
  rw [List.length_dropLast]
  omega

/-- The text of a file. -/
def read (t : FileTree) (p : Path) : Except FileFault String := do
  let place ← t.resolve p
  match t.get? place with
  | some (.file text) => .ok text
  | some .directory => .error ⟨.isDirectory, p⟩
  | none => .error ⟨.notFound, p⟩

/-- Changes the text of a file; a missing file in a directory is made from the empty text. -/
def modify (t : FileTree) (p : Path) (f : String → String) : Except FileFault FileTree := do
  let place ← t.resolve p
  match t.get? place with
  | some (.file text) => .ok (t.set place (.file (f text)))
  | some .directory => .error ⟨.isDirectory, p⟩
  | none => .ok (t.set place (.file (f "")))

/-- Writes a file anew. -/
def write (t : FileTree) (p : Path) (text : String) : Except FileFault FileTree :=
  t.modify p fun _ => text

/-- Writes at the end of a file. -/
def append (t : FileTree) (p : Path) (text : String) : Except FileFault FileTree :=
  t.modify p (· ++ text)

end FileTree
end Formulary
