import Formulary.CommandLine.Outcome
import Formulary.Stamp
import Std.Time.DateTime.Timestamp
/-!
# The program

Reads the part of the file tree that the arguments can be about, runs the command, writes the changes
back, and prints what the run leaves.
-/

set_option autoImplicit false
namespace Formulary.Main

/-- The paths that lead to a path, and the path itself. -/
def pathsTo (p : Path) : List Path := (List.range p.length).map fun n => p.take (n + 1)

/-- The texts of an argument that can be a path: all of it, or what stands behind an equals sign. -/
def pathTexts (arg : String) : List String :=
  arg :: (splitAssignment arg).toList.map Prod.snd

/-- The paths that a run with the given arguments can depend on. Those of the files that it may read
come second. -/
def relevantPaths (args : List String) : List Path × List Path :=
  let places := (args.flatMap pathTexts).map Path.ofText
  let journals := places.map (· ++ [Project.journalDirectory])
  ((places ++ journals).flatMap pathsTo ++ [[Path.parentMark]],
    places.map Project.settingsPath ++ journals.map (· ++ [Journal.fileName]))

/-- The text of a file. Bytes that are no UTF-8 count as unknown characters. -/
def textOf (bytes : ByteArray) : String :=
  match String.fromUTF8? bytes with
  | some s => s
  | none =>
    String.ofList (bytes.toList.map fun b =>
      if b < 128 then Char.ofNat b.toNat else Char.ofNat 0xfffd)

/-- What stands at a path. Of files whose text does not matter it is not read. -/
def findEntry (place : String) (withText : Bool) : IO (Option Entry) := do
  try
    let real ← IO.FS.realPath place
    if ← real.isDir then return some .directory
    else if !(← real.pathExists) then return none
    else if withText then return some (.file (textOf (← IO.FS.readBinFile place)))
    else return some (.file "")
  catch _ => return none

def addEntry (withText : Bool) (t : FileTree) (p : Path) : IO FileTree := do
  match t.resolve p with
  | .error _ => return t
  | .ok place =>
    match ← findEntry p.toText withText with
    | some e => return t.set place e
    | none => return t

/-- The part of the file tree that the arguments can be about. -/
def readTree (args : List String) : IO FileTree := do
  let (places, files) := relevantPaths args
  let t ← places.foldlM (addEntry false) FileTree.empty
  files.foldlM (addEntry true) t

/-- Writes at the end of a file while no one else does. -/
def appendText (place text : String) : IO Unit := do
  let h ← IO.FS.Handle.mk place .append
  h.lock
  h.putStr text
  h.flush
  h.unlock

/-- Makes one entry of the file tree what it is after the run. -/
def writeEntry (before : FileTree) (p : Path) (e : Entry) : IO Unit :=
  match before.get? p, e with
  | none, .directory => IO.FS.createDir p.toText
  | some (.file old), .file new =>
    if new == old then pure ()
    else appendText p.toText (String.ofList (new.toList.drop old.length))
  | none, .file new => appendText p.toText new
  | _, _ => pure ()

/-- What is wrong when a run ends without a message of its own. -/
def describe : CommandLine.Crash → String
  | .file f | .load (.file f) | .attach (.file f) | .journal (.file f) => f.message
  | .load (.config e) | .settings (.config e) => e.message CommandLine.Libraries.plain.faultText
  | .load (.raised name) | .attach (.raised name) => "the settings cannot be read: " ++ name
  | .settings .presetNotKey => "the preset is a list or a mapping"
  | .brokenVariable => "a variable has a name that is no text"
  | .settings .variableTooLarge => "a variable lies beyond the range of numbers"
  | .settings .unshowable | .attach .unshowable => "the settings contain an integer with too many digits"
  | .attach .tailTooLarge => "logging_tail_bytes is infinite"
  | .calculation _ => "a part of the formula is not a number"
  | .journal .tooManyDigits => "an event has a number with too many digits"
  | .journal .cutTooFar => "the part of the journal to be read lies out of range"
  | .journal .contextNotMap => "the context of an event is not a mapping"
  | .levelNotText => "the level of an event is not a text"
  | .unencodable => "an event has a text that cannot be printed"

/-- Now, in microseconds since the start of 1970. -/
def microseconds : IO Nat := do
  let now ← Std.Time.Timestamp.now
  pure (now.toNanosecondsSinceUnixEpoch.val / 1000).toNat

def runProgram (args : List String) : IO UInt32 := do
  let files ← readTree args
  let now := (← IO.monoMsNow).toFloat / 1000.0
  let o := CommandLine.run .plain args (Session.start files (Stamp.ofMicroseconds (← microseconds)) now)
  for (p, e) in o.files.toList do
    writeEntry files p e
  (← IO.getStdout).putStr o.output
  (← IO.getStderr).putStr o.errors
  if let some c := o.crash then
    (← IO.getStderr).putStr (CommandLine.programName ++ ": " ++ describe c ++ "\n")
  pure (UInt32.ofNat o.status)

end Formulary.Main

def main (args : List String) : IO UInt32 := Formulary.Main.runProgram args
