import ProseCompiler.Files.Operations

/-!
# Log files that do not grow for ever

A line is added to the end of a log file.  A file that would reach its limit by that is put
aside first: it becomes the first of five backups, each backup becomes the next one, and the last
is given up.  A line that no file takes is lost; nobody is told.
-/

namespace ProseCompiler.LogFile

/-- The size, in octets, that a log file does not reach by a line. -/
def sizeLimit : Nat := 10485760

/-- How many files are kept beside the current one. -/
def backupCount : Nat := 5

/-- The path of a backup; number zero is the log file itself. -/
def backupPath (path : Text) (n : Nat) : Text :=
  if n = 0 then path else path ++ "." ++ Text.ofNat n

/-- Moves a backup on to the next number, if there is one. -/
def moveOn (path : Text) (n : Nat) (t : Tree) : Tree × Except Fault Unit :=
  let source := backupPath path n
  let target := backupPath path (n + 1)
  if t.canReach source then
    match if t.canReach target then t.remove target else .ok t with
    | .error fault => (t, .error fault)
    | .ok t =>
      match t.rename source target with
      | .ok t => (t, .ok ())
      | .error fault => (t, .error fault)
  else (t, .ok ())

/-- Moves the files with a number below `n` on, the last one first. -/
def rotateBelow (path : Text) : (n : Nat) → Tree → Tree × Except Fault Unit
  | 0, t => (t, .ok ())
  | n + 1, t =>
    match moveOn path n t with
    | (t, .ok ()) => rotateBelow path n t
    | (t, .error fault) => (t, .error fault)

/-- Puts the log file aside. -/
def rotate (path : Text) (t : Tree) : Tree × Except Fault Unit := rotateBelow path backupCount t

/-- Whether a log file has to be put aside before a number of code points is added to it. -/
def isFull (path : Text) (count : Nat) (t : Tree) : Bool :=
  match t.status true path with
  | .ok (_, .file content) => sizeLimit ≤ content.length + count
  | .ok _ => false
  | .error _ => sizeLimit ≤ count

/-- The tree after a line was added to a log file. -/
def addLine (path line : Text) (t : Tree) : Tree :=
  let line := line ++ [Text.newline]
  if isFull path line.length t then
    match rotate path t with
    | (t, .ok ()) => (t.appendText path line).1
    | (t, .error _) => t
  else (t.appendText path line).1

end ProseCompiler.LogFile
