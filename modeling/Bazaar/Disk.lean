import Bazaar.Failure.Class
import Bazaar.Path
import Bazaar.Text.Quoted

/-!
# Files and directories

Files by resolved path, and directories.  A path is followed part by part, so each part but the
last has to be a directory, even before double dots.
-/

namespace Bazaar

/-- Files with their contents, and directories that need not hold a file. -/
structure Disk where
  files : List (Path × String) := []
  directories : List Path := []

namespace Disk

/-- What stands in the way to a file or a directory. -/
inductive Obstacle where
  | missing
  | taken
  | notDirectory
  | isDirectory
  | nameTooLong
  | nullByte
  deriving DecidableEq, Repr

/-- A path that cannot be followed or used. -/
structure Fault where
  obstacle : Obstacle
  path : Path
  deriving DecidableEq, Repr

/-- The wording of a fault, with its number. -/
def Fault.message (f : Fault) : String :=
  let numbered (number : Nat) (text : String) : String :=
    "[Errno " ++ toString number ++ "] " ++ text ++ ": " ++ Text.quoted f.path.text
  match f.obstacle with
  | .missing => numbered 2 "No such file or directory"
  | .taken => numbered 17 "File exists"
  | .notDirectory => numbered 20 "Not a directory"
  | .isDirectory => numbered 21 "Is a directory"
  | .nameTooLong => numbered 36 "File name too long"
  | .nullByte => "embedded null byte"

/-- The class of a fault. -/
def Fault.kind (f : Fault) : FaultClass :=
  match f.obstacle with
  | .missing => .fileMissing
  | .taken => .fileExists
  | .notDirectory => .fileNotDirectory
  | .isDirectory => .fileIsDirectory
  | .nameTooLong => .os
  | .nullByte => .value

/-- Whether there is a file at a resolved path. -/
def hasFile (d : Disk) (p : Path) : Bool :=
  (d.files.lookup p).isSome

/-- Whether there is a directory at a resolved path: one above or around the working directory, one
that was made, or one that leads to a file. -/
def hasDirectory (d : Disk) (p : Path) : Bool :=
  p.parts.all (· == "..") || d.directories.contains p ||
    d.files.any fun (f, _) => f.isBelow p

/-- Whether a part is too long for a name. -/
def isLongName (part : String) : Bool :=
  255 < part.utf8ByteSize

/-- Follows parts from a place. -/
def walk (d : Disk) (here : Path) : List String → Except Obstacle Path
  | [] => .ok here
  | part :: rest =>
    if d.hasFile here then .error .notDirectory
    else if isLongName part then .error .nameTooLong
    else
      let there := here.step part
      if d.hasFile there || d.hasDirectory there then walk d there rest else .error .missing

/-- Checks the text of a path as a whole. -/
def checkText (p : Path) : Except Obstacle Unit :=
  if p.text.toList.contains '\x00' then .error .nullByte
  else if 4096 ≤ p.text.utf8ByteSize then .error .nameTooLong
  else .ok ()

/-- The place that a path leads to. -/
def locate (d : Disk) (p : Path) : Except Obstacle Path := do
  checkText p
  d.walk p.origin p.parts

/-- Whether a path leads to a directory. -/
def isDirectory (d : Disk) (p : Path) : Bool :=
  match d.locate p with
  | .ok place => !d.hasFile place
  | .error _ => false

/-- The content of the file that a path leads to. -/
def content (d : Disk) (p : Path) : Except Obstacle String := do
  match d.files.lookup (← d.locate p) with
  | some content => return content
  | none => throw .isDirectory

/-- Reads a file. -/
def read (d : Disk) (p : Path) : Except Fault String :=
  (d.content p).mapError (⟨·, p⟩)

/-- The new place that a path leads to in a directory that exists. -/
def newPlace (d : Disk) (p : Path) : Except Obstacle Path := do
  checkText p
  match p.parts.getLast? with
  | none => throw .taken
  | some last =>
    let parent ← d.walk p.origin p.parts.dropLast
    if d.hasFile parent then throw .notDirectory
    if last == ".." then throw .taken
    if isLongName last then throw .nameTooLong
    let place := parent.step last
    if d.hasFile place || d.hasDirectory place then throw .taken
    return place

/-- Makes a directory in one that exists.  Whatever stands in the way counts for nothing if the
directory is there. -/
def makeDirectory (d : Disk) (p : Path) : Except Fault Disk :=
  match d.newPlace p with
  | .ok place => .ok { d with directories := place :: d.directories }
  | .error obstacle => if d.isDirectory p then .ok d else .error ⟨obstacle, p⟩

/-- Makes the directory that the first parts of a path lead to, and those above it. -/
def makeDirectories (d : Disk) (p : Path) : Nat → Except Fault Disk
  | 0 => d.makeDirectory { p with parts := [] }
  | count + 1 =>
    let here := { p with parts := p.parts.take (count + 1) }
    match d.makeDirectory here with
    | .error ⟨.missing, _⟩ => do (← d.makeDirectories p count).makeDirectory here
    | r => r

/-- The place at which a file can be written. -/
def writable (d : Disk) (p : Path) : Except Fault Path :=
  match d.newPlace p.resolve with
  | .ok place => .ok place
  | .error .taken => if d.isDirectory p.resolve then .error ⟨.isDirectory, p⟩ else .ok p.resolve
  | .error obstacle => .error ⟨obstacle, p⟩

end Disk

end Bazaar
