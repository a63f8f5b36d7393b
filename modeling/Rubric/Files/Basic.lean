import Rubric.Files.Error
import Rubric.Files.Path

/-!
# File systems

* `Files` : files and directories by their locations. A location lists the names from the working
  directory down, or from the root, which is written `/`;
* `Files.find` : where a path leads, and what stands there;
* `Files.readText`, `Files.writeText`, `Files.makeDirectory`, `Files.makeDirectories` : reading and
  writing by paths.
-/

namespace Rubric

/-- The names from the working directory down. -/
abbrev Location := List String

/-- What stands at a location. -/
inductive Files.Entry where
  | file (content : ByteArray)
  | directory

def Files.Entry.isDirectory : Files.Entry → Bool
  | directory => true
  | file _ => false

/-- The files and directories that there are. -/
structure Files where
  entries : List (Location × Files.Entry) := []

namespace Files

def root : Location := ["/"]

/-- What stands at a location. The root and the working directory are always there. -/
def get? (fs : Files) (l : Location) : Option Entry :=
  if l = [] ∨ l = root then some .directory else fs.entries.lookup l

def set (fs : Files) (l : Location) (e : Entry) : Files :=
  ⟨(l, e) :: fs.entries.filter fun entry => entry.1 ≠ l⟩

def content? (fs : Files) (l : Location) : Option ByteArray :=
  match fs.get? l with
  | some (.file content) => some content
  | _ => none

/-- The files that are new or have another content than before, with their contents. -/
def changes (before after : Files) : List (Location × ByteArray) :=
  after.entries.filterMap fun entry =>
    match entry.2 with
    | .file content =>
      if (before.content? entry.1).map ByteArray.data = some content.data then none
      else some (entry.1, content)
    | .directory => none

/-! ## Walking -/

/-- The location one step from a directory, whatever stands there. Nothing is known of what lies
above the working directory. -/
def target (l : Location) : Path.Step → Except FileError Location
  | .here => .ok l
  | .up => if l = [] then .error .notFound else if l = root then .ok l else .ok l.dropLast
  | .name s => .ok (l ++ [s])

/-- One step from a directory into a directory. -/
def enter (fs : Files) (l : Location) (s : Path.Step) : Except FileError Location :=
  match target l s with
  | .error e => .error e
  | .ok l =>
    match fs.get? l with
    | none => .error .notFound
    | some (.file _) => .error .notDirectory
    | some .directory => .ok l

def walk (fs : Files) (start : Location) (steps : List Path.Step) : Except FileError Location :=
  steps.foldlM fs.enter start

def start (absolute : Bool) : Location := if absolute then root else []

/-- Where the last of some steps leads. It need not exist, but the directories before it do. -/
def locate (fs : Files) (absolute : Bool) (steps : List Path.Step) : Except FileError Location :=
  match steps.getLast? with
  | none => .ok (start absolute)
  | some last =>
    match fs.walk (start absolute) steps.dropLast with
    | .error e => .error e
    | .ok l => target l last

def find (fs : Files) (p : Path) : Except FileError Location :=
  if p.text.isEmpty then .error .notFound else fs.locate p.isAbsolute p.steps

def holds (fs : Files) (p : Path) : Bool :=
  match fs.find p with
  | .error _ => false
  | .ok l =>
    match fs.get? l with
    | none => false
    | some (.file _) => !p.namesDirectory
    | some .directory => true

/-! ## Reading and writing -/

def readText (fs : Files) (p : Path) : Except FileError String :=
  match fs.find p with
  | .error e => .error e
  | .ok l =>
    match fs.get? l with
    | none => .error .notFound
    | some .directory => .error .isDirectory
    | some (.file content) =>
      if p.namesDirectory then .error .notDirectory
      else (String.fromUTF8? content).elim (.error .notText) .ok

/-- Writes a text into a file, which is made if it is not there. -/
def writeText (fs : Files) (p : Path) (text : String) : Except FileError Files :=
  match fs.find p with
  | .error e => .error e
  | .ok l =>
    if p.namesDirectory || (fs.get? l).any Entry.isDirectory then .error .isDirectory
    else .ok (fs.set l (.file text.toUTF8))

def makeDirectory (fs : Files) (absolute : Bool) (steps : List Path.Step) :
    Except FileError Files :=
  match fs.locate absolute steps with
  | .error e => .error e
  | .ok l => if (fs.get? l).isSome then .error .alreadyExists else .ok (fs.set l .directory)

def isDirectory (fs : Files) (absolute : Bool) (steps : List Path.Step) : Bool :=
  (fs.walk (start absolute) steps).isOk

/-- Makes a directory, if it is not there. -/
def ensureDirectory (fs : Files) (absolute : Bool) (steps : List Path.Step) :
    Files × Except FileError Unit :=
  match fs.makeDirectory absolute steps with
  | .ok fs => (fs, .ok ())
  | .error e => (fs, if fs.isDirectory absolute steps then .ok () else .error e)

/-- Makes the directory at the end of some steps, given backwards, and the ones that lead to it.
Directories that were made stay, also if a later one cannot be made. -/
def makeDirectoriesBack (absolute : Bool) : List Path.Step → Files → Files × Except FileError Unit
  | [], fs => (fs, .ok ())
  | s :: r, fs =>
    match fs.makeDirectory absolute (s :: r).reverse with
    | .error .notFound =>
      match makeDirectoriesBack absolute r fs with
      | (fs, .ok ()) => fs.ensureDirectory absolute (s :: r).reverse
      | (fs, .error e) => (fs, .error e)
    | _ => fs.ensureDirectory absolute (s :: r).reverse

def makeDirectories (fs : Files) (p : Path) : Files × Except FileError Unit :=
  makeDirectoriesBack p.isAbsolute p.ancestors.reverse fs

end Files
end Rubric
