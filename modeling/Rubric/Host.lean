import Rubric.Files.Basic

/-!
# Hosts

* `Host m` : what a program asks of the place where it runs, its files and its output;
* `Machine` : a host that is a value, the files and what has been printed.
-/

namespace Rubric

/-- A place where programs run. -/
class Host (m : Type → Type) where
  /-- There is something at a path. -/
  holds : Path → m Bool
  /-- The text in a file. -/
  readText : Path → m (Except FileError String)
  /-- Makes the directories that a file at a path needs. -/
  makeDirectories : Path → m (Except FileError Unit)
  /-- Makes a file with a text, or writes the text over the one that is there. -/
  writeText : Path → String → m (Except FileError Unit)
  print : String → m Unit

/-- The files of a host, and what has been printed on it. -/
structure Machine where
  files : Files
  printed : String := ""

namespace Machine

/-- Prints behind what has been printed. -/
def print (machine : Machine) (text : String) : Machine :=
  { machine with printed := machine.printed ++ text }

def makeDirectories (machine : Machine) (p : Path) : Except FileError Unit × Machine :=
  let (files, result) := machine.files.makeDirectories p
  (result, { machine with files })

def writeText (machine : Machine) (p : Path) (text : String) : Except FileError Unit × Machine :=
  match machine.files.writeText p text with
  | .ok files => (.ok (), { machine with files })
  | .error e => (.error e, machine)

end Machine

instance : Host (StateM Machine) where
  holds p := fun machine => (machine.files.holds p, machine)
  readText p := fun machine => (machine.files.readText p, machine)
  makeDirectories p := fun machine => machine.makeDirectories p
  writeText p text := fun machine => machine.writeText p text
  print text := fun machine => ((), machine.print text)

end Rubric
