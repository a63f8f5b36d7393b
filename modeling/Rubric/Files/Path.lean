/-!
# Paths

* `Path` : the written form of a path;
* `Path.steps` : the steps it takes, from left to right; empty names are skipped;
* `Path.ancestors` : the steps to the directory that holds what a path names.
-/

namespace Rubric

/-- The name of a place in a file system. Slashes separate its steps. -/
structure Path where
  text : String
deriving DecidableEq

/-- One step of a path. -/
inductive Path.Step where
  /-- To where one is. -/
  | here
  /-- To the directory that holds the present one. -/
  | up
  | name (s : String)
deriving DecidableEq

namespace Path

def Step.ofName (s : String) : Step :=
  if s = "." then here else if s = ".." then up else name s

def Step.text : Step → String
  | here => "."
  | up => ".."
  | name s => s

def ofSteps (absolute : Bool) (steps : List Step) : Path :=
  ⟨(if absolute then "/" else "") ++ String.intercalate "/" (steps.map Step.text)⟩

/-- The names between slashes, where `name` is the part of the first one that has been read. Empty
names are left out. -/
def namesFrom (name : List Char) : List Char → List (List Char)
  | [] => if name.isEmpty then [] else [name]
  | c :: r =>
    if c = '/' then
      if name.isEmpty then namesFrom [] r else name :: namesFrom [] r
    else namesFrom (name ++ [c]) r

def steps (p : Path) : List Step :=
  (namesFrom [] p.text.toList).map fun name => Step.ofName (String.ofList name)

def isAbsolute (p : Path) : Bool := p.text.toList.head? == some '/'

/-- A slash at the end says that a path names a directory. -/
def namesDirectory (p : Path) : Bool := p.text.toList.getLast? == some '/'

/-- Steps without those that lead nowhere; one at the very beginning is kept. -/
def condense : List Step → List Step
  | [] => []
  | s :: r => s :: r.filter (· ≠ .here)

/-- The steps to the directory that holds what a path names. -/
def ancestors (p : Path) : List Step :=
  (if p.isAbsolute then p.steps.filter (· ≠ .here) else condense p.steps).dropLast

def join (p : Path) (name : String) : Path := ⟨p.text ++ "/" ++ name⟩

end Path
end Rubric
