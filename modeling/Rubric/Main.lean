import Rubric.CommandLine.Run

/-!
# The program

* the instance `Host IO` : the files of the system and the standard output;
* `environment` : the variables of the process;
* `main` : reads the arguments and runs.
-/

namespace Rubric

/-- The error that the system reports. -/
def FileError.ofSystem : IO.Error → FileError
  | .noFileOrDirectory .. => notFound
  | .alreadyExists .. => alreadyExists
  | .inappropriateType _ code _ => if code = 20 then notDirectory else isDirectory
  | e => other (toString e)

/-- An action whose errors are values. -/
def attempt {α : Type} (action : IO α) : IO (Except FileError α) := do
  try return .ok (← action)
  catch e => return .error (.ofSystem e)

def readSystemText (p : Path) : IO (Except FileError String) := do
  match ← attempt (IO.FS.readBinFile p.text) with
  | .error e => return .error e
  | .ok bytes => return (String.fromUTF8? bytes).elim (.error .notText) .ok

/-- A file of the system can be opened, or it is there and must not be opened. -/
def systemHolds (p : Path) : IO Bool := do
  try
    let _ ← IO.FS.Handle.mk p.text .read
    return true
  catch
    | .permissionDenied .. => return true
    | _ => return false

instance : Host IO where
  holds := systemHolds
  readText := readSystemText
  makeDirectories p :=
    if p.ancestors.isEmpty then return .ok ()
    else attempt (IO.FS.createDirAll (Path.ofSteps p.isAbsolute p.ancestors).text)
  writeText p text := attempt (IO.FS.writeFile p.text text)
  print text := IO.print text

/-- The variables of a process, as the system lists them: each with its value behind an equals sign,
and with a zero at its end. -/
def environmentOf (s : String) : Environment :=
  ⟨(s.splitOn "\x00").filterMap fun entry =>
    match CommandLine.cutValue entry.toList with
    | (name, some value) => some (name, value)
    | (_, none) => none⟩

def environment : IO Environment := do
  match ← readSystemText ⟨"/proc/self/environ"⟩ with
  | .ok s => return environmentOf s
  | .error _ => return {}

def usage : String :=
  "Usage: rubric [--config <file>] [--css] [--h-labels <template>] [--h-level <1-6>] " ++
    "[--ol-labels <template>] [--ul-labels <template>] [--stylesheet <file>] <file>"

end Rubric

open Rubric in
/-- Labels the file that the arguments name. -/
def main (arguments : List String) : IO UInt32 := do
  match Arguments.read arguments with
  | .error .help =>
    IO.println usage
    return 0
  | .error _ =>
    IO.eprintln usage
    return 2
  | .ok a =>
    match ← (a.run (← environment) : ExceptT RunError IO Unit).run with
    | .ok () => return 0
    | .error e =>
      IO.eprintln ("Error: " ++ e.message)
      return 1
