import Rubric.Config.Basic
import Rubric.Host

/-!
# Configuration files

* `ConfigError` : a file that cannot be read, or that holds no configuration;
* `Config.load` : the configuration in a file, if the file is there;
* `Config.save` : writes a configuration into a file.
-/

namespace Rubric

/-- Why a configuration cannot be loaded. -/
inductive ConfigError where
  | unreadable (path : Path) (cause : FileError)
  | malformed (path : Path)
deriving DecidableEq

/-- The message of an error. It tells why a file cannot be read. -/
def ConfigError.message : ConfigError → String
  | unreadable path cause =>
    "Failed to read config file at " ++ path.text ++ ": " ++ cause.message
  | malformed path => "Failed to parse config file at " ++ path.text

def ConfigError.cause? : ConfigError → Option String
  | unreadable _ cause => some cause.message
  | malformed _ => none

namespace Config

variable {m : Type → Type} [Monad m] [Host m]

/-- The configuration in a file. There is none where there is no file. -/
def load (env : Environment) (p : Path) : ExceptT ConfigError m (Option Config) := do
  if ← (Host.holds p : m Bool) then
    match ← (Host.readText p : m (Except FileError String)) with
    | .error cause => throw (.unreadable p cause)
    | .ok s =>
      match parse? s with
      | none => throw (.malformed p)
      | some c => return some (c.expand env)
  else return none

/-- Writes a configuration into a file. The directories that it needs are made. -/
def save (c : Config) (p : Path) : ExceptT FileError m Unit := do
  ExceptT.mk (Host.makeDirectories p)
  ExceptT.mk (Host.writeText p c.text)

end Config
end Rubric
