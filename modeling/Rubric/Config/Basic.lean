import Rubric.Environment
import Rubric.Settings
import Rubric.Toml.Reader

/-!
# Configurations

* `Config` : settings, and where the stylesheet is written;
* `Config.ofTable?` : the configuration that a TOML table describes. What it does not mention keeps its
  default, and what it mentions besides is ignored;
* `Config.parse?` : the configuration in a text;
* `Config.text` : the text of a configuration;
* `Config.defaultPath` : where configurations are kept.
-/

namespace Rubric

/-- The settings of a run, and the file for the stylesheet. -/
structure Config where
  stylesheetPath : Option Path := none
  settings : Settings := {}
deriving DecidableEq

/-! ## Reading -/

namespace Toml.Value

def text? : Value → Option String
  | string s => some s
  | _ => none

def byte? : Value → Option Nat
  | integer n => if 0 ≤ n ∧ n ≤ 255 then some n.toNat else none
  | _ => none

/-- A table or list without anything in it. -/
def isBare : Value → Bool
  | table _ entries => entries.isEmpty
  | list _ items => items.isEmpty
  | _ => false

/-- A mode: its name, or a table whose only key is the name, with nothing below it. -/
def mode? : Value → Option Mode
  | string s => Mode.ofName? s
  | table _ [(name, v)] => if v.isBare then Mode.ofName? name else none
  | _ => none

def field? {α : Type} (default : α) (decode : Value → Option α) (v : Option Value) : Option α :=
  v.elim (some default) decode

end Toml.Value

namespace Settings
open Toml.Value

def names : List String := ["h_labels", "h_level", "ol_labels", "ul_labels", "mode"]

/-- The settings with the given fields. -/
def ofFields? (get : String → Option Toml.Value) : Option Settings := do
  let headingLabels ← field? none (·.text?.map some) (get "h_labels")
  let headingLevel ← field? 1 byte? (get "h_level")
  let orderedLabels ← field? none (·.text?.map some) (get "ol_labels")
  let unorderedLabels ← field? none (·.text?.map some) (get "ul_labels")
  let mode ← field? .text mode? (get "mode")
  return { headingLabels, headingLevel, orderedLabels, unorderedLabels, mode }

/-- The settings that a value describes: a table of named fields, or a list of the first ones. -/
def ofValue? : Toml.Value → Option Settings
  | .table _ t => ofFields? (Toml.Table.get? t)
  | .list _ items => ofFields? fun name => items[names.idxOf name]?
  | _ => none

end Settings

namespace Config
open Toml.Value

/-- The configuration that a table describes. -/
def ofTable? (t : Toml.Table) : Option Config := do
  let stylesheetPath ← field? none (·.text?.map fun s => some ⟨s⟩) (Toml.Table.get? t "stylesheet_path")
  let settings ← field? {} Settings.ofValue? (Toml.Table.get? t "labels")
  return { stylesheetPath, settings }

def parse? (s : String) : Option Config := (Toml.parse? s).bind ofTable?

/-- The configuration with the variables in its path replaced. A path that has unknown variables is
taken as it is. -/
def expand (env : Environment) (c : Config) : Config :=
  { c with stylesheetPath := c.stylesheetPath.map fun p => (env.expand? p).getD p }

/-! ## Writing -/

def line (key value : String) : String := key ++ " = " ++ value ++ "\n"

def textLine (key : String) (s : Option String) : String :=
  s.elim "" fun s => line key (Toml.quote s)

def settingsText (s : Settings) : String :=
  "[labels]\n" ++ textLine "h_labels" s.headingLabels ++ line "h_level" (toString s.headingLevel) ++
    textLine "ol_labels" s.orderedLabels ++ textLine "ul_labels" s.unorderedLabels ++
    line "mode" (Toml.quote s.mode.name)

def text (c : Config) : String :=
  c.stylesheetPath.elim "" (fun p => line "stylesheet_path" (Toml.quote p.text) ++ "\n") ++
    settingsText c.settings

/-! ## The usual place -/

/-- Where the configuration of a user is kept: a file below the home directory. -/
def defaultPath (env : Environment) : Path :=
  Path.join ⟨String.ofList (env.expandHome "~/.config/markdown-labels".toList)⟩ "config.toml"

end Config
end Rubric
