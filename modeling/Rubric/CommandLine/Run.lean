import Rubric.CommandLine.Arguments
import Rubric.Config.Store
import Rubric.Css.Stylesheet
import Rubric.Labelling.Run
import Rubric.Markdown.Builder
import Rubric.Tree.Html

/-!
# Running

* `Arguments.override` : a configuration in which the arguments win;
* `RunError` : why a run fails; `RunError.message` : the error and its causes in one line;
* `Arguments.run` : labels a file and prints it. The stylesheet is written into its file, or it is
  printed in front of the document.
-/

namespace Rubric

/-- Why a run fails. -/
inductive RunError where
  | config (e : ConfigError)
  | unreadable (file : Path) (cause : FileError)
  | unlabelled (file : Path) (cause : LabelError)
  /-- The directories for the stylesheet cannot be made. -/
  | noDirectory (cause : FileError)
  | unwritable (file : Path) (cause : FileError)
deriving DecidableEq

def RunError.because (message : String) (cause : Option String) : String :=
  message ++ cause.elim "" (": " ++ ·)

def RunError.message : RunError → String
  | config e => because e.message e.cause?
  | unreadable file cause => because ("Failed to read " ++ file.text) (some cause.message)
  | unlabelled file cause =>
    because ("Failed to label " ++ file.text) (some (because cause.message cause.cause?))
  | noDirectory cause => cause.message
  | unwritable file cause => because ("Failed to write " ++ file.text) (some cause.message)

namespace Arguments

/-- A configuration with what the arguments say. -/
def override (a : Arguments) (c : Config) : Config :=
  { stylesheetPath := a.stylesheet <|> c.stylesheetPath
    settings :=
      { headingLabels := a.headingLabels <|> c.settings.headingLabels
        headingLevel := a.headingLevel.getD c.settings.headingLevel
        orderedLabels := a.orderedLabels <|> c.settings.orderedLabels
        unorderedLabels := a.unorderedLabels <|> c.settings.unorderedLabels
        mode := if a.css then .css else c.settings.mode } }

variable {m : Type → Type} [Monad m] [Host m]

def configuration (a : Arguments) (env : Environment) : ExceptT RunError m Config := do
  let loaded ← (Config.load env (a.config.getD (Config.defaultPath env))).adapt RunError.config
  return a.override (loaded.getD {})

def label (a : Arguments) (c : Config) : ExceptT RunError m (Node × LabelReport) := do
  match ← (Host.readText a.file : m (Except FileError String)) with
  | .error cause => throw (.unreadable a.file cause)
  | .ok text =>
    let labelled := ({ settings := c.settings } : Labelling).apply {} (Markdown.toNode text)
    match labelled.result with
    | .error cause => throw (.unlabelled a.file cause)
    | .ok output => return (labelled.document, output)

def styleElement (css : String) : String := "<style>\n" ++ css ++ "</style>\n"

/-- Writes a stylesheet into its file, or prints it where it has none. -/
def emitStyle (file : Option Path) (css : String) : ExceptT RunError m Unit := do
  match file with
  | none => (Host.print (styleElement css) : m Unit)
  | some file =>
    (ExceptT.mk (Host.makeDirectories file)).adapt RunError.noDirectory
    (ExceptT.mk (Host.writeText file css)).adapt (RunError.unwritable file)

/-- Labels a file and prints it. An empty stylesheet appears nowhere. -/
def run (a : Arguments) (env : Environment) : ExceptT RunError m Unit := do
  let c ← a.configuration env
  let (document, output) ← a.label c
  let css := output.stylesheet.toText
  unless css.isEmpty do emitStyle c.stylesheetPath css
  (Host.print (document.html ++ "\n") : m Unit)

end Arguments
end Rubric
