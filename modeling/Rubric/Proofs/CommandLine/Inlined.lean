import Rubric.Proofs.CommandLine.Output
import Rubric.Proofs.Stylesheet.Drawn

/-!
# Stylesheets within documents

* `Rule.Composed.closes_literal` : no literal text of a rule has an end tag, if no source has a bracket;
* `Arguments.inlined_held_iff` : the style element that a run prints holds its stylesheet just if no literal
  text of a rule has an end tag. None has if no template has a bracket.
-/

namespace Rubric

namespace Rule
variable {c : Template.Context} {r : Rule}

theorem Composed.named (h : r.Composed c) : r.Named := by
  cases r with
  | content container item value =>
    intro key style hmem
    obtain ⟨roster, keys, hplaced, hparts⟩ := h
    obtain ⟨known, hknown, rfl⟩ := hplaced.supplied (hparts _ hmem)
    exact Registry.no_bracket_name hknown
  | verbatim => exact h
  | _ => trivial

/-- A literal text has an end tag only if a source has a bracket. -/
theorem Composed.closes_literal (h : r.Composed c) (hc : ∀ source ∈ c.sources, '<' ∉ source.toList) :
    ∀ s ∈ r.literals, Css.closes s.toList = false := by
  intro s hs
  refine Css.closes_of_not_mem fun hx => ?_
  obtain ⟨source, hsource, hmem⟩ := (h.supplies_literal hs hx).mem_source (by decide)
  exact hc source hsource hmem

end Rule

/-! ## The output of a run -/

namespace Arguments
open Css
variable {a : Arguments} {env : Environment} {machine : Machine} {c : Config} {text : String}
  {report : LabelReport}

/-- A run whose stylesheet has no file prints it in front of the document. The style element holds all of it,
whatever stands behind, just if no literal text of its rules has an end tag. None has if the templates that
have been read have no bracket. -/
theorem inlined_held_iff (hc : (a.configuration env : OnMachine RunError Config).run.run machine = (.ok c, machine))
    (hfile : c.stylesheetPath = none) (hread : machine.files.readText a.file = .ok text)
    (hresult : (({ settings := c.settings } : Labelling).apply {} (Markdown.toNode text)).result = .ok report)
    (hcss : report.stylesheet.toText ≠ "") :
    let labelled := ({ settings := c.settings } : Labelling).apply {} (Markdown.toNode text)
    let sheet := "\n" ++ report.stylesheet.toText
    let behind := sheet ++ ("</style>\n" ++ (labelled.document.html ++ "\n"))
    (a.run env : OnMachine RunError Unit).run.run machine = (.ok (), machine.print ("<style>" ++ behind)) ∧
      (rawText? behind.toList = some sheet.toList ↔
        ∀ s ∈ report.stylesheet.literals, closes s.toList = false) ∧
      ((∀ source ∈ labelled.context.sources, '<' ∉ source.toList) →
        rawText? behind.toList = some sheet.toList) := by
  intro labelled sheet behind
  have hcomposed := Labelling.composed_rules { settings := c.settings } {} (Markdown.toNode text) hresult
  have hheld : rawText? behind.toList = some sheet.toList ↔
      ∀ s ∈ report.stylesheet.literals, closes s.toList = false := by
    have hend : begins styleEnd ("</style>\n" ++ (labelled.document.html ++ "\n")).toList = true := by
      rw [String.toList_append]
      rfl
    have hraw := Stylesheet.rawText?_toText (fun r hr => (hcomposed r hr).named) hend
    have hsheet : sheet.toList = '\n' :: report.stylesheet.toText.toList := String.toList_append
    have hbehind : behind.toList = sheet.toList ++ ("</style>\n" ++ (labelled.document.html ++ "\n")).toList :=
      String.toList_append
    rw [hbehind, hsheet]
    exact hraw
  refine ⟨?_, hheld, fun hsources => hheld.2 fun s hs => ?_⟩
  · have hlabel : (a.label c : OnMachine RunError (Node × LabelReport)).run.run machine =
        (.ok (labelled.document, report), machine) :=
      Prod.ext (label_eq_ok_iff.2 ⟨text, hread, rfl, hresult⟩) (looks_label a c Machine.lawful machine)
    have hprint : "<style>\n" ++ report.stylesheet.toText ++ "</style>\n" ++ (labelled.document.html ++ "\n") =
        "<style>" ++ behind := by
      have hopen : "<style>\n" = "<style>" ++ "\n" := by decide
      simp only [behind, sheet, hopen, String.append_assoc]
    rw [run_labelled hc hlabel, hfile, run_emit_none _ _ hcss, styleElement, ← hprint]
    exact congrArg (Except.ok (), ·) (print_append machine _ _)
  · obtain ⟨r, hr, hmem⟩ := List.mem_flatMap.1 hs
    exact (hcomposed r hr).closes_literal hsources s hmem

/-- A numeral alone. -/
theorem inlined_held_iff_decimal :
    let a : Arguments := { file := ⟨"doc.md"⟩, css := true, orderedLabels := some "1" }
    let machine : Machine := { files := ⟨[(["doc.md"], .file "1. a\n".toUTF8)]⟩ }
    ∃ css page, (a.run {} : OnMachine RunError Unit).run.run machine =
        (.ok (), machine.print ("<style>" ++ ("\n" ++ css ++ ("</style>\n" ++ page)))) ∧
      rawText? ("\n" ++ css ++ ("</style>\n" ++ page)).toList = some ("\n" ++ css).toList := by
  intro a machine
  let settings : Settings := { orderedLabels := some "1", mode := .css }
  have hok : (({ settings } : Labelling).apply {} (Markdown.toNode "1. a\n")).result.toOption.any
      (fun report => report.stylesheet.toText ≠ "") = true := by decide +kernel
  cases hresult : (({ settings } : Labelling).apply {} (Markdown.toNode "1. a\n")).result with
  | error e =>
    rw [hresult] at hok
    cases hok
  | ok report =>
    rw [hresult] at hok
    have hcss : report.stylesheet.toText ≠ "" := of_decide_eq_true hok
    have hconfig : ((a.configuration {} : OnMachine RunError Config).run.run machine).1 = .ok { settings } := by
      decide +kernel
    have hread : machine.files.readText a.file = .ok "1. a\n" := by decide +kernel
    have hsources : ∀ source ∈ (({ settings } : Labelling).apply {} (Markdown.toNode "1. a\n")).context.sources,
        '<' ∉ source.toList := by decide +kernel
    obtain ⟨hrun, -, hheld⟩ :=
      inlined_held_iff (Prod.ext hconfig (looks_configuration a {} Machine.lawful machine)) rfl hread hresult hcss
    exact ⟨_, _, hrun, hheld hsources⟩

set_option maxRecDepth 4000 in
/-- The end tag in a template is an end tag in the stylesheet. The element ends within the rule, and not
where the run has written the end tag. -/
theorem not_held_end_tag :
    let a : Arguments := { file := ⟨"doc.md"⟩, css := true, orderedLabels := some "\x22</style>\x221" }
    let machine : Machine := { files := ⟨[(["doc.md"], .file "1. a\n".toUTF8)]⟩ }
    let after := ((a.run {} : OnMachine RunError Unit).run.run machine).2
    let held := "\n.la-labelled>li\x7blist-style-type:none;\x7d\n" ++
      ".la-label0\x7bcounter-reset:la-label0;\x7d\n" ++
      ".la-label0>li:not(.la-no-label)\x7bcounter-increment:la-label0;\x7d\n" ++
      ".la-label0>li:not(.la-no-label)::before\x7bcontent:\x22"
    let rest := "</style>\x22 counter(la-label0,decimal);\x7d\n"
    let behind := held ++ (rest ++ ("</style>\n" ++ "<ol class=\x22la-labelled la-label0\x22><li>a</li></ol>\n"))
    after.printed = "<style>" ++ behind ∧ rawText? behind.toList = some held.toList ∧
      rawText? behind.toList ≠ some (held ++ rest).toList := by
  intro a machine after held rest behind
  have hprinted : after.printed = "<style>" ++ behind := by decide +kernel
  have hheld : rawText? behind.toList = some held.toList := by
    have hclear : '<' ∉ held.toList := by
      simp only [held, String.toList_append, List.mem_append]
      decide
    have hend : begins styleEnd (rest ++ ("</style>\n" ++
        "<ol class=\x22la-labelled la-label0\x22><li>a</li></ol>\n")).toList = true := by decide +kernel
    rw [show behind.toList = _ from String.toList_append]
    exact rawText?_of_not_mem hclear hend
  refine ⟨hprinted, hheld, fun h => ?_⟩
  have happend : (held ++ rest).toList = held.toList ++ rest.toList := String.toList_append
  rw [hheld, happend, Option.some_inj, List.self_eq_append_right] at h
  exact absurd h (by decide)

end Arguments
end Rubric
