import Rubric.Proofs.Css.Strings
import Rubric.Proofs.Series.Chains
import Rubric.Proofs.Stylesheet.Drawn

/-!
# What the rules of a run say

* `Rule.Composed.plain` : the rules of a run have plain parts, so they are read back;
* `Draw.Spells` : what the template of a label says, with the counters of its chain;
* `Labelling.rules_read` : a rule of a run is on one line and means what the template says, just if no literal
  text in it has a line break. None has if no template has.
-/

namespace Rubric

namespace Rule
variable {c : Template.Context} {r : Rule}

theorem Composed.plain (h : r.Composed c) : r.Plain := by
  cases r with
  | content container item value =>
    obtain ⟨roster, keys, hplaced, hparts⟩ := h
    intro p hp
    cases hparts p hp with
    | label id hne => exact Bool.eq_false_iff.2 (mt String.isEmpty_iff.1 hne)
    | literal _ _ hne => exact Bool.eq_false_iff.2 (mt String.isEmpty_iff.1 hne)
    | counter hv hs =>
      have hname := (Template.Name.of_style (hplaced.style_mem hv hs)).mem
      exact List.all_eq_true.2 fun x hx => by simpa [Css.isNameChar] using hname x hx
  | verbatim => exact h
  | _ => trivial

theorem Composed.breaks_literal (h : r.Composed c) (hc : ∀ source ∈ c.sources, Css.breaks source.toList = false) :
    ∀ s ∈ r.literals, Css.breaks s.toList = false := by
  intro s hs
  refine List.any_eq_false.2 fun x hx hbreak => ?_
  have hreserved : Registry.isReserved x = true := by
    simp only [Css.isBreak, Bool.or_eq_true, beq_iff_eq] at hbreak
    rcases hbreak with (rfl | rfl) | rfl <;> decide
  obtain ⟨source, hsource, hmem⟩ := (h.supplies_literal hs hx).mem_source hreserved
  exact List.any_eq_false.1 (hc source hsource) x hmem hbreak

end Rule

/-- What the template of a series says: its prefix and suffix around its counter, which stands behind those of
the chain, the separators between them, and the label of the series above them in front. -/
def Draw.Spells (w : Draw) (v : Series) (value : Content) : Prop :=
  ∃ core, value = Content.ofText v.segment.before ++ core ++ Content.ofText v.segment.after ∧
    (v.isNumbered = false ∧ core = [] ∨
      ∃ chain top, w.roster.Chain w.series chain top ∧
        core = chain.foldl Series.behind (Content.ofText (top.elim "" w.roster.bareText)))

theorem Draw.spells {w : Draw} {v : Series} (hr : w.roster.Aged) (hv : w.roster.get? w.series = some v)
    (hstyled : v.styled = true) : w.Spells v w.content := by
  refine ⟨w.roster.contentCore w.series, ?_, ?_⟩
  · show w.roster.content w.series = _
    rw [Roster.content_eq, Roster.view?_of_get? hv]
    rfl
  · cases hnumbered : v.isNumbered with
    | false =>
      have hliteral : v.segment.style = none := Option.isNone_iff_eq_none.1 (Option.isSome_eq_false_iff.1 hnumbered)
      exact Or.inl ⟨rfl, Roster.contentCore_literal (Roster.view?_of_get? hv) hliteral⟩
    | true =>
      have hdrawn : v.isDrawn = true := Bool.and_eq_true_iff.2 ⟨hstyled, hnumbered⟩
      obtain ⟨chain, top, hchain⟩ := Roster.exists_chain hr hv hdrawn
      exact Or.inr ⟨chain, top, hchain, Roster.contentCore_chain hr hchain⟩

namespace Labelling
open Css

/-- A text that is not empty is read back from its string just if it has no line break. So a rule of a run is
on one line and is read as it is meant just if no literal text in it has a line break. What it is meant to say
is what a template of the run says for a label that is drawn. If no template that has been read has a line
break, all rules are read as they are meant. -/
theorem rules_read (l : Labelling) (c : Template.Context) (doc : Node) {report : LabelReport}
    (h : (l.apply c doc).result = .ok report) :
    (∀ (s : String) (rest : List Char), s ≠ "" →
      readString? ((quote s).toList ++ rest) = if breaks s.toList then none else some (s.toList, rest)) ∧
    (∀ r ∈ report.stylesheet.rules,
      (breaks r.toText.toList = false ↔ ∀ s ∈ r.literals, breaks s.toList = false) ∧
      (readRule? r.toText.toList = if breaks r.toText.toList then none else some r.meaning) ∧
      ∀ container item value, r = .content container item value →
        ∃ w ∈ l.draws c doc, ∃ v, w.roster.get? w.series = some v ∧
          (l.apply c doc).context.Holds v.template ∧ w.items? = some (container, item) ∧ w.Spells v value) ∧
    ((∀ source ∈ (l.apply c doc).context.sources, breaks source.toList = false) →
      ∀ r ∈ report.stylesheet.rules,
        breaks r.toText.toList = false ∧ readRule? r.toText.toList = some r.meaning) := by
  have hcomposed := composed_rules l c doc h
  have hline : ∀ r ∈ report.stylesheet.rules,
      breaks r.toText.toList = r.literals.any (breaks ·.toList) := fun r hr =>
    Rule.breaks_toText (hcomposed r hr).plain
  have hread : ∀ r ∈ report.stylesheet.rules,
      readRule? r.toText.toList = if breaks r.toText.toList then none else some r.meaning := by
    intro r hr
    rw [hline r hr]
    exact Rule.readRule?_toText (hcomposed r hr).plain
  refine ⟨fun s rest hs => ?_, fun r hr => ⟨?_, hread r hr, ?_⟩, fun hsources r hr => ?_⟩
  · exact readString?_quote (Bool.eq_false_iff.2 (mt String.isEmpty_iff.1 hs)) rest
  · rw [hline r hr, List.any_eq_false]
    simp
  · rintro container item value rfl
    obtain ⟨keys, hdraw⟩ := exists_draw l c doc h
    obtain ⟨w, hw, hmem, hplaced, hstyledAs⟩ := hdraw _ hr
    rcases Draw.mem_rules hstyledAs hmem with ⟨-, hcontent⟩ | ⟨hmode, items, hitems, heq⟩
    · exact absurd rfl (hcontent container item value)
    · cases heq
      obtain ⟨u, hu, hstyled⟩ := hstyledAs
      obtain ⟨v, hv, rfl⟩ := Roster.get?_of_view? hu
      have hheld : (l.apply c doc).context.Holds v.template := hplaced.held w.series v.unlinked hu
      exact ⟨w, hw, v, hv, hheld, hitems, Draw.spells hplaced.older hv (hstyled.trans hmode)⟩
  · have hunbroken : breaks r.toText.toList = false := by
      rw [hline r hr, List.any_eq_false]
      simpa using (hcomposed r hr).breaks_literal hsources
    refine ⟨hunbroken, ?_⟩
    rw [hread r hr, hunbroken]
    rfl

/-- A quote and a backslash in front of a number. -/
theorem rules_read_escaped :
    let settings : Settings := { orderedLabels := some "'\x22\x5c'1", mode := .css }
    let doc : Node := .root [.element "ol" [] [.element "li" [] [.text "a"]]]
    let run := (Labelling.mk settings Draft.plainText).apply {} doc
    ∃ report, run.result = .ok report ∧
      (.content 0 none [.text "\x22\x5c", .counter 0 "decimal"]) ∈ report.stylesheet.rules ∧
      ∀ r ∈ report.stylesheet.rules,
        breaks r.toText.toList = false ∧ readRule? r.toText.toList = some r.meaning := by
  intro settings doc run
  have hmem : run.result.toOption.any (fun report => decide
      (.content 0 none [.text "\x22\x5c", .counter 0 "decimal"] ∈ report.stylesheet.rules)) = true := by
    decide +kernel
  have hsources : ∀ source ∈ run.context.sources, breaks source.toList = false := by decide +kernel
  cases hresult : run.result with
  | error e =>
    rw [hresult] at hmem
    cases hmem
  | ok report =>
    rw [hresult] at hmem
    exact ⟨report, rfl, of_decide_eq_true hmem, (rules_read _ {} doc hresult).2.2 hsources⟩

/-- A line break in a template is one in its string, which the line ends, and in its rule, which is none. -/
theorem not_read_line_break :
    let settings : Settings := { orderedLabels := some "\x22\n\x221", mode := .css }
    let doc : Node := .root [.element "ol" [] [.element "li" [] [.text "a"]]]
    let run := (Labelling.mk settings Draft.plainText).apply {} doc
    let r : Rule := .content 0 none [.text "\n", .counter 0 "decimal"]
    readString? (quote "\n").toList = none ∧
      r.meaning.value = [.string ['\n'], .word "counter(la-label0,decimal)".toList] ∧
      ∃ report, run.result = .ok report ∧ r ∈ report.stylesheet.rules ∧
        breaks r.toText.toList = true ∧ readRule? r.toText.toList = none := by
  intro settings doc run r
  have hplain : r.Plain := by decide
  have hmem : run.result.toOption.any (fun report => decide (r ∈ report.stylesheet.rules)) = true := by
    decide +kernel
  refine ⟨by decide, by decide +kernel, ?_⟩
  cases hresult : run.result with
  | error e =>
    rw [hresult] at hmem
    cases hmem
  | ok report =>
    rw [hresult] at hmem
    refine ⟨report, rfl, of_decide_eq_true hmem, ?_, ?_⟩
    · exact (Rule.breaks_toText hplain).trans (by decide)
    · rw [Rule.readRule?_toText hplain, if_pos (by decide)]

end Labelling
end Rubric
