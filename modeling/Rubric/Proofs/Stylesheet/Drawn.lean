import Rubric.Proofs.Css.RawText
import Rubric.Proofs.Series.Characters
import Rubric.Proofs.Stylesheet.Consistency

/-!
# Where the rules of a run come from

* `Draw.mem_rules` : a rule that a label adds says what is drawn before items just if it is the one for the
  items of the label;
* `Labelling.exists_draw` : every rule of a run is added by a label that it draws;
* `Rule.Composed` : a rule that a walk adds, with parts that come from a roster;
  `Labelling.composed_rules` : the rules of a run are.
-/

namespace Rubric

namespace Draw
variable {w : Draw} {styled : Bool} {r : Rule}

theorem rules_false (w : Draw) (hr : r ∈ w.rules false) : r = .hideMarkers := by
  have htext : r ∈ (w.roster.drawText w.series w.container []).1.rules := by
    rw [rules, Roster.drawItem] at hr
    cases hv : w.roster.get? w.series <;> rw [hv] at hr <;> exact hr
  rw [Roster.drawText] at htext
  dsimp only at htext
  split at htext
  · cases htext
  · exact List.mem_singleton.1 htext

/-- A rule of a label counts or hides markers, or it says what is drawn before the items of the label. -/
theorem mem_rules (h : w.roster.StyledAs styled w.series) (hr : r ∈ w.rules styled) :
    (r.Drawn ∧ ∀ container item value, r ≠ .content container item value) ∨
      styled = true ∧ ∃ items, w.items? = some items ∧ r = .content items.1 items.2 w.content := by
  cases styled with
  | false =>
    rw [rules_false w hr]
    exact Or.inl ⟨trivial, fun _ _ _ h => by cases h⟩
  | true =>
    obtain ⟨v, hv, hstyled⟩ := h
    obtain ⟨counting, hcounting, heq⟩ := rules_eq hv hstyled
    rw [heq] at hr
    rcases List.mem_append.1 hr with hr | hr
    · exact Or.inl (hcounting r hr)
    · obtain ⟨items, hitems, rfl⟩ := Option.map_eq_some_iff.1 (Option.mem_toList.1 hr)
      exact Or.inr ⟨rfl, items, hitems, rfl⟩

end Draw

/-- A rule that a walk may add, whose content has the parts of a roster with the templates of a context. -/
def Rule.Composed (c : Template.Context) : Rule → Prop
  | content _ _ value => ∃ (r : Roster) (keys : List SeriesKey), r.Placed c keys ∧ ∀ p ∈ value, r.Constituent p
  | verbatim _ => False
  | _ => True

theorem Draw.composed {c : Template.Context} {keys : List SeriesKey} {w : Draw} {styled : Bool} {r : Rule}
    (hplaced : w.roster.Placed c keys) (h : w.roster.StyledAs styled w.series) (hr : r ∈ w.rules styled) :
    r.Composed c := by
  rcases mem_rules h hr with ⟨hdrawn, hcontent⟩ | ⟨-, items, -, rfl⟩
  · cases r with
    | content container item value => exact absurd rfl (hcontent container item value)
    | verbatim => exact hdrawn
    | _ => trivial
  · exact ⟨w.roster, keys, hplaced, Roster.constituent_content w.roster w.series⟩

theorem Rule.Composed.supplies_literal {c : Template.Context} {r : Rule} (h : r.Composed c) {s : String}
    (hs : s ∈ r.literals) {x : Char} (hx : x ∈ s.toList) : c.Supplies x := by
  cases r with
  | content container item value =>
    obtain ⟨roster, keys, hplaced, hparts⟩ := h
    obtain ⟨p, hp, hliteral⟩ := List.mem_filterMap.1 hs
    cases p with
    | counter => cases hliteral
    | text t =>
      cases hliteral
      exact hplaced.supplied (hparts _ hp) x hx
  | _ => cases hs

namespace Labelling
open State

/-- Every rule of a run is added by a label that the run draws, at a moment at which all templates are those
of the run. -/
theorem exists_draw (l : Labelling) (c : Template.Context) (doc : Node) {report : LabelReport}
    (h : (l.apply c doc).result = .ok report) :
    ∃ keys, ∀ r ∈ report.stylesheet.rules, ∃ w ∈ l.draws c doc,
      r ∈ w.rules (l.settings.mode == .css) ∧ w.roster.Placed (l.apply c doc).context keys ∧
        w.roster.StyledAs (l.settings.mode == .css) w.series := by
  obtain ⟨d, c', out, s, hread, hwalk, hdraft, -, rfl⟩ := exists_walk h
  have hcontext : (l.apply c doc).context = s.context := by rw [apply, hdraft]
  have hsheet := stylesheet_walk hread doc
  have hplaced := placed_walk hread doc
  simp only [hwalk] at hsheet hplaced
  rw [← styled_ofSettings hread, hcontext]
  refine ⟨s.scope.roster.keys, fun r hr => ?_⟩
  have hr : r ∈ s.stylesheet.rules := hr
  rw [hsheet] at hr
  obtain ⟨w, hw, hmem⟩ := List.mem_flatMap.1 ((Stylesheet.mem_addAll hr).resolve_left (by simp))
  exact ⟨w, hw, hmem, hplaced w hw⟩

/-- So the rules of a run are composed of its templates. -/
theorem composed_rules (l : Labelling) (c : Template.Context) (doc : Node) {report : LabelReport}
    (h : (l.apply c doc).result = .ok report) :
    ∀ r ∈ report.stylesheet.rules, r.Composed (l.apply c doc).context := by
  obtain ⟨keys, hdraw⟩ := exists_draw l c doc h
  intro r hr
  obtain ⟨w, -, hmem, hplaced, hstyled⟩ := hdraw r hr
  exact Draw.composed hplaced hstyled hmem

end Labelling
end Rubric
