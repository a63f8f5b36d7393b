import Rubric.Proofs.Stylesheet.Consistency
import Rubric.Proofs.Stylesheet.Items

/-!
# The rules for the items of a list

* `Stylesheet.Distinct` : no two rules have the same text; `distinct_addAll` : rules that are added one
  after the other are distinct;
* `Stylesheet.Says sheet draws` : for each key that a list of some draws has begun with, there is one rule
  for its items, and it says what every label of the key does;
* `Stylesheet.says_draws` : the stylesheet of labels says so, if labels of one key say the same.
-/

namespace Rubric
namespace Stylesheet

/-- No two rules have the same text. -/
def Distinct (s : Stylesheet) : Prop := s.rules.Pairwise fun r r' => r.toText ≠ r'.toText

theorem Distinct.add {s : Stylesheet} (h : s.Distinct) (rule : Rule) : (s.add rule).Distinct := by
  rw [Stylesheet.add]
  split
  · exact h
  · rename_i hnew
    refine List.pairwise_append.2 ⟨h, List.pairwise_singleton _ _, fun r hr r' hr' heq => hnew ?_⟩
    rw [List.mem_singleton.1 hr'] at heq
    exact List.any_eq_true.2 ⟨r, hr, by simp [heq]⟩

theorem distinct_addAll (rules : List Rule) {s : Stylesheet} (h : s.Distinct) :
    (s.addAll rules).Distinct := by
  induction rules generalizing s with
  | nil => exact h
  | cons rule rest ih => exact ih (h.add rule)

theorem mem_itemRules {s : Stylesheet} {key : Nat} {r : Rule} :
    r ∈ s.itemRules (Css.styleName key) ↔
      r ∈ s.rules ∧ r.selector = Css.items key none ++ "::before" := by
  have hselector : "." ++ Css.styleName key ++ ">li:not(.la-no-label)::before" =
      Css.items key none ++ "::before" := by
    simp [← String.toList_inj, Css.items, Css.noLabelClass]
  rw [itemRules, List.mem_filter, beq_iff_eq, hselector]

/-- There is one rule for the items of each key that a list has begun with, and all labels of the key say
what it does. -/
def Says (s : Stylesheet) (draws : List Draw) : Prop :=
  ∀ w ∈ draws, ∀ first ∈ draws, ∀ key, first.items? = some (key, none) → w.key? = some key →
    s.itemRules (Css.styleName key) = [.content key none w.content]

/-- The stylesheet of labels says what they draw, if labels of one key draw the same. -/
theorem says_draws {c : Template.Context} {keys : List SeriesKey} {draws : List Draw}
    (h : ∀ w ∈ draws, w.roster.Placed c keys ∧ w.roster.StyledAs true w.series)
    (hsame : ∀ w ∈ draws, ∀ w' ∈ draws, w.key? = w'.key? → w.content = w'.content) :
    (({} : Stylesheet).addAll (draws.flatMap (Draw.rules true))).Says draws := by
  intro w hw first hfirst key hitems hkey
  have hall : ∀ r ∈ (({} : Stylesheet).addAll (draws.flatMap (Draw.rules true))).itemRules
      (Css.styleName key), r = .content key none w.content := by
    intro r hr
    obtain ⟨hmem, hselector⟩ := mem_itemRules.1 hr
    obtain ⟨w', hw', hr'⟩ := List.mem_flatMap.1 ((mem_addAll hmem).resolve_left (by simp))
    obtain ⟨-, v', hv', hstyled'⟩ := h w' hw'
    have hcontent : ∀ value, r = .content key none value → r = .content key none w.content := by
      rintro value rfl
      obtain ⟨hitems', rfl⟩ := (Draw.content_mem_rules hv' hstyled').1 hr'
      obtain ⟨t, ht, rfl⟩ := Roster.get?_of_view? hv'
      have hkey' : w'.key? = some key := by
        rw [Draw.key?, ht]
        exact congrArg some (Draw.key_of_items? hv' hitems').symm
      have := hsame w' hw' w hw (hkey'.trans hkey.symm)
      rw [← this]
      rfl
    have hdrawn : (Rule.content key none w.content).Drawn := trivial
    have hsel : r.selector = (Rule.content key none w.content).selector := by
      rw [hselector, Rule.selector_content]
    rcases Rule.same_selector (Draw.drawn_of_mem_rules hv' hstyled' hr') hdrawn hsel with
      heq | ⟨_, _, value, _, heq, heq'⟩
    · exact hcontent _ heq
    · cases heq'
      exact hcontent value heq
  obtain ⟨-, v, hv, hstyled⟩ := h first hfirst
  obtain ⟨r, hr, htext⟩ := @exists_mem_addAll {} _ _ (List.mem_flatMap.2
    ⟨first, hfirst, (Draw.content_mem_rules hv hstyled).2 ⟨hitems, rfl⟩⟩)
  have hmem := mem_itemRules.2 ⟨hr, (Rule.selector_congr htext).trans (Rule.selector_content ..)⟩
  have hempty : ({} : Stylesheet).Distinct := List.Pairwise.nil
  have hdistinct := (distinct_addAll (draws.flatMap (Draw.rules true)) hempty).filter
    fun r : Rule => r.selector == "." ++ Css.styleName key ++ ">li:not(.la-no-label)::before"
  rw [← itemRules] at hdistinct
  cases hrules : (({} : Stylesheet).addAll (draws.flatMap (Draw.rules true))).itemRules
    (Css.styleName key) with
  | nil =>
    rw [hrules] at hmem
    cases hmem
  | cons r₁ rest =>
    rw [hrules] at hall hdistinct
    rw [hall r₁ (List.mem_cons_self ..)] at hdistinct ⊢
    cases rest with
    | nil => rfl
    | cons r₂ rest =>
      rw [hall r₂ (by simp)] at hdistinct
      exact absurd rfl ((List.pairwise_cons.1 hdistinct).1 _ (List.mem_cons_self ..))

end Stylesheet
end Rubric
