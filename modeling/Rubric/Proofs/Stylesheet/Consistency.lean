import Rubric.Proofs.Css.Selectors
import Rubric.Proofs.Stylesheet.Inside

/-!
# When a stylesheet contradicts itself

* `Stylesheet.Consistent` : no two rules have one selector and different bodies;
* `Draw.items?` : the items that a label adds a rule for, which says what is drawn before them;
* `Draw.Agree` : labels that add a rule for the same items have the same heading text in them;
* `consistent_draws` : the rules of labels are consistent just if the labels agree;
* `Labelling.consistent_iff` : so is the stylesheet of a run. It is if no list has a heading in it.
-/

namespace Rubric

namespace Stylesheet

/-- No two rules have the same selector and different bodies. -/
def Consistent (s : Stylesheet) : Prop :=
  ∀ r ∈ s.rules, ∀ r' ∈ s.rules, r.selector = r'.selector → r.body = r'.body

instance (s : Stylesheet) : Decidable s.Consistent :=
  inferInstanceAs (Decidable (∀ _ ∈ _, ∀ _ ∈ _, _ → _))

theorem mem_add {s : Stylesheet} {rule r : Rule} (h : r ∈ (s.add rule).rules) :
    r ∈ s.rules ∨ r = rule := by
  rw [add] at h
  split at h
  · exact Or.inl h
  · exact (List.mem_append.1 h).imp_right List.mem_singleton.1

theorem mem_add_of_mem {s : Stylesheet} (rule : Rule) {r : Rule} (h : r ∈ s.rules) :
    r ∈ (s.add rule).rules := by
  rw [add]
  split
  · exact h
  · exact List.mem_append_left _ h

theorem exists_mem_add (s : Stylesheet) (rule : Rule) :
    ∃ r ∈ (s.add rule).rules, r.toText = rule.toText := by
  rw [add]
  split
  · rename_i h
    obtain ⟨r, hr, heq⟩ := List.any_eq_true.1 h
    exact ⟨r, hr, by simpa using heq⟩
  · exact ⟨rule, List.mem_append_right _ (List.mem_singleton_self _), rfl⟩

theorem mem_addAll {s : Stylesheet} {rules : List Rule} {r : Rule} (h : r ∈ (s.addAll rules).rules) :
    r ∈ s.rules ∨ r ∈ rules := by
  induction rules generalizing s with
  | nil => exact Or.inl h
  | cons rule rest ih =>
    rcases ih (s := s.add rule) h with h | h
    · refine (mem_add h).imp_right fun heq => ?_
      rw [heq]
      exact List.mem_cons_self ..
    · exact Or.inr (List.mem_cons_of_mem _ h)

theorem mem_addAll_of_mem {s : Stylesheet} (rules : List Rule) {r : Rule} (h : r ∈ s.rules) :
    r ∈ (s.addAll rules).rules := by
  induction rules generalizing s with
  | nil => exact h
  | cons rule rest ih => exact ih (mem_add_of_mem rule h)

theorem exists_mem_addAll {s : Stylesheet} {rules : List Rule} {rule : Rule} (h : rule ∈ rules) :
    ∃ r ∈ (s.addAll rules).rules, r.toText = rule.toText := by
  induction rules generalizing s with
  | nil => cases h
  | cons first rest ih =>
    rcases List.mem_cons.1 h with rfl | h
    · obtain ⟨r, hr, heq⟩ := exists_mem_add s rule
      exact ⟨r, mem_addAll_of_mem rest hr, heq⟩
    · exact ih (s := s.add first) h

/-- A rule is in a stylesheet just if it was added, if it does not say what is drawn. -/
theorem mem_addAll_iff {rules : List Rule} (hdrawn : ∀ r ∈ rules, r.Drawn) {r : Rule}
    (hr : r.Drawn) (hcontent : ∀ container name value, r ≠ .content container name value) :
    r ∈ (({} : Stylesheet).addAll rules).rules ↔ r ∈ rules := by
  constructor
  · exact fun h => (mem_addAll h).resolve_left (by simp)
  · intro h
    obtain ⟨r', hr', htext⟩ := exists_mem_addAll (s := {}) h
    have hdrawn' := hdrawn r' ((mem_addAll hr').resolve_left (by simp))
    rcases Rule.same_selector hdrawn' hr (Rule.selector_congr htext) with rfl | ⟨c, i, _, value, -, heq⟩
    · exact hr'
    · exact absurd heq (hcontent c i value)

/-- Rules in a stylesheet are consistent just if they were before they were added. -/
theorem consistent_addAll (rules : List Rule) :
    (({} : Stylesheet).addAll rules).Consistent ↔
      ∀ r ∈ rules, ∀ r' ∈ rules, r.selector = r'.selector → r.body = r'.body := by
  have hmem : ∀ r ∈ (({} : Stylesheet).addAll rules).rules, r ∈ rules := fun r hr =>
    (mem_addAll hr).resolve_left (by simp)
  constructor
  · intro h r hr r' hr' hsel
    obtain ⟨t, ht, hteq⟩ := exists_mem_addAll (s := {}) hr
    obtain ⟨t', ht', hteq'⟩ := exists_mem_addAll (s := {}) hr'
    rw [← Rule.body_congr hteq, ← Rule.body_congr hteq']
    exact h t ht t' ht' (by rw [Rule.selector_congr hteq, Rule.selector_congr hteq', hsel])
  · intro h r hr r' hr'
    exact h r (hmem r hr) r' (hmem r' hr')

end Stylesheet

namespace Draw

/-- The items that a label adds a rule for, which says what is drawn before them: those of a list that
is drawn for the first time, or those of a class where the series of a list has changed. -/
def items? (w : Draw) : Option (Nat × Option Nat) :=
  (w.roster.get? w.series).bind fun v =>
    match w.container.styling with
    | none => some (v.key, none)
    | some styling =>
      if styling.current = w.series then none else some (styling.key, some v.key)

/-- The text of a heading in a label. -/
def inlined (w : Draw) : String := w.roster.inlined w.series

def key? (w : Draw) : Option Nat := (w.roster.get? w.series).map Series.key

/-- What a label says is drawn. -/
def content (w : Draw) : Content := w.roster.content w.series

/-- Labels that add a rule for the same items have the same heading text in them. -/
def Agree (draws : List Draw) : Prop :=
  ∀ w ∈ draws, ∀ w' ∈ draws, ∀ items, w.items? = some items → w'.items? = some items →
    w.inlined = w'.inlined

section
variable {w w' : Draw} {v v' : Series}

/-- A label adds rules that count, and perhaps one that says what is drawn. -/
theorem rules_eq (hv : w.roster.view? w.series = some v) (hstyled : v.styled = true) :
    ∃ counting, (∀ r ∈ counting, r.Drawn ∧ ∀ container item value, r ≠ .content container item value) ∧
      w.rules true = counting ++
        (w.items?.map fun i => .content i.1 i.2 (w.roster.content w.series)).toList := by
  obtain ⟨t, ht, rfl⟩ := Roster.get?_of_view? hv
  have hts : t.styled = true := hstyled
  have hrules : w.rules true = (w.roster.drawStyled w.series t w.container []).1.rules := by
    rw [rules, Roster.drawItem, ht]
    simp [hts]
  rw [hrules, Roster.drawStyled, items?, ht, Option.bind_some]
  cases w.container.styling with
  | none =>
    refine ⟨[.hideMarkers] ++ if t.isNumbered then [.reset t.key, .increment t.key none] else [],
      fun r hr => ?_, rfl⟩
    obtain rfl | ⟨-, rfl | rfl⟩ : r = .hideMarkers ∨
        t.isNumbered = true ∧ (r = .reset t.key ∨ r = .increment t.key none) := by simpa using hr
    all_goals simp [Rule.Drawn]
  | some styling =>
    dsimp only
    by_cases hcurrent : styling.current = w.series
    · rw [if_pos hcurrent, if_pos hcurrent]
      refine ⟨[.hideMarkers], fun r hr => ?_, rfl⟩
      rw [List.mem_singleton.1 hr]
      simp [Rule.Drawn]
    · rw [if_neg hcurrent, if_neg hcurrent]
      refine ⟨[.hideMarkers] ++ if t.isNumbered then [.increment styling.key (some t.key)] else [],
        fun r hr => ?_, rfl⟩
      obtain rfl | ⟨-, rfl⟩ : r = .hideMarkers ∨
          t.isNumbered = true ∧ r = .increment styling.key (some t.key) := by simpa using hr
      all_goals simp [Rule.Drawn]

theorem drawn_of_mem_rules (hv : w.roster.view? w.series = some v) (hstyled : v.styled = true)
    {r : Rule} (hr : r ∈ w.rules true) : r.Drawn := by
  obtain ⟨counting, hcounting, heq⟩ := rules_eq hv hstyled
  rw [heq] at hr
  rcases List.mem_append.1 hr with hr | hr
  · exact (hcounting r hr).1
  · cases hi : w.items? with
    | none =>
      rw [hi] at hr
      cases hr
    | some items =>
      rw [hi] at hr
      rw [List.mem_singleton.1 hr]
      trivial

theorem content_mem_rules (hv : w.roster.view? w.series = some v) (hstyled : v.styled = true)
    {container : Nat} {item : Option Nat} {value : Content} :
    .content container item value ∈ w.rules true ↔
      w.items? = some (container, item) ∧ value = w.roster.content w.series := by
  obtain ⟨counting, hcounting, heq⟩ := rules_eq hv hstyled
  rw [heq, List.mem_append]
  constructor
  · rintro (hr | hr)
    · exact absurd rfl ((hcounting _ hr).2 container item value)
    · cases hi : w.items? with
      | none =>
        rw [hi] at hr
        cases hr
      | some items =>
        rw [hi] at hr
        have := List.mem_singleton.1 hr
        cases this
        exact ⟨rfl, rfl⟩
  · rintro ⟨hi, rfl⟩
    rw [hi]
    exact Or.inr (List.mem_singleton_self _)

theorem key_of_items? (hv : w.roster.view? w.series = some v) {container : Nat} {item : Option Nat}
    (hi : w.items? = some (container, item)) : item.getD container = v.key := by
  obtain ⟨t, ht, rfl⟩ := Roster.get?_of_view? hv
  rw [items?, ht, Option.bind_some] at hi
  split at hi
  · cases hi
    rfl
  · split at hi
    · cases hi
    · cases hi
      rfl

end

/-- The rules of labels are consistent just if the labels agree. -/
theorem consistent_draws {c : Template.Context} {keys : List SeriesKey} {draws : List Draw}
    (h : ∀ w ∈ draws, w.roster.Placed c keys ∧ w.roster.StyledAs true w.series) :
    (({} : Stylesheet).addAll (draws.flatMap (rules true))).Consistent ↔ Agree draws := by
  rw [Stylesheet.consistent_addAll]
  constructor
  · intro hc w hw w' hw' items hi hi'
    obtain ⟨hr, v, hv, hstyled⟩ := h w hw
    obtain ⟨hr', v', hv', hstyled'⟩ := h w' hw'
    have hkey : v.key = v'.key := (key_of_items? hv hi).symm.trans (key_of_items? hv' hi')
    have hmem := (content_mem_rules hv hstyled).2 ⟨hi, rfl⟩
    have hmem' := (content_mem_rules hv' hstyled').2 ⟨hi', rfl⟩
    have hbody := hc _ (List.mem_flatMap.2 ⟨w, hw, hmem⟩) _ (List.mem_flatMap.2 ⟨w', hw', hmem'⟩)
      (by rw [Rule.selector_content, Rule.selector_content])
    exact ((hr.content_iff hr' hv hv' hkey hstyled).1).1 (Rule.body_content.1 hbody)
  · intro hagree r hr r' hr' hsel
    obtain ⟨w, hw, hmem⟩ := List.mem_flatMap.1 hr
    obtain ⟨w', hw', hmem'⟩ := List.mem_flatMap.1 hr'
    obtain ⟨hp, v, hv, hstyled⟩ := h w hw
    obtain ⟨hp', v', hv', hstyled'⟩ := h w' hw'
    rcases Rule.same_selector (drawn_of_mem_rules hv hstyled hmem)
      (drawn_of_mem_rules hv' hstyled' hmem') hsel with rfl | ⟨container, item, value, value', rfl, rfl⟩
    · rfl
    · obtain ⟨hi, rfl⟩ := (content_mem_rules hv hstyled).1 hmem
      obtain ⟨hi', rfl⟩ := (content_mem_rules hv' hstyled').1 hmem'
      have hkey : v.key = v'.key := (key_of_items? hv hi).symm.trans (key_of_items? hv' hi')
      refine Rule.body_content.2 ?_
      exact ((hp.content_iff hp' hv hv' hkey hstyled).1).2 (hagree w hw w' hw' _ hi hi')

/-- Labels of one key that are drawn inside lists have the same text in them. -/
theorem inlined_of_inside {c : Template.Context} {keys : List SeriesKey} {w w' : Draw}
    {v v' : Series} (hr : w.roster.Placed c keys) (hr' : w'.roster.Placed c keys) (h : w.Inside)
    (h' : w'.Inside) (hv : w.roster.view? w.series = some v) (hv' : w'.roster.view? w'.series = some v')
    (hkey : v.key = v'.key) : w.inlined = w'.inlined := by
  obtain ⟨s₀, s, hs, hroster, hmem, hhas⟩ := h
  obtain ⟨s₀', s', hs', hroster', hmem', hhas'⟩ := h'
  have heq := hs.inlined_eq (hroster ▸ hr) hs' (hroster' ▸ hr') (hroster ▸ hv) (hroster' ▸ hv') hkey
    hmem hmem' hhas hhas'
  rwa [hroster, hroster'] at heq

/-- Labels that are drawn inside lists agree, and those of one key say that the same is drawn. -/
theorem agree_of_inside {c : Template.Context} {keys : List SeriesKey} {draws : List Draw}
    (h : ∀ w ∈ draws, w.roster.Placed c keys ∧ w.roster.StyledAs true w.series)
    (hinside : ∀ w ∈ draws, w.Inside) :
    Agree draws ∧ ∀ w ∈ draws, ∀ w' ∈ draws, w.key? = w'.key? → w.content = w'.content := by
  constructor
  · rintro w hw w' hw' ⟨container, item⟩ hi hi'
    obtain ⟨hr, v, hv, -⟩ := h w hw
    obtain ⟨hr', v', hv', -⟩ := h w' hw'
    exact inlined_of_inside hr hr' (hinside w hw) (hinside w' hw') hv hv'
      ((key_of_items? hv hi).symm.trans (key_of_items? hv' hi'))
  · intro w hw w' hw' hkeys
    obtain ⟨hr, v, hv, hstyled⟩ := h w hw
    obtain ⟨hr', v', hv', -⟩ := h w' hw'
    obtain ⟨t, ht, rfl⟩ := Roster.get?_of_view? hv
    obtain ⟨t', ht', rfl⟩ := Roster.get?_of_view? hv'
    have hkey : t.key = t'.key := by
      rw [key?, key?, ht, ht'] at hkeys
      exact Option.some.inj hkeys
    exact (hr.content_iff hr' hv hv' hkey hstyled).2
      (inlined_of_inside hr hr' (hinside w hw) (hinside w' hw') hv hv' hkey)

end Draw

/-! ## Whole runs -/

namespace State
variable {d : Defaults} {s s' t : State}

theorem Coherent.placed (h : t.Coherent d) (hs : Steps d t s') :
    t.scope.roster.Placed s'.context s'.scope.roster.keys where
  held id v hv := (h.held id v hv).mono hs.extends
  keyed := h.keyed
  older := h.sound.older
  keys _ _ hn := hs.grows.key hn

theorem holds_read {c c' : Template.Context} {origin : TemplateOrigin} {source : Option String}
    {i : Option Template.Instance} (h : c.read origin source = (.ok i, c')) :
    c.Extends c' ∧ ∀ t, i = some t → c'.Holds t := by
  cases source with
  | none =>
    cases h
    exact ⟨.refl _, by simp⟩
  | some source =>
    have hextends := c.extends_parse source
    rw [Template.Context.read] at h
    split at h <;> rename_i hparse <;> cases h
    rw [hparse] at hextends
    refine ⟨hextends, ?_⟩
    rintro t ht
    cases ht
    exact Template.Context.holds_parse hparse

theorem coherent_begin {c c' : Template.Context} {settings : Settings}
    (h : Defaults.ofSettings c settings = (.ok d, c')) (n : Draft) :
    (Labelling.begin c' n).Coherent d := by
  have hempty : ∀ id, (Labelling.begin c' n).scope.roster.view? id = none := fun id => by
    simp [Labelling.begin, Roster.view?, Roster.get?]
  rw [Defaults.ofSettings] at h
  split at h
  · cases h
  · split at h
    · cases h
    · rename_i hheading
      split at h
      · cases h
      · rename_i hordered
        split at h
        · cases h
        · rename_i hunordered
          obtain ⟨-, hh⟩ := holds_read hheading
          obtain ⟨hext, ho⟩ := holds_read hordered
          obtain ⟨hext', hu⟩ := holds_read hunordered
          cases h
          refine ⟨sound_begin c' n, fun i hi => ((hh i hi).mono hext).mono hext', ?_, ?_, ?_, ?_⟩
          · intro kind i hi
            cases kind with
            | heading => cases hi
            | orderedList => exact (ho i hi).mono hext'
            | unorderedList => exact hu i hi
          · intro id v hv
            rw [hempty] at hv
            cases hv
          · intro id v hv
            rw [hempty] at hv
            cases hv
          · intro n k place styled hn
            simp [Labelling.begin] at hn

theorem styled_ofSettings {c c' : Template.Context} {settings : Settings}
    (h : Defaults.ofSettings c settings = (.ok d, c')) : d.styled = (settings.mode == .css) := by
  rw [Defaults.ofSettings] at h
  split at h
  · cases h
  · split at h
    · cases h
    · split at h
      · cases h
      · split at h <;> cases h
        rfl

end State

namespace Labelling
open State

/-- The labels of list items that a run draws. -/
def draws (l : Labelling) (c : Template.Context) (doc : Node) : List Draw :=
  match Defaults.ofSettings c l.settings with
  | (.error _, _) => []
  | (.ok d, c) =>
    let marked := (Draft.ofNode doc).markRefs none
    marked.draws d (begin c marked)

section
variable {l : Labelling} {c c' : Template.Context} {d : Defaults}

theorem draws_of_read (h : Defaults.ofSettings c l.settings = (.ok d, c')) (doc : Node) :
    l.draws c doc = ((Draft.ofNode doc).markRefs none).draws d
      (begin c' ((Draft.ofNode doc).markRefs none)) := by
  rw [draws, h]

theorem stylesheet_walk (h : Defaults.ofSettings c l.settings = (.ok d, c')) (doc : Node) :
    (((Draft.ofNode doc).markRefs none).walk d
        (begin c' ((Draft.ofNode doc).markRefs none))).2.stylesheet =
      ({} : Stylesheet).addAll ((l.draws c doc).flatMap (Draw.rules d.styled)) := by
  rw [Draft.walk_stylesheet, draws_of_read h]
  rfl

theorem stylesheet_draws (h : Defaults.ofSettings c l.settings = (.ok d, c')) (hd : d.styled = true)
    (doc : Node) :
    (((Draft.ofNode doc).markRefs none).walk d
        (begin c' ((Draft.ofNode doc).markRefs none))).2.stylesheet =
      ({} : Stylesheet).addAll ((l.draws c doc).flatMap (Draw.rules true)) := by
  rw [stylesheet_walk h, hd]

/-- The labels that a run draws are placed in the templates and keys at its end. -/
theorem placed_walk (h : Defaults.ofSettings c l.settings = (.ok d, c')) (doc : Node) :
    let marked := (Draft.ofNode doc).markRefs none
    let last := (marked.walk d (begin c' marked)).2
    ∀ w ∈ l.draws c doc, w.roster.Placed last.context last.scope.roster.keys ∧
      w.roster.StyledAs d.styled w.series := by
  intro marked last w hw
  rw [draws_of_read h] at hw
  obtain ⟨t, hto, hfrom, hroster, hstyled⟩ := Draft.walk_draws d _ _ w hw
  rw [hroster] at hstyled ⊢
  exact ⟨(hto.coherent (coherent_begin h _)).placed hfrom, hstyled⟩

theorem placed_draws (h : Defaults.ofSettings c l.settings = (.ok d, c')) (hd : d.styled = true)
    (doc : Node) :
    let marked := (Draft.ofNode doc).markRefs none
    let last := (marked.walk d (begin c' marked)).2
    ∀ w ∈ l.draws c doc, w.roster.Placed last.context last.scope.roster.keys ∧
      w.roster.StyledAs true w.series := by
  rw [← hd]
  exact placed_walk h doc

/-- Where no list has a heading in it, all labels are drawn inside lists. -/
theorem inside_draws (h : Defaults.ofSettings c l.settings = (.ok d, c')) (hd : d.styled = true)
    {doc : Node} (hdoc : doc.BareLists)
    (hend : (((Draft.ofNode doc).markRefs none).walk d
      (begin c' ((Draft.ofNode doc).markRefs none))).2.failure = none) :
    ∀ w ∈ l.draws c doc, w.Inside := by
  rw [draws_of_read h]
  have hbare := (Draft.bareLists_ofNode doc hdoc).markRefs none
  exact (Draft.walk_bareLists d hd _ hbare (fun id hid => by cases hid) (sound_begin c' _) hend).2

end

/-- The stylesheet of a run does not contradict itself just if the labels that it draws agree. They do if
no list has a heading in it, and then all lists of one style say that the same is drawn. -/
theorem consistent_iff (l : Labelling) (c : Template.Context) (doc : Node) {report : LabelReport}
    (hmode : l.settings.mode = .css) (h : (l.apply c doc).result = .ok report) :
    (report.stylesheet.Consistent ↔ Draw.Agree (l.draws c doc)) ∧
      (doc.BareLists → report.stylesheet.Consistent ∧
        ∀ w ∈ l.draws c doc, ∀ w' ∈ l.draws c doc, w.key? = w'.key? → w.content = w'.content) := by
  obtain ⟨d, c', out, s, hread, hwalk, -, hend, rfl⟩ := exists_walk h
  have hd : d.styled = true := by rw [styled_ofSettings hread, hmode]; rfl
  have hsheet := stylesheet_draws hread hd doc
  have hplaced := placed_draws hread hd doc
  rw [hwalk] at hsheet
  have hiff : s.stylesheet.Consistent ↔ Draw.Agree (l.draws c doc) := by
    rw [hsheet]
    exact Draw.consistent_draws hplaced
  refine ⟨hiff, fun hdoc => ?_⟩
  have hinside := inside_draws hread hd hdoc (by rw [hwalk]; exact hend)
  obtain ⟨hagree, hsame⟩ := Draw.agree_of_inside hplaced hinside
  exact ⟨hiff.2 hagree, hsame⟩

/-- Two lists below sections. The second one starts behind the next section, and has a style of its own. -/
theorem consistent_iff_sections :
    let settings : Settings :=
      { headingLabels := some "1", orderedLabels := some "H.1", mode := .css }
    let doc : Node := .root [.element "h1" [] [], .element "ol" [] [.element "li" [] []],
      .element "h1" [] [], .element "ol" [] [.element "li" [] []]]
    ∃ report, ((Labelling.mk settings Draft.plainText).apply {} doc).result = .ok report ∧
      report.stylesheet.Consistent := by
  intro settings doc
  have hok : ((Labelling.mk settings Draft.plainText).apply {} doc).result.toOption.isSome = true := by
    decide +kernel
  cases hresult : ((Labelling.mk settings Draft.plainText).apply {} doc).result with
  | error e =>
    rw [hresult] at hok
    cases hok
  | ok report =>
    have h := consistent_iff (Labelling.mk settings Draft.plainText) {} doc rfl hresult
    exact ⟨report, rfl, (h.2 (by decide)).1⟩

/-- A heading inside a list changes what the list shows for the section around it. The next list starts
with the key of the section as it was, and two rules for it say different things. -/
theorem inconsistent_heading_in_list :
    let settings : Settings :=
      { headingLabels := some "1", orderedLabels := some "H.1", mode := .css }
    let doc : Node := .root [.element "h1" [] [], .element "ol" [] [.element "li" [] []],
      .element "ol" [] [.element "h1" [] [], .element "li" [] []]]
    ((Labelling.mk settings Draft.plainText).apply {} doc).result.toOption.any
      fun report => ¬report.stylesheet.Consistent := by
  intro settings doc
  let first : Content := [.text "1", .text ".", .counter 1 "decimal"]
  let second : Content := [.text "2", .text ".", .counter 1 "decimal"]
  have hboth : ((Labelling.mk settings Draft.plainText).apply {} doc).result.toOption.any
      (fun report => decide (.content 1 none first ∈ report.stylesheet.rules ∧
        .content 1 none second ∈ report.stylesheet.rules)) = true := by
    decide +kernel
  cases hresult : ((Labelling.mk settings Draft.plainText).apply {} doc).result.toOption with
  | none =>
    rw [hresult] at hboth
    cases hboth
  | some report =>
    rw [hresult, Option.any_some] at hboth
    obtain ⟨hfirst, hsecond⟩ : .content 1 none first ∈ report.stylesheet.rules ∧
        .content 1 none second ∈ report.stylesheet.rules := of_decide_eq_true hboth
    have hbad : ¬report.stylesheet.Consistent := fun h => by
      have hbody := h _ hfirst _ hsecond (by rw [Rule.selector_content, Rule.selector_content])
      exact absurd (Rule.body_content.1 hbody) (by decide +kernel)
    exact decide_eq_true hbad

end Labelling
end Rubric
