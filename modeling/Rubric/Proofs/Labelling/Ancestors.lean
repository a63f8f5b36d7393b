import Rubric.Proofs.Labelling.Nesting

/-!
# Ancestors in scope

* `Moment.Upright` : behind the event, all ancestors of the series in scope and of the series in which the
  element is numbered are in scope;
* `Moment.Orphans` : the event numbers an item below a section that has ended, or it ends a list below
  which a section is open;
* `Turn.rooted_iff` : an event that comes to a rooted scope leaves it so iff it orphans nothing;
* `Labelling.upright_iff` : the moments of a run are upright iff none of them orphans anything, and always if
  no list has a heading in it.
-/

namespace Rubric

namespace Walk

/-- The event numbers an item of a list whose parent is not in scope, or it ends a list while a series that
hangs directly below it is in scope. -/
def Event.Orphans (s : Scope) (own : Option SeriesId) : Event → Prop
  | item _ l _ => own.isSome ∧ ∃ p, s.roster.parent? l.series = some p ∧ p ∉ s.stack
  | leaveList l => ∃ c ∈ s.stack, s.roster.parent? c = some l.series
  | heading .. | list .. | element .. | leaveItem _ => False

namespace Turn
variable {s s' : Scope} {e : Event} {own : Option SeriesId}

/-- Every event leaves the series in scope linked to their parents. -/
theorem tied (h : Turn s e own s') (hs : s.Sound) (ht : s.Tied) : s'.Tied := by
  have hclosed : ∀ level, (s.closeBelow level).Sound ∧ (s.closeBelow level).Tied := by
    intro level
    obtain ⟨gone, hpr, -⟩ := Scope.prunes_closeBelow s level
    exact ⟨hs.shrinks hpr.toShrinks, ht.prunes hpr⟩
  cases h with
  | close level => exact (hclosed level).2
  | count => exact (hclosed _).2.increment _
  | restart template => exact ((hclosed _).2.replaced _ _ _ (hclosed _).1).increment _
  | start template => exact ((hclosed _).2.started _ _ _ (hclosed _).1 fun _ => Scope.mem_of_selected).increment _
  | bareList | element | skip => exact ht
  | list template styled => exact ht.started _ _ _ hs fun _ => Scope.mem_of_selected
  | countItem => exact ht.increment _
  | restartItem template styled => exact (ht.replaced _ _ _ hs).increment _
  | leaveItem l =>
    obtain ⟨gone, hpr, -⟩ := Scope.prunes_endBelow s l.series
    exact ht.prunes hpr
  | leaveList l => exact ht.remove l.series

theorem rooted_heading {level : HeadingLevel} {tag : String} {attrs : Attrs}
    (h : Turn s (.heading level tag attrs) own s') (hs : s.Sound) (ht : s.Tied) (hr : s.Rooted) :
    s'.Rooted ∧ ∀ id ∈ own, id ∈ s'.stack := by
  obtain ⟨gone, hpr, -⟩ := Scope.prunes_closeBelow s level
  have hclosed := hr.prunes ht hpr
  have hsound := hs.shrinks hpr.toShrinks
  cases h with
  | close => exact ⟨hclosed, by simp⟩
  | count hfind =>
    refine ⟨hclosed.increment _, fun id hid => ?_⟩
    cases hid
    exact Scope.findKind?_mem (s := s.closeBelow level) hfind
  | restart template hfind =>
    have hold := Scope.findKind?_mem hfind
    refine ⟨(hclosed.replaced _ template false (ht.prunes hpr) hsound (hclosed _ hold)).increment _,
      fun id hid => ?_⟩
    cases hid
    exact hsound.mem_replaced _ template false (hsound.has _ hold)
  | start template =>
    refine ⟨(hclosed.started _ template false hsound fun _ => Scope.mem_of_selected).increment _,
      fun id hid => ?_⟩
    cases hid
    exact List.mem_cons_self ..

/-- An item leaves a rooted scope so, and is numbered in a series whose parent is in scope, iff the series of
its list hangs below no series that is gone. -/
theorem rooted_item {kind : ElementKind} {l : ListState} {attrs : Attrs} (h : Turn s (.item kind l attrs) own s')
    (hold : s.roster.Has l.series) (hs : s.Sound) (ht : s.Tied) (hr : s.Rooted) :
    (s'.Rooted ∧ ∀ id ∈ own, ∀ p, s'.roster.parent? id = some p → p ∈ s'.stack) ↔
      ¬(Event.item kind l attrs).Orphans s own := by
  cases h with
  | skip => exact iff_of_true ⟨hr, by simp⟩ fun h => by cases h.1
  | countItem =>
    have hsame : (s.increment l.series).roster.parent? l.series = s.roster.parent? l.series :=
      Roster.parent?_increment ..
    constructor
    · rintro ⟨-, hown⟩ ⟨-, p, hp, hnot⟩
      exact hnot (hown _ rfl p (hsame.trans hp))
    · intro hnone
      refine ⟨hr.increment _, fun id hid p hp => ?_⟩
      cases hid
      by_contra hnot
      exact hnone ⟨rfl, p, hsame.symm.trans hp, hnot⟩
  | restartItem template styled =>
    have hsame : ((s.replaced l.series kind template styled).increment s.roster.series.size).roster.parent?
        s.roster.series.size = s.roster.parent? l.series :=
      (Roster.parent?_increment ..).trans (Scope.parent?_replaced kind template styled s)
    constructor
    · rintro ⟨-, hown⟩ ⟨-, p, hp, hnot⟩
      have hlt := Nat.lt_trans (hs.parent?_lt hp) hold
      exact hnot (Scope.mem_of_replaced kind template styled (hown _ rfl p (hsame.trans hp))
        (Nat.ne_of_lt hlt))
    · intro hnone
      have hparent : ∀ p, s.roster.parent? l.series = some p → p ∈ s.stack := by
        intro p hp
        by_contra hnot
        exact hnone ⟨rfl, p, hp, hnot⟩
      have hroot := (hr.replaced kind template styled ht hs hparent).increment s.roster.series.size
      refine ⟨hroot, fun id hid => ?_⟩
      cases hid
      exact hroot _ (hs.mem_replaced kind template styled hold)

/-- An event that comes to a rooted scope leaves it so, and numbers its element in a series whose parent is
in scope, iff it orphans nothing. -/
theorem rooted_iff (h : Turn s e own s') (hfits : e.Fits s.roster) (hs : s.Sound) (ht : s.Tied)
    (hr : s.Rooted) :
    (s'.Rooted ∧ ∀ id ∈ own, ∀ p, s'.roster.parent? id = some p → p ∈ s'.stack) ↔ ¬e.Orphans s own := by
  cases e with
  | heading level tag attrs =>
    obtain ⟨hroot, hown⟩ := h.rooted_heading hs ht hr
    exact iff_of_true ⟨hroot, fun id hid => hroot id (hown id hid)⟩ not_false
  | list kind tag attrs =>
    refine iff_of_true ?_ not_false
    cases h with
    | bareList => exact ⟨hr, by simp⟩
    | list template styled =>
      exact ⟨hr.started _ template styled hs fun _ => Scope.mem_of_selected, by simp⟩
  | element tag attrs =>
    cases h
    exact iff_of_true ⟨hr, by simp⟩ not_false
  | leaveItem l =>
    cases h
    obtain ⟨gone, hpr, -⟩ := Scope.prunes_endBelow s l.series
    exact iff_of_true ⟨hr.prunes ht hpr, by simp⟩ not_false
  | leaveList l =>
    cases h
    constructor
    · rintro ⟨hroot, -⟩ ⟨c, hc, hparent⟩
      exact hr.remove_iff.1 hroot c hc (Nat.ne_of_gt (hs.parent?_lt hparent)) hparent
    · intro hnone
      exact ⟨hr.remove_iff.2 fun c hc _ hparent => hnone ⟨c, hc, hparent⟩, by simp⟩
  | item kind l attrs =>
    obtain ⟨v, hv, -⟩ := hfits.2
    exact h.rooted_item (Roster.has_of_view? hv) hs ht hr

end Turn
end Walk

namespace Moment

/-- All ancestors of the series in scope behind the event, and of the series in which its element is
numbered, are in scope. -/
def Upright (m : Moment) : Prop :=
  ∀ id, id ∈ m.after.scope.stack ∨ m.labelled? = some id → m.after.scope.Grounded id

/-- The event numbers an item of a list whose parent is not in scope, or it ends a list while a series that
hangs directly below it is in scope. -/
def Orphans (m : Moment) : Prop := m.event.Orphans m.before.scope m.labelled?

theorem upright_iff_rooted (m : Moment) :
    m.Upright ↔ m.after.scope.Rooted ∧
      ∀ id ∈ m.labelled?, ∀ p, m.after.scope.roster.parent? id = some p → p ∈ m.after.scope.stack := by
  constructor
  · intro h
    exact ⟨fun id hid p hp => h id (Or.inl hid) p (.parent hp), fun id hid p hp => h id (Or.inr hid) p (.parent hp)⟩
  · rintro ⟨hroot, hown⟩ id (hid | hid)
    · exact hroot.grounded (hroot id hid)
    · exact hroot.grounded (hown id hid)

theorem upright_iff_not_orphans {m : Moment} (hrun : m.before.failure = none) (hfits : m.event.Fits m.before.scope.roster)
    (hs : m.before.scope.Sound) (ht : m.before.scope.Tied) (hr : m.before.scope.Rooted) :
    m.Upright ↔ ¬m.Orphans := by
  rw [upright_iff_rooted]
  exact (m.turn hrun).rooted_iff hfits hs ht hr

end Moment

/-! ## Runs -/

namespace Trace
variable {d : Defaults} {s t : State} {ms : List Moment}

/-- As long as nothing is orphaned, all moments are upright, and not any longer. -/
theorem upright_iff_not_orphans (h : Trace d s ms t) (hfits : ∀ m ∈ ms, m.event.Fits m.before.scope.roster)
    (hs : s.scope.Sound) (ht : s.scope.Tied) (hr : s.scope.Rooted) :
    (∀ m ∈ ms, m.Upright) ↔ ∀ m ∈ ms, ¬m.Orphans := by
  induction h with
  | nil => simp
  | @cons e s t ms hrun _ ih =>
    obtain ⟨hfirst, hrest⟩ := List.forall_mem_cons.1 hfits
    have hiff := Moment.upright_iff_not_orphans (m := ⟨d, s, e⟩) hrun hfirst hs ht hr
    have htied := (Moment.turn ⟨d, s, e⟩ hrun).tied hs ht
    have hsound := (e.steps s).sound (d := d) hs
    rw [List.forall_mem_cons, List.forall_mem_cons, hiff]
    refine and_congr_right fun hnot => ih hrest hsound htied ?_
    exact ((Moment.upright_iff_rooted _).1 (hiff.2 hnot)).1

end Trace

/-- A list that is the innermost series in scope, with its parent in scope, leaves no orphans. -/
theorem Moment.not_orphans {m : Moment} (hclear : m.event.Clear m.before.scope) (hs : m.before.scope.Sound)
    (hr : m.before.scope.Rooted) : ¬m.Orphans := by
  obtain ⟨d, s, e⟩ := m
  cases e with
  | heading | list | element | leaveItem => exact not_false
  | item kind l attrs =>
    obtain ⟨base, hinner⟩ := hclear
    rintro ⟨-, p, hp, hnot⟩
    exact hnot (hr l.series (hinner.stack ▸ List.mem_cons_self ..) p hp)
  | leaveList l =>
    obtain ⟨base, hinner⟩ := hclear
    rintro ⟨child, hmem, hparent⟩
    have hlt := hs.parent?_lt hparent
    rw [hinner.stack] at hmem
    rcases List.mem_cons.1 hmem with rfl | hbase
    · exact Nat.lt_irrefl _ hlt
    · exact Nat.lt_asymm hlt (hinner.older child hbase)

instance (s : Scope) : Decidable s.Rooted :=
  inferInstanceAs (Decidable (∀ id ∈ s.stack, ∀ p ∈ s.roster.parent? id, p ∈ s.stack))

namespace Labelling
open State
variable (l : Labelling) (c : Template.Context) (doc : Node)

theorem upright_begin (n : Draft) : (begin c n).scope.Tied ∧ (begin c n).scope.Rooted :=
  ⟨fun _ hid => (List.not_mem_nil hid).elim, fun _ hid => (List.not_mem_nil hid).elim⟩

theorem not_orphans_of_bareLists (h : doc.BareLists) : ∀ m ∈ l.moments c doc, ¬m.Orphans := by
  have hrooted := l.moments_preserve c doc
    (P := fun s => s.scope.Sound ∧ s.scope.Tied ∧ s.scope.Rooted)
    (fun c' => ⟨sound_begin c' _, upright_begin c' _⟩)
    fun m hm hrun ⟨hs, ht, hr⟩ => by
      have hnot := Moment.not_orphans (l.moments_clear c doc h m hm) hs hr
      have hiff := Moment.upright_iff_not_orphans hrun (l.moments_fit c doc m hm) hs ht hr
      exact ⟨(m.event.steps m.before).sound hs, (m.turn hrun).tied hs ht,
        ((m.upright_iff_rooted).1 (hiff.2 hnot)).1⟩
  exact fun m hm => Moment.not_orphans (l.moments_clear c doc h m hm) (hrooted m hm).1.1 (hrooted m hm).1.2.2

/-- At all moments of a run the ancestors of the series in scope and of the element's own series are in
scope, iff no item is numbered below a section that has ended, and no list ends while a series hangs below it.
Where no list has a heading in it, that never happens. -/
theorem upright_iff :
    ((∀ m ∈ l.moments c doc, m.Upright) ↔ ∀ m ∈ l.moments c doc, ¬m.Orphans) ∧
      (doc.BareLists → ∀ m ∈ l.moments c doc, m.Upright) := by
  have hiff : (∀ m ∈ l.moments c doc, m.Upright) ↔ ∀ m ∈ l.moments c doc, ¬m.Orphans := by
    rcases l.moments_trace c doc with hnone | ⟨d, c', htrace⟩
    · simp [hnone]
    · obtain ⟨htied, hrooted⟩ := upright_begin c' ((Draft.ofNode doc).markRefs none)
      exact htrace.upright_iff_not_orphans (l.moments_fit c doc) (sound_begin c' _) htied hrooted
  exact ⟨hiff, fun h => hiff.2 (l.not_orphans_of_bareLists c doc h)⟩

/-- A section that starts inside a list hangs below it. The list ends, and the next heading is numbered in
the section with the number of the list in front. -/
theorem not_upright_section_of_list :
    let l : Labelling := { settings := { headingLabels := some "1", orderedLabels := some "1" } }
    let doc : Node := .root [.element "ol" [] [.element "li" [] [.text "a"],
      .element "h1" [("-label", "L.1")] []], .element "h1" [] []]
    (¬∀ m ∈ l.moments {} doc, m.Upright) ∧
      ((l.moments {} doc).filterMap fun m => m.labelled?.map m.after.scope.roster.text) =
        ["1", "1.1", "1.2"] := by
  intro l doc
  refine ⟨fun h => ?_, by decide +kernel⟩
  have hrooted : ∀ m ∈ l.moments {} doc, m.after.scope.Rooted := fun m hm =>
    (m.upright_iff_rooted.1 (h m hm)).1
  exact absurd hrooted (by decide +kernel)

end Labelling
end Rubric
