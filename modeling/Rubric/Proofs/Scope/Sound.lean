import Rubric.Proofs.Scope.Start

/-!
# Sound scopes

* `Scope.Sound` : links lead to children, parents are older than their children, and the series in
  scope have been started;
* `Sound.shrinks`, `increment`, `start`, `replace` : every change of a scope keeps it sound;
* `Sound.lt_of_below` : what hangs below a series is younger.
-/

namespace Rubric.Scope
variable {s s' : Scope}

/-- Links lead to children, parents are older, and handles in scope have been given out. -/
structure Sound (s : Scope) : Prop where
  linked : ∀ j c, c ∈ s.roster.children j → ∃ v, s.roster.view? c = some v ∧ v.parent = some j
  older : ∀ id v p, s.roster.view? id = some v → v.parent = some p → p < id
  has : ∀ id ∈ s.stack, s.roster.Has id

theorem Sound.lt_of_child (h : s.Sound) {j c : SeriesId} (hc : c ∈ s.roster.children j) : j < c := by
  obtain ⟨v, hv, hp⟩ := h.linked j c hc
  exact h.older c v j hv hp

/-- What hangs below a series is younger. -/
theorem Sound.lt_of_below (h : s.Sound) {id j : SeriesId}
    (hb : s.roster.Below (s.roster.children id) j) : id < j := by
  refine hb.induct (fun i => id < i) (fun c hc => h.lt_of_child hc) fun i c hi hc => ?_
  exact Nat.lt_trans hi (h.lt_of_child hc)

theorem Sound.shrinks {gone : List SeriesId} (h : s.Sound) (hs : Shrinks s s' gone) : s'.Sound where
  linked j c hc := by
    obtain ⟨v, hv, hp⟩ := h.linked j c (hs.links j c hc)
    exact ⟨v, (hs.view c).trans hv, hp⟩
  older id v p hv hp := h.older id v p ((hs.view id).symm.trans hv) hp
  has id hid := by
    have := h.has id (hs.mem.1 hid).1
    rwa [Roster.Has, hs.size]

theorem Sound.increment (h : s.Sound) (id : SeriesId) : (s.increment id).Sound where
  linked j c hc := by
    obtain ⟨v, hv, hp⟩ := h.linked j c (by simpa [Scope.increment] using hc)
    refine ⟨if id = c then { v with count := v.count + 1 } else v, ?_, ?_⟩
    · rw [Scope.increment, Roster.view?_increment, hv]
      rfl
    · split <;> exact hp
  older j v p hv hp := by
    rw [Scope.increment, Roster.view?_increment] at hv
    obtain ⟨w, hw, rfl⟩ := Option.map_eq_some_iff.1 hv
    have hp' : w.parent = some p := by split at hp <;> exact hp
    exact h.older j w p hw hp'
  has j hj := by
    have := h.has j hj
    rwa [Roster.Has, Scope.increment, Roster.size_increment]

theorem Sound.create (h : s.Sound) (kind : ElementKind) (template : Template.Instance)
    {parent : Option SeriesId} (styled : Bool)
    (hparent : ∀ p, parent = some p → s.roster.Has p) :
    (s.create kind template parent styled).2.Sound where
  linked j c hc := by
    rcases Roster.mem_children_create _ _ _ _ _ hc with hc | ⟨rfl, rfl⟩
    · obtain ⟨v, hv, hp⟩ := h.linked j c hc
      exact ⟨v, (Roster.view?_create_of_has (Roster.has_of_view? hv) ..).trans hv, hp⟩
    · exact ⟨_, Roster.view?_create_self .., rfl⟩
  older id v p hv hp := by
    rw [show (s.create kind template parent styled).2.roster =
      (s.roster.create kind template parent styled).2 from rfl, Roster.view?_create] at hv
    split at hv
    · rename_i hid
      cases hv
      exact hid ▸ hparent p hp
    · exact h.older id v p hv hp
  has id hid := by
    have : id < s.roster.series.size := h.has id hid
    rw [Roster.Has, Scope.create, Roster.size_create]
    exact Nat.lt_succ_of_lt this

theorem Sound.start (h : s.Sound) (kind : ElementKind) (template : Template.Instance)
    {parent : Option SeriesId} (styled : Bool) (hparent : ∀ p, parent = some p → p ∈ s.stack) :
    (s.started kind template parent styled).Sound := by
  have hc := h.create kind template styled fun p hp => h.has p (hparent p hp)
  refine ⟨hc.linked, hc.older, fun id hid => ?_⟩
  rcases List.mem_cons.1 hid with rfl | hid
  · exact Roster.has_of_view? (Roster.view?_create_self ..)
  · exact hc.has id hid

theorem Sound.has_parent (h : s.Sound) (old : SeriesId) {p : SeriesId}
    (hp : (s.roster.get? old).bind Series.parent = some p) : s.roster.Has p := by
  obtain ⟨v, hv, hvp⟩ := Option.bind_eq_some_iff.1 hp
  have hlt := h.older old _ p (Roster.view?_of_get? hv) hvp
  exact Nat.lt_trans hlt (Roster.has_of_get? hv)

theorem Sound.replace (h : s.Sound) (old : SeriesId) (kind : ElementKind)
    (template : Template.Instance) (styled : Bool) :
    (s.replaced old kind template styled).Sound := by
  have hc := h.create kind template styled fun p hp => h.has_parent old hp
  obtain ⟨gone, hsh, -⟩ := shrinks_replace (s.create kind template
    ((s.roster.get? old).bind Series.parent) styled).2 old s.roster.series.size
  have hswapped : Sound { (s.create kind template ((s.roster.get? old).bind Series.parent)
      styled).2 with stack := swapped s.stack old s.roster.series.size } := by
    refine ⟨hc.linked, hc.older, fun id hid => ?_⟩
    rcases mem_swapped hid with rfl | hid
    · exact Roster.has_of_view? (Roster.view?_create_self ..)
    · exact hc.has id hid
  exact hswapped.shrinks hsh

end Rubric.Scope
