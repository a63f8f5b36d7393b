import Rubric.Proofs.Labelling.Draws
import Rubric.Proofs.Labelling.Frames
import Rubric.Proofs.Series.Inlined

/-!
# Scopes inside a list

* `Scope.Unstyled` : no list is open: only series that no stylesheet draws are in scope;
* `Scope.Settled s₀ s` : the scope `s` is inside a list that has been entered in `s₀`. The series of `s₀`
  are as they were then, and what they put into the keys of the open lists is still their label;
* `Settled.frames`, `increment`, `start`, `replace` : what is done inside a list keeps a scope settled;
* `Settled.inlined_eq` : lists of one key, each in such a scope, have the same text in their content.
-/

namespace Rubric

namespace Scope
variable {s s' s₀ : Scope}

/-- Only series that no stylesheet draws are in scope. -/
def Unstyled (s : Scope) : Prop := ∀ id ∈ s.stack, s.roster.StyledAs false id

/-- An open list: it hangs below a series in scope. If that is one of those which were there before the
first list was entered, its label then is in the key of the list. -/
structure Open (s₀ s : Scope) (v : Series) : Prop where
  styled : v.styled = true
  parent : ∀ p, v.parent = some p → p ∈ s.stack
  label : ∀ p, v.parent = some p → s₀.roster.Has p →
    ∃ place, s.roster.keys[v.key]? = some ⟨place, .text (s₀.roster.bareText p), true⟩

/-- A scope inside a list that was entered in another one. -/
structure Settled (s₀ s : Scope) : Prop where
  view : ∀ id, s₀.roster.Has id → s.roster.view? id = s₀.roster.view? id
  outside : ∀ id ∈ s.stack, s₀.roster.Has id → s.roster.StyledAs false id
  inside : ∀ id ∈ s.stack, ¬s₀.roster.Has id → ∃ v, s.roster.view? id = some v ∧ Open s₀ s v

theorem Unstyled.settled (h : s.Unstyled) (hs : s.Sound) : Settled s s :=
  ⟨fun _ _ => rfl, fun id hid _ => h id hid, fun id hid hnot => absurd (hs.has id hid) hnot⟩

theorem Settled.has (h : Settled s₀ s) {id : SeriesId} (hid : s₀.roster.Has id) :
    s.roster.Has id := by
  obtain ⟨v, hv⟩ := Roster.exists_view? hid
  exact Roster.has_of_view? ((h.view id hid).trans hv)

/-- The labels of the series outside are as they were. -/
theorem Settled.bareText_eq (h : Settled s₀ s) {id : SeriesId} (hid : s₀.roster.Has id) : s.roster.bareText id = s₀.roster.bareText id := by
  refine Roster.bareText_congr s₀.roster.Has h.view (fun j v p hj hv hp hlt => ?_) id hid
  exact Nat.lt_trans hlt hj

/-- A series in scope goes in as text if it was there outside, and is drawn if it is a list inside. -/
theorem Settled.has_iff (h : Settled s₀ s) {id : SeriesId} {v : Series} (hid : id ∈ s.stack)
    (hv : s.roster.view? id = some v) : s₀.roster.Has id ↔ v.styled = false := by
  constructor
  · intro hhas
    obtain ⟨w, hw, hstyled⟩ := h.outside id hid hhas
    rw [hv] at hw
    cases hw
    exact hstyled
  · intro hstyled
    by_cases hhas : s₀.roster.Has id
    · exact hhas
    · obtain ⟨w, hw, hopen⟩ := h.inside id hid hhas
      rw [hv] at hw
      cases hw
      rw [hopen.styled] at hstyled
      cases hstyled

/-! ## What keeps a scope settled -/

theorem Open.mono {v : Series} (h : Open s₀ s v) (hstack : ∀ p, v.parent = some p → p ∈ s'.stack)
    (hg : s.roster.Grows s'.roster) (n : Nat) : Open s₀ s' { v with count := n } where
  styled := h.styled
  parent := hstack
  label p hp hhas := by
    obtain ⟨place, hkey⟩ := h.label p hp hhas
    exact ⟨place, hg.key hkey⟩

theorem Settled.frames (h : Settled s₀ s) (hs : s.Sound) (hf : Frames s s')
    (hg : s.roster.Grows s'.roster) : Settled s₀ s' where
  view id hid := (hf.view id (h.has hid)).trans (h.view id hid)
  outside id hid hhas := hg.styledAs (h.outside id (hf.stack ▸ hid) hhas)
  inside id hid hhas := by
    rw [hf.stack] at hid
    obtain ⟨v, hv, hopen⟩ := h.inside id hid hhas
    exact ⟨v, (hf.view id (hs.has id hid)).trans hv,
      hopen.mono (fun p hp => hf.stack ▸ hopen.parent p hp) hg v.count⟩

theorem Settled.increment (h : Settled s₀ s) {id : SeriesId} (hid : ¬s₀.roster.Has id) :
    Settled s₀ (s.increment id) where
  view j hj := by
    have hne : j ≠ id := fun heq => hid (heq ▸ hj)
    exact (Roster.view?_increment_of_ne hne).trans (h.view j hj)
  outside j hj hhas := (Roster.grows_increment _ _).styledAs (h.outside j hj hhas)
  inside j hj hhas := by
    obtain ⟨v, hv, hopen⟩ := h.inside j hj hhas
    obtain ⟨n, hn⟩ := (Roster.grows_increment s.roster id).view j v hv
    have hstack : ∀ p, v.parent = some p → p ∈ (s.increment id).stack := hopen.parent
    exact ⟨_, hn, hopen.mono hstack (Roster.grows_increment s.roster id) n⟩

theorem Settled.open_new (h : Settled s₀ s) {kind : ElementKind}
    {template : Template.Instance} {parent : Option SeriesId}
    (hparent : ∀ p, parent = some p → p ∈ s.stack)
    (hstack : ∀ p, parent = some p → p ∈ s'.stack)
    (hg : (s.roster.create kind template parent true).2.Grows s'.roster) :
    Open s₀ s' (s.roster.newSeries kind template parent true) where
  styled := rfl
  parent := hstack
  label p hp hhas := by
    cases hp
    obtain ⟨v, hv, hstyled⟩ := h.outside p (hparent p rfl) hhas
    obtain ⟨w, hw, rfl⟩ := Roster.get?_of_view? hv
    have hkey := Roster.keys_number_self s.roster (s.roster.nextKey template (some p) true)
    have hidentity : s.roster.parentIdentity (some p) true = .text (s₀.roster.bareText p) := by
      have hws : w.styled = false := hstyled
      rw [Roster.parentIdentity, hw]
      simp only [hws, Bool.not_false, Bool.and_self, if_true]
      rw [h.bareText_eq hhas]
    refine ⟨template.place, ?_⟩
    rw [← hidentity]
    refine hg.key ?_
    rw [Roster.keys_create]
    exact hkey

/-- A list that starts is inside. -/
theorem Settled.start (h : Settled s₀ s) (hs : s.Sound) (kind : ElementKind)
    (template : Template.Instance) {parent : Option SeriesId}
    (hparent : ∀ p, parent = some p → p ∈ s.stack) :
    Settled s₀ (s.started kind template parent true) := by
  have hgrows := s.roster.grows_create kind template parent true
  have hnew : ¬s₀.roster.Has s.roster.series.size := fun hhas => Nat.lt_irrefl _ (h.has hhas)
  refine ⟨fun id hid => ?_, fun id hid hhas => ?_, fun id hid hhas => ?_⟩
  · exact (view?_started_of_has (h.has hid) ..).trans (h.view id hid)
  · rcases List.mem_cons.1 hid with rfl | hid
    · exact absurd hhas hnew
    · exact hgrows.styledAs (h.outside id hid hhas)
  · rcases List.mem_cons.1 hid with rfl | hid
    · exact ⟨_, Roster.view?_create_self .., h.open_new hparent
        (fun p hp => List.mem_cons_of_mem _ (hparent p hp)) (.refl _)⟩
    · obtain ⟨v, hv, hopen⟩ := h.inside id hid hhas
      exact ⟨v, (view?_started_of_has (hs.has id hid) ..).trans hv,
        hopen.mono (fun p hp => List.mem_cons_of_mem _ (hopen.parent p hp)) hgrows v.count⟩

/-- A series that takes the place of the innermost list is inside. -/
theorem Settled.replace (h : Settled s₀ s) (hs : s.Sound) {base : List SeriesId}
    {old : SeriesId} (hi : s.Inner base old) (hold : ¬s₀.roster.Has old) (kind : ElementKind)
    (template : Template.Instance) : Settled s₀ (s.replaced old kind template true) := by
  have hswaps := hs.swaps_replaced hi kind template true
  have hnew : ¬s₀.roster.Has s.roster.series.size := fun hhas => Nat.lt_irrefl _ (h.has hhas)
  have holdMem : old ∈ s.stack := hi.stack ▸ List.mem_cons_self ..
  obtain ⟨gone, hsh, -⟩ := shrinks_replace (s.create kind template
    ((s.roster.get? old).bind Series.parent) true).2 old s.roster.series.size
  have hsame : (s.roster.create kind template ((s.roster.get? old).bind Series.parent)
      true).2.Grows (s.replaced old kind template true).roster := .of_view_eq hsh.view hsh.keys
  have hgrows := (s.roster.grows_create kind template ((s.roster.get? old).bind Series.parent)
    true).trans hsame
  -- what hangs below an older series in scope does so still
  have hstack : ∀ p ∈ s.stack, p ≠ old → p ∈ (s.replaced old kind template true).stack := by
    intro p hp hne
    rw [hi.stack] at hp
    rw [hswaps.inner.stack]
    exact List.mem_cons_of_mem _ ((List.mem_cons.1 hp).resolve_left hne)
  refine ⟨fun id hid => ?_, fun id hid hhas => ?_, fun id hid hhas => ?_⟩
  · have hne : id ≠ old := fun heq => hold (heq ▸ hid)
    exact (hswaps.view id (h.has hid) hne).trans (h.view id hid)
  · rw [hswaps.inner.stack] at hid
    rcases List.mem_cons.1 hid with rfl | hid
    · exact absurd hhas hnew
    · exact hgrows.styledAs (h.outside id (hi.stack ▸ List.mem_cons_of_mem _ hid) hhas)
  · rw [hswaps.inner.stack] at hid
    rcases List.mem_cons.1 hid with rfl | hid
    · obtain ⟨v, hv, hopen⟩ := h.inside old holdMem hold
      obtain ⟨w, hw, rfl⟩ := Roster.get?_of_view? hv
      have hparent : ∀ p, (s.roster.get? old).bind Series.parent = some p → p ∈ s.stack := by
        intro p hp
        rw [hw] at hp
        exact hopen.parent p hp
      refine ⟨_, (hsh.view _).trans (Roster.view?_create_self ..),
        h.open_new hparent (fun p hp => hstack p (hparent p hp) ?_) hsame⟩
      rw [hw] at hp
      exact Nat.ne_of_lt (hs.older old _ p hv hp)
    · have hmem : id ∈ s.stack := hi.stack ▸ List.mem_cons_of_mem _ hid
      have hne : id ≠ old := Nat.ne_of_lt (hi.older id hid)
      obtain ⟨v, hv, hopen⟩ := h.inside id hmem hhas
      refine ⟨v, (hswaps.view id (hs.has id hmem) hne).trans hv,
        hopen.mono (fun p hp => hstack p (hopen.parent p hp) ?_) hgrows v.count⟩
      exact Nat.ne_of_lt (Nat.lt_trans (hs.older id v p hv hp) (hi.older id hid))

/-! ## Lists of one key -/

/-- Lists of one key have the same text in their content. -/
theorem Settled.inlined_eq {s₀' : Scope} {c : Template.Context} {keys : List SeriesKey}
    (h : Settled s₀ s) (hr : s.roster.Placed c keys) (h' : Settled s₀' s')
    (hr' : s'.roster.Placed c keys) {id id' : SeriesId}
    {v v' : Series} (hv : s.roster.view? id = some v) (hv' : s'.roster.view? id' = some v')
    (hkey : v.key = v'.key) (hmem : id ∈ s.stack) (hmem' : id' ∈ s'.stack)
    (hhas : ¬s₀.roster.Has id) (hhas' : ¬s₀'.roster.Has id') :
    s.roster.inlined id = s'.roster.inlined id' := by
  induction id using Nat.strongRecOn generalizing id' v v' with
  | ind id ih =>
    obtain ⟨w, hw, hopen⟩ := h.inside id hmem hhas
    rw [hv] at hw
    cases hw
    obtain ⟨w, hw, hopen'⟩ := h'.inside id' hmem' hhas'
    rw [hv'] at hw
    cases hw
    have htemplate := hr.template_eq hr' hv hv' hkey
    have hseg : v'.segment = v.segment := by rw [Series.segment, ← htemplate, Series.segment]
    cases hs : v.segment.style with
    | none =>
      rw [Roster.inlined_literal hv hs, Roster.inlined_literal hv' (hseg ▸ hs)]
    | some style =>
      have hs' : v'.segment.style = some style := hseg ▸ hs
      obtain ⟨-, ⟨hp, hp'⟩ | ⟨p, p', w, w', hp, hp', hw, hw', hparents⟩⟩ :=
        hr.parents hr' hv hv' hkey hopen.styled
      · rw [(Roster.contentCore_root hv hs hopen.styled hp).2,
          (Roster.contentCore_root hv' hs' hopen'.styled hp').2]
      · rw [(Roster.contentCore_below hv hs hopen.styled hp (hr.older id v p hv hp)).2,
          (Roster.contentCore_below hv' hs' hopen'.styled hp' (hr'.older id' v' p' hv' hp')).2]
        have hpmem := hopen.parent p hp
        have hpmem' := hopen'.parent p' hp'
        have hside := h.has_iff hpmem hw
        have hside' := h'.has_iff hpmem' hw'
        rcases hparents with ⟨hws, hws'⟩ | ⟨hws, hws', hwkey⟩
        · have hph := hside.2 hws
          have hph' := hside'.2 hws'
          obtain ⟨place, hlabel⟩ := hopen.label p hp hph
          obtain ⟨place', hlabel'⟩ := hopen'.label p' hp' hph'
          have heq := hr.keys _ _ hlabel
          rw [hkey, hr'.keys _ _ hlabel'] at heq
          rw [Roster.inlined_unstyled hw hws, Roster.inlined_unstyled hw' hws',
            h.bareText_eq hph, h'.bareText_eq hph']
          simp only [Option.some.injEq, SeriesKey.mk.injEq, ParentIdentity.text.injEq] at heq
          exact heq.2.1.symm
        · refine ih p (hr.older id v p hv hp) hw hw' hwkey hpmem hpmem' (fun hph => ?_) fun hph => ?_
          · rw [hside.1 hph] at hws
            cases hws
          · rw [hside'.1 hph] at hws'
            cases hws'

end Scope
end Rubric
