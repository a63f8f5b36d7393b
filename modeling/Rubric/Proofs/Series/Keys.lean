import Rubric.Proofs.Labelling.Steps

/-!
# The keys of series

* `Roster.Identifies r v i` : what the parent of the series `v` has added to its key;
* `Roster.Keyed r v` : the key of `v` says where its template stands, and what its parent is;
* `State.Coherent d s` : the templates of all series and settings are what their places say, and all
  series are keyed. `Step.coherent` : every step keeps a state coherent;
* `Keyed.eq_of_key` : series with equal keys have templates of one place, and parents with equal keys
  or of one text.
-/

namespace Rubric

namespace Roster

/-- What the parent of a series has added to its key. -/
def Identifies (r : Roster) (v : Series) (identity : ParentIdentity) : Prop :=
  match v.parent with
  | none => identity = .none
  | some p => ∃ w, r.view? p = some w ∧
      if v.styled && !w.styled then ∃ label, identity = .text label else identity = .shared w.key

/-- The key of a series says where its template stands and what its parent is. -/
def Keyed (r : Roster) (v : Series) : Prop :=
  ∃ identity, r.keys[v.key]? = some ⟨v.template.place, identity, v.styled⟩ ∧
    r.Identifies v identity

/-- A key that shares a parent comes behind the key of that parent. -/
def Ordered (r : Roster) : Prop :=
  ∀ (n k : Nat) (place : Nat × Nat) (styled : Bool), r.keys[n]? = some ⟨place, .shared k, styled⟩ → k < n

theorem Grows.key {r r' : Roster} (h : r.Grows r') {n : Nat} {key : SeriesKey}
    (hn : r.keys[n]? = some key) : r'.keys[n]? = some key := by
  obtain ⟨more, hm⟩ := h.keys
  rw [hm, List.getElem?_append_left (List.getElem?_eq_some_iff.1 hn).1, hn]

theorem Identifies.mono {r r' : Roster} {v : Series} {identity : ParentIdentity}
    (h : r.Identifies v identity) (hr : r.Grows r') (n : Nat) :
    r'.Identifies { v with count := n } identity := by
  unfold Identifies at h ⊢
  cases hp : v.parent with
  | none =>
    rw [hp] at h
    exact h
  | some p =>
    rw [hp] at h
    obtain ⟨w, hw, hid⟩ := h
    obtain ⟨m, hm⟩ := hr.view p w hw
    exact ⟨_, hm, hid⟩

theorem Keyed.mono {r r' : Roster} {v : Series} (h : r.Keyed v) (hr : r.Grows r') (n : Nat) :
    r'.Keyed { v with count := n } := by
  obtain ⟨identity, hkey, hid⟩ := h
  exact ⟨identity, hr.key hkey, hid.mono hr n⟩

theorem keys_number_self (r : Roster) (key : SeriesKey) :
    (r.number key).2.keys[(r.number key).1]? = some key := by
  unfold number
  split
  · rename_i n hn
    obtain ⟨hlt, heq, -⟩ := List.idxOf?_eq_some_iff.1 hn
    rw [List.getElem?_eq_getElem hlt]
    simpa using heq
  · simp

theorem keyed_newSeries (r : Roster) (kind : ElementKind) (template : Template.Instance)
    (parent : Option SeriesId) (styled : Bool) (hparent : ∀ p, parent = some p → r.Has p) :
    (r.create kind template parent styled).2.Keyed (r.newSeries kind template parent styled) := by
  refine ⟨r.parentIdentity parent styled, ?_, ?_⟩
  · rw [keys_create]
    exact keys_number_self ..
  · unfold Identifies
    cases parent with
    | none => rfl
    | some p =>
      obtain ⟨w, hw⟩ := exists_view? (hparent p rfl)
      refine ⟨w, (view?_create_of_has (hparent p rfl) ..).trans hw, ?_⟩
      obtain ⟨t, ht, rfl⟩ := get?_of_view? hw
      show if styled && !t.styled then _ else _
      rw [parentIdentity, ht]
      by_cases h : (styled && !t.styled) = true
      · rw [if_pos h]
        exact ⟨_, if_pos h⟩
      · rw [if_neg h]
        exact if_neg h

theorem Keyed.lt_length {r : Roster} {v : Series} (h : r.Keyed v) : v.key < r.keys.length := by
  obtain ⟨identity, hkey, -⟩ := h
  exact (List.getElem?_eq_some_iff.1 hkey).1

theorem Ordered.number {r : Roster} (h : r.Ordered) {key : SeriesKey}
    (hshared : ∀ k, key.parent = .shared k → k < r.keys.length) : (r.number key).2.Ordered := by
  unfold Roster.number
  split
  · exact h
  · intro n k place styled hn
    dsimp only at hn
    rcases Nat.lt_trichotomy n r.keys.length with hlt | heq | hgt
    · rw [List.getElem?_append_left hlt] at hn
      exact h n k place styled hn
    · subst heq
      rw [List.getElem?_concat_length] at hn
      cases hn
      exact hshared k rfl
    · rw [List.getElem?_eq_none (by simp; omega)] at hn
      cases hn

/-- What is in keys of equal series: the place of the template, and the identity of the parent. -/
theorem Keyed.eq_of_key {r r' : Roster} {v v' : Series} (h : r.Keyed v) (h' : r'.Keyed v')
    {keys : List SeriesKey}
    (hk : ∀ (n : Nat) key, r.keys[n]? = some key → keys[n]? = some key)
    (hk' : ∀ (n : Nat) key, r'.keys[n]? = some key → keys[n]? = some key) (heq : v.key = v'.key) :
    v.template.place = v'.template.place ∧ v.styled = v'.styled ∧
      ∃ identity, r.Identifies v identity ∧ r'.Identifies v' identity := by
  obtain ⟨identity, hkey, hid⟩ := h
  obtain ⟨identity', hkey', hid'⟩ := h'
  have h1 := hk _ _ hkey
  have h2 := hk' _ _ hkey'
  rw [heq, h2] at h1
  obtain ⟨hplace, hidentity, hstyled⟩ := SeriesKey.mk.inj (Option.some.inj h1)
  exact ⟨hplace.symm, hstyled.symm, identity, hid, hidentity ▸ hid'⟩

section Create
variable {r : Roster} (h : ∀ id v, r.view? id = some v → r.Keyed v)
include h

theorem keyed_create (kind : ElementKind) (template : Template.Instance) (parent : Option SeriesId)
    (styled : Bool) (hparent : ∀ p, parent = some p → r.Has p) :
    ∀ id v, (r.create kind template parent styled).2.view? id = some v →
      (r.create kind template parent styled).2.Keyed v := by
  intro id v hv
  rw [view?_create] at hv
  split at hv
  · cases hv
    exact r.keyed_newSeries kind template parent styled hparent
  · exact (h id v hv).mono (r.grows_create kind template parent styled) v.count

theorem Ordered.create (ho : r.Ordered) (kind : ElementKind) (template : Template.Instance)
    (parent : Option SeriesId) (styled : Bool) : (r.create kind template parent styled).2.Ordered := by
  have hordered : (r.number (r.nextKey template parent styled)).2.Ordered := by
    refine ho.number fun k hkey => ?_
    have hkey : r.parentIdentity parent styled = .shared k := hkey
    cases parent with
    | none => cases hkey
    | some p =>
      rw [parentIdentity] at hkey
      split at hkey
      · cases hkey
      · rename_i t ht
        split at hkey
        · cases hkey
        · cases hkey
          exact (h p _ (view?_of_get? ht)).lt_length
  intro n k place styled hn
  rw [keys_create] at hn
  exact hordered n k place styled hn

end Create

end Roster

namespace State
variable {d : Defaults} {s s' : State}

/-- Templates are what their places say, and series have the keys that they should have. -/
structure Coherent (d : Defaults) (s : State) : Prop where
  sound : s.scope.Sound
  heading : ∀ i, d.heading = some i → s.context.Holds i
  list : ∀ kind i, d.list kind = some i → s.context.Holds i
  held : ∀ id v, s.scope.roster.view? id = some v → s.context.Holds v.template
  keyed : ∀ id v, s.scope.roster.view? id = some v → s.scope.roster.Keyed v
  ordered : s.scope.roster.Ordered

theorem Coherent.offers (h : s.Coherent d) {i : Template.Instance} (hi : s.Offers d i) :
    s.context.Holds i := by
  cases hi with
  | directive h => exact h
  | child hv hchild => exact (h.held _ _ hv).child hchild
  | heading hd => exact h.heading i hd
  | list hd => exact h.list _ i hd

theorem Coherent.of_view (h : s.Coherent d) (hs : s'.scope.Sound)
    (hc : s.context.Extends s'.context) (hg : s.scope.roster.Grows s'.scope.roster)
    (hk : s'.scope.roster.keys = s.scope.roster.keys)
    (hview : ∀ id v, s'.scope.roster.view? id = some v →
      ∃ w, s.scope.roster.view? id = some w ∧ v = { w with count := v.count }) :
    s'.Coherent d where
  sound := hs
  heading i hi := (h.heading i hi).mono hc
  list kind i hi := (h.list kind i hi).mono hc
  held id v hv := by
    obtain ⟨w, hw, heq⟩ := hview id v hv
    rw [heq]
    exact (h.held id w hw).mono hc
  keyed id v hv := by
    obtain ⟨w, hw, heq⟩ := hview id v hv
    rw [heq]
    exact (h.keyed id w hw).mono hg v.count
  ordered n k place styled hn := h.ordered n k place styled (hk ▸ hn)

theorem Coherent.create (h : s.Coherent d) {kind : ElementKind} {template : Template.Instance}
    {parent : Option SeriesId} {styled : Bool} {scope : Scope} (hoffers : s.Offers d template)
    (hparent : ∀ p, parent = some p → s.scope.roster.Has p) (hs : scope.Sound)
    (hview : ∀ id, scope.roster.view? id =
      (s.scope.roster.create kind template parent styled).2.view? id)
    (hk : scope.roster.keys = (s.scope.roster.create kind template parent styled).2.keys) :
    Coherent d { s with scope } := by
  have hsame : (s.scope.roster.create kind template parent styled).2.Grows scope.roster :=
    .of_view_eq hview hk
  refine ⟨hs, h.heading, h.list, fun id v hv => ?_, fun id v hv => ?_, fun n k place styled hn => ?_⟩
  · rw [hview, Roster.view?_create] at hv
    split at hv
    · cases hv
      exact h.offers hoffers
    · exact h.held id v hv
  · rw [hview] at hv
    exact (Roster.keyed_create h.keyed kind template parent styled hparent id v hv).mono hsame v.count
  · rw [hk] at hn
    exact Roster.Ordered.create h.keyed h.ordered kind template parent _ n k place styled hn

/-- Every step keeps a state coherent. -/
theorem Step.coherent (h : Step d s s') (hs : s.Coherent d) : s'.Coherent d := by
  have hsound := h.sound hs.sound
  have hgrows := h.grows
  have hextends := h.extends
  have hcount : ∀ v : Series, v = { v with count := v.count } := fun _ => rfl
  cases h with
  | keep hscope _ =>
    refine hs.of_view hsound hextends hgrows (by rw [hscope]) fun id v hv => ?_
    exact ⟨v, hscope ▸ hv, rfl⟩
  | read => exact hs.of_view hsound hextends hgrows rfl fun id v hv => ⟨v, hv, rfl⟩
  | shrink h =>
    exact hs.of_view hsound hextends hgrows h.keys fun id v hv => ⟨v, (h.view id).symm.trans hv, rfl⟩
  | increment id =>
    refine hs.of_view hsound hextends hgrows rfl fun j v hv => ?_
    rw [scope_increment, Scope.increment, Roster.view?_increment] at hv
    obtain ⟨w, hw, rfl⟩ := Option.map_eq_some_iff.1 hv
    refine ⟨w, hw, ?_⟩
    split <;> rfl
  | start h =>
    rw [start_eq] at hsound ⊢
    exact hs.create h (fun p hp => hs.sound.has p (Scope.mem_of_selected hp)) hsound (fun _ => rfl) rfl
  | @replace old kind template styled h =>
    rw [replace_eq] at hsound ⊢
    obtain ⟨gone, hsh, -⟩ := Scope.shrinks_replace (s.scope.create kind template
      ((s.scope.roster.get? old).bind Series.parent) styled).2 old s.scope.roster.series.size
    exact hs.create h (fun p hp => hs.sound.has_parent _ hp) hsound hsh.view hsh.keys

theorem Steps.coherent (h : Steps d s s') (hs : s.Coherent d) : s'.Coherent d :=
  h.preserves (P := Coherent d) (fun _ _ step => step.coherent) hs

end State
end Rubric
