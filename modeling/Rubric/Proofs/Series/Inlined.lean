import Rubric.Proofs.Css.Content
import Rubric.Proofs.Series.Keys

/-!
# What goes into content as text

* `Roster.inlined r id` : the text in the content of a series that stands for the series above which no
  stylesheet draws;
* `Roster.Placed c keys r` : the templates of all series are what their places say, and their keys are
  numbered as in `keys`;
* `Placed.core_shape` : series of one key, in two rosters, have the same content but for that text;
* `Placed.content_iff` : they have the same content if they have the same text.
-/

namespace Rubric.Roster

/-- The text in the content of a series that stands for the first series above it which no stylesheet
draws. -/
def inlined (r : Roster) (id : SeriesId) : String :=
  match r.get? id with
  | none => ""
  | some s =>
    match s.segment.style with
    | none => ""
    | some _ =>
      if !s.styled then r.bareText id
      else
        match s.parent with
        | none => ""
        | some p => if _ : p < id then r.inlined p else ""
termination_by id

theorem inlined_eq (r : Roster) (id : SeriesId) :
    r.inlined id =
      match r.view? id with
      | none => ""
      | some s =>
        match s.segment.style with
        | none => ""
        | some _ =>
          if !s.styled then r.bareText id
          else
            match s.parent with
            | none => ""
            | some p => if p < id then r.inlined p else "" := by
  rw [inlined, view?]
  cases r.get? id with
  | none => rfl
  | some s => rfl

section Literal
variable {r : Roster} {id : SeriesId} {v : Series}

theorem contentCore_literal (hv : r.view? id = some v) (hs : v.segment.style = none) :
    r.contentCore id = [] := by
  rw [contentCore_eq, hv]
  simp [hs]

theorem bareText_literal (hv : r.view? id = some v) (hs : v.segment.style = none) : r.bareText id = "" := by
  rw [bareText_eq, hv]
  simp [hs]

theorem inlined_literal (hv : r.view? id = some v) (hs : v.segment.style = none) :
    r.inlined id = "" := by
  rw [inlined_eq, hv]
  simp [hs]

theorem inlined_unstyled (hv : r.view? id = some v) (hstyled : v.styled = false) :
    r.inlined id = r.bareText id := by
  cases hs : v.segment.style with
  | none =>
    rw [inlined_literal hv hs, bareText_literal hv hs]
  | some style =>
    rw [inlined_eq, hv]
    simp [hs, hstyled]

theorem contentCore_unstyled (hv : r.view? id = some v) (hstyled : v.styled = false) :
    r.contentCore id = Content.ofText (r.inlined id) := by
  cases hs : v.segment.style with
  | none =>
    rw [contentCore_literal hv hs, inlined_literal hv hs]
    rfl
  | some style =>
    rw [contentCore_eq, inlined_eq, hv]
    simp [hs, hstyled]

theorem contentCore_root {style : CounterStyle} (hv : r.view? id = some v)
    (hs : v.segment.style = some style) (hstyled : v.styled = true) (hp : v.parent = none) :
    r.contentCore id = [.counter v.key style.name] ∧ r.inlined id = "" := by
  rw [contentCore_eq, inlined_eq, hv]
  simp [hs, hstyled, hp]

theorem contentCore_below {style : CounterStyle} {p : SeriesId} (hv : r.view? id = some v)
    (hs : v.segment.style = some style) (hstyled : v.styled = true) (hp : v.parent = some p)
    (hlt : p < id) :
    r.contentCore id =
        (if (r.contentCore p).isEmpty then [.counter v.key style.name]
          else r.contentCore p ++ Content.ofText v.segment.separator ++
            [.counter v.key style.name]) ∧
      r.inlined id = r.inlined p := by
  rw [contentCore_eq, inlined_eq, hv]
  simp [hs, hstyled, hp, hlt]

end Literal

theorem lead_append (label separator : String) (x : Content) :
    (if (Content.ofText label).isEmpty then x
      else Content.ofText label ++ Content.ofText separator ++ x) =
      Content.lead label separator ++ x := by
  by_cases h : label = ""
  · simp [Content.ofText, Content.lead, h]
  · simp [Content.ofText, Content.lead, h]

/-- All series have the templates of their places, and the keys that are in a common list. -/
structure Placed (c : Template.Context) (keys : List SeriesKey) (r : Roster) : Prop where
  held : ∀ id v, r.view? id = some v → c.Holds v.template
  keyed : ∀ id v, r.view? id = some v → r.Keyed v
  older : ∀ id v p, r.view? id = some v → v.parent = some p → p < id
  keys : ∀ (n : Nat) key, r.keys[n]? = some key → keys[n]? = some key

section Placed
variable {c : Template.Context} {keys : List SeriesKey} {r r' : Roster} {id id' : SeriesId}
  {v v' : Series}

theorem Placed.template_eq (h : Placed c keys r) (h' : Placed c keys r') (hv : r.view? id = some v)
    (hv' : r'.view? id' = some v') (hkey : v.key = v'.key) : v.template = v'.template := by
  obtain ⟨hplace, -⟩ := (h.keyed id v hv).eq_of_key (h'.keyed id' v' hv') h.keys h'.keys hkey
  exact (h.held id v hv).eq_of_place (h'.held id' v' hv') hplace

/-- Series of one key stand both alone, or both below a series that goes in as text, or below series of
one key again. -/
theorem Placed.parents (h : Placed c keys r) (h' : Placed c keys r') (hv : r.view? id = some v)
    (hv' : r'.view? id' = some v') (hkey : v.key = v'.key) (hstyled : v.styled = true) :
    v'.styled = true ∧ (v.parent = none ∧ v'.parent = none ∨
      ∃ p p' w w', v.parent = some p ∧ v'.parent = some p' ∧ r.view? p = some w ∧
        r'.view? p' = some w' ∧ (w.styled = false ∧ w'.styled = false ∨
          w.styled = true ∧ w'.styled = true ∧ w.key = w'.key)) := by
  obtain ⟨-, hst, identity, hid, hid'⟩ :=
    (h.keyed id v hv).eq_of_key (h'.keyed id' v' hv') h.keys h'.keys hkey
  have hstyled' : v'.styled = true := hst ▸ hstyled
  refine ⟨hstyled', ?_⟩
  unfold Identifies at hid hid'
  rw [hstyled] at hid
  rw [hstyled'] at hid'
  cases hp : v.parent with
  | none =>
    rw [hp] at hid
    cases hp' : v'.parent with
    | none => exact Or.inl ⟨rfl, rfl⟩
    | some p' =>
      rw [hp'] at hid'
      obtain ⟨w', -, hw'⟩ := hid'
      rw [hid] at hw'
      split at hw'
      · obtain ⟨label, hlabel⟩ := hw'
        cases hlabel
      · cases hw'
  | some p =>
    rw [hp] at hid
    obtain ⟨w, hw, hwid⟩ := hid
    cases hp' : v'.parent with
    | none =>
      rw [hp'] at hid'
      rw [hid'] at hwid
      split at hwid
      · obtain ⟨label, hlabel⟩ := hwid
        cases hlabel
      · cases hwid
    | some p' =>
      rw [hp'] at hid'
      obtain ⟨w', hw', hwid'⟩ := hid'
      refine Or.inr ⟨p, p', w, w', rfl, rfl, hw, hw', ?_⟩
      cases hws : w.styled <;> cases hws' : w'.styled <;>
        simp only [hws, hws', Bool.not_false, Bool.not_true, Bool.and_true, Bool.and_false, if_true,
          Bool.false_eq_true, if_false] at hwid hwid'
      · exact Or.inl ⟨rfl, rfl⟩
      · obtain ⟨label, rfl⟩ := hwid
        cases hwid'
      · obtain ⟨label, rfl⟩ := hwid'
        cases hwid
      · exact Or.inr ⟨rfl, rfl, ParentIdentity.shared.inj (hwid.symm.trans hwid')⟩

/-- What stands in front of the number of a series, and the rest: series of one key differ in the first
alone. -/
theorem Placed.core_shape (h : Placed c keys r) (h' : Placed c keys r') (hv : r.view? id = some v)
    (hv' : r'.view? id' = some v') (hkey : v.key = v'.key) (hstyled : v.styled = true)
    (hs : v.segment.style ≠ none) :
    ∃ separator rest, rest ≠ [] ∧
      r.contentCore id = Content.lead (r.inlined id) separator ++ rest ∧
      r'.contentCore id' = Content.lead (r'.inlined id') separator ++ rest := by
  induction id using Nat.strongRecOn generalizing id' v v' with
  | ind id ih =>
    have htemplate := h.template_eq h' hv hv' hkey
    obtain ⟨style, hstyle⟩ := Option.ne_none_iff_exists'.1 hs
    have hseg : v'.segment = v.segment := by rw [Series.segment, ← htemplate, Series.segment]
    have hstyle' : v'.segment.style = some style := hseg ▸ hstyle
    obtain ⟨hstyled', ⟨hp, hp'⟩ | ⟨p, p', w, w', hp, hp', hw, hw', hparents⟩⟩ :=
      h.parents h' hv hv' hkey hstyled
    · obtain ⟨hcore, hinl⟩ := contentCore_root hv hstyle hstyled hp
      obtain ⟨hcore', hinl'⟩ := contentCore_root hv' hstyle' hstyled' hp'
      refine ⟨"", [.counter v.key style.name], by simp, ?_, ?_⟩
      · rw [hcore, hinl]
        rfl
      · rw [hcore', hinl', hkey]
        rfl
    · obtain ⟨hcore, hinl⟩ := contentCore_below hv hstyle hstyled hp (h.older id v p hv hp)
      obtain ⟨hcore', hinl'⟩ := contentCore_below hv' hstyle' hstyled' hp'
        (h'.older id' v' p' hv' hp')
      rw [hcore, hcore', hinl, hinl', ← hkey, hseg]
      rcases hparents with ⟨hws, hws'⟩ | ⟨hws, hws', hwkey⟩
      · -- both below a series that goes in as text
        rw [contentCore_unstyled hw hws, contentCore_unstyled hw' hws', lead_append, lead_append]
        exact ⟨v.segment.separator, _, by simp, rfl, rfl⟩
      · -- both below a series that is drawn, by one key again
        by_cases hliteral : w.segment.style = none
        · have hliteral' : w'.segment.style = none := by
            rwa [Series.segment, ← h.template_eq h' hw hw' hwkey]
          rw [contentCore_literal hw hliteral, contentCore_literal hw' hliteral',
            inlined_literal hw hliteral, inlined_literal hw' hliteral']
          exact ⟨"", [.counter v.key style.name], by simp, rfl, rfl⟩
        · obtain ⟨separator, rest, hne, hshape, hshape'⟩ :=
            ih p (h.older id v p hv hp) hw hw' hwkey hws hliteral
          rw [hshape, hshape', List.isEmpty_eq_false_iff.2 (by simp [hne]),
            List.isEmpty_eq_false_iff.2 (by simp [hne])]
          refine ⟨separator, rest ++ Content.ofText v.segment.separator ++
            [.counter v.key style.name], by simp, ?_, ?_⟩ <;>
            simp

/-- Series of one key have the same content, and the same text of it, if the same text goes in. -/
theorem Placed.content_iff (h : Placed c keys r) (h' : Placed c keys r') (hv : r.view? id = some v)
    (hv' : r'.view? id' = some v') (hkey : v.key = v'.key) (hstyled : v.styled = true) :
    ((r.content id).toText = (r'.content id').toText ↔ r.inlined id = r'.inlined id') ∧
      (r.inlined id = r'.inlined id' → r.content id = r'.content id') := by
  have htemplate := h.template_eq h' hv hv' hkey
  have hseg : v'.segment = v.segment := by rw [Series.segment, ← htemplate, Series.segment]
  rw [content_eq, content_eq, hv, hv', Option.elim_some, Option.elim_some, hseg]
  by_cases hliteral : v.segment.style = none
  · rw [contentCore_literal hv hliteral, contentCore_literal hv' (hseg ▸ hliteral),
      inlined_literal hv hliteral, inlined_literal hv' (hseg ▸ hliteral)]
    simp
  · obtain ⟨separator, rest, hne, hshape, hshape'⟩ := h.core_shape h' hv hv' hkey hstyled hliteral
    have hsame : r.inlined id = r'.inlined id' → r.contentCore id = r'.contentCore id' := fun heq => by
      rw [hshape, hshape', heq]
    refine ⟨⟨fun htext => ?_, fun heq => by rw [hsame heq]⟩, fun heq => by rw [hsame heq]⟩
    rw [hshape, hshape'] at htext
    simp only [List.append_assoc] at htext
    exact Content.lead_injective (by simp [hne]) htext

end Placed
end Rubric.Roster
