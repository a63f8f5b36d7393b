import Rubric.Series

/-!
# A roster seen from outside

What the rest of a run sees of a roster are the series without their links, and the links.

* `Series.unlinked` : a series without the links to those below it;
* `Roster.view? r id` : the series of a handle, its links left aside;
* `view?_*`, `children_*`, `size_*`, `keys_*` : each change of a roster through these;
* `bareText_congr` : a label depends on the views of its series and their parents alone.
-/

namespace Rubric

/-- A series without the links to those below it. -/
def Series.unlinked (s : Series) : Series := { s with children := [] }

namespace Roster

/-- The series of a handle, its links left aside. -/
def view? (r : Roster) (id : SeriesId) : Option Series := (r.get? id).map Series.unlinked

/-- A handle that has been given out. -/
def Has (r : Roster) (id : SeriesId) : Prop := id < r.series.size

theorem get?_eq_none_iff (r : Roster) (id : SeriesId) : r.get? id = none ↔ ¬r.Has id := by
  simp [get?, Has]

theorem has_of_get? {r : Roster} {id : SeriesId} {s : Series} (h : r.get? id = some s) :
    r.Has id := (Array.getElem?_eq_some_iff.1 h).1

theorem has_of_view? {r : Roster} {id : SeriesId} {s : Series} (h : r.view? id = some s) :
    r.Has id := by
  obtain ⟨t, ht, -⟩ := Option.map_eq_some_iff.1 h
  exact has_of_get? ht

theorem exists_view? {r : Roster} {id : SeriesId} (h : r.Has id) : ∃ s, r.view? id = some s := by
  cases hs : r.get? id with
  | none => exact absurd h ((get?_eq_none_iff r id).1 hs)
  | some s => exact ⟨s.unlinked, by simp [view?, hs]⟩

theorem view?_of_get? {r : Roster} {id : SeriesId} {s : Series} (h : r.get? id = some s) :
    r.view? id = some s.unlinked := by
  simp [view?, h]

theorem get?_of_view? {r : Roster} {id : SeriesId} {s : Series} (h : r.view? id = some s) :
    ∃ t, r.get? id = some t ∧ t.unlinked = s := Option.map_eq_some_iff.1 h

/-! ## The changes -/

theorem get?_modify (r : Roster) (id j : SeriesId) (f : Series → Series) :
    get? { r with series := r.series.modify id f } j =
      if id = j then (r.get? j).map f else r.get? j := by
  simp only [get?]
  rw [← Array.getElem?_toList, Array.toList_modify, List.getElem?_modify, Array.getElem?_toList]
  by_cases h : id = j <;> simp [h]

theorem view?_increment (r : Roster) (id j : SeriesId) :
    (r.increment id).view? j =
      (r.view? j).map fun s => if id = j then { s with count := s.count + 1 } else s := by
  rw [view?, increment, get?_modify, view?]
  by_cases h : id = j
  · cases r.get? j <;> simp [h, Series.unlinked]
  · cases r.get? j <;> simp [h]

theorem view?_increment_of_ne {r : Roster} {id j : SeriesId} (h : j ≠ id) :
    (r.increment id).view? j = r.view? j := by
  rw [view?_increment]
  cases r.view? j <;> simp [Ne.symm h]

@[simp] theorem children_increment (r : Roster) (id j : SeriesId) :
    (r.increment id).children j = r.children j := by
  rw [children, increment, get?_modify, children]
  split
  · cases r.get? j <;> rfl
  · rfl

@[simp] theorem view?_clearChildren (r : Roster) (id j : SeriesId) :
    (r.clearChildren id).view? j = r.view? j := by
  rw [view?, clearChildren, get?_modify, view?]
  split
  · cases r.get? j <;> rfl
  · rfl

theorem children_clearChildren (r : Roster) (id j : SeriesId) :
    (r.clearChildren id).children j = if id = j then [] else r.children j := by
  rw [children, clearChildren, get?_modify, children]
  split
  · cases r.get? j <;> rfl
  · rfl

@[simp] theorem view?_addChild (r : Roster) (parent id j : SeriesId) :
    (r.addChild parent id).view? j = r.view? j := by
  rw [view?, addChild, get?_modify, view?]
  split
  · cases r.get? j <;> rfl
  · rfl

theorem mem_children_addChild {r : Roster} {parent id j c : SeriesId}
    (h : c ∈ (r.addChild parent id).children j) : c ∈ r.children j ∨ j = parent ∧ c = id := by
  rw [children, addChild, get?_modify] at h
  split at h
  · rename_i hj
    rw [children]
    cases hs : r.get? j with
    | none => simp [hs] at h
    | some s =>
      simp only [hs, Option.map_some, Option.elim_some, List.mem_append, List.mem_singleton] at h
      exact h.imp_right fun hc => ⟨hj.symm, hc⟩
  · exact Or.inl h

theorem mem_children_addChild_of_mem {r : Roster} {parent id j c : SeriesId} (h : c ∈ r.children j) :
    c ∈ (r.addChild parent id).children j := by
  rw [children] at h
  rw [children, addChild, get?_modify]
  cases hs : r.get? j with
  | none =>
    rw [hs] at h
    cases h
  | some s =>
    rw [hs, Option.elim_some] at h
    split
    · simp [h]
    · exact h

theorem mem_children_addChild_self {r : Roster} {parent : SeriesId} (h : r.Has parent) (id : SeriesId) :
    id ∈ (r.addChild parent id).children parent := by
  obtain ⟨v, hv⟩ := exists_view? h
  obtain ⟨s, hs, -⟩ := get?_of_view? hv
  rw [children, addChild, get?_modify, if_pos rfl, hs]
  simp

@[simp] theorem series_number (r : Roster) (key : SeriesKey) :
    (r.number key).2.series = r.series := by
  unfold number; split <;> rfl

/-! ## A new series -/

section Create
variable (r : Roster) (kind : ElementKind) (template : Template.Instance)
  (parent : Option SeriesId) (styled : Bool)

def nextKey : SeriesKey := ⟨template.place, r.parentIdentity parent styled, styled⟩

def newSeries : Series :=
  { kind, template, parent, styled, key := (r.number (r.nextKey template parent styled)).1 }

/-- The roster with a new series that nothing links to. -/
def pushed : Roster :=
  ⟨r.series.push (r.newSeries kind template parent styled),
    (r.number (r.nextKey template parent styled)).2.keys⟩

theorem create_eq :
    r.create kind template parent styled =
      (r.series.size, parent.elim (r.pushed kind template parent styled)
        ((r.pushed kind template parent styled).addChild · r.series.size)) := by
  simp [create, pushed, newSeries, nextKey]

theorem create_id : (r.create kind template parent styled).1 = r.series.size := by
  rw [create_eq]

theorem get?_pushed (j : SeriesId) :
    (r.pushed kind template parent styled).get? j =
      if j = r.series.size then some (r.newSeries kind template parent styled) else r.get? j := by
  simp [get?, pushed, Array.getElem?_push]

theorem view?_create (j : SeriesId) :
    (r.create kind template parent styled).2.view? j =
      if j = r.series.size then some (r.newSeries kind template parent styled) else r.view? j := by
  have hpush : (r.pushed kind template parent styled).view? j =
      if j = r.series.size then some (r.newSeries kind template parent styled) else r.view? j := by
    rw [view?, get?_pushed, view?]
    split
    · simp [Series.unlinked, newSeries]
    · rfl
  rw [create_eq]
  cases parent with
  | none => exact hpush
  | some p => exact (view?_addChild _ _ _ _).trans hpush

theorem size_create : (r.create kind template parent styled).2.series.size = r.series.size + 1 := by
  cases parent <;> simp [create, addChild]

theorem keys_create :
    (r.create kind template parent styled).2.keys =
      (r.number (r.nextKey template parent styled)).2.keys := by
  cases parent <;> rfl

theorem view?_create_self :
    (r.create kind template parent styled).2.view? r.series.size =
      some (r.newSeries kind template parent styled) := by
  rw [view?_create, if_pos rfl]

theorem children_pushed (j : SeriesId) :
    (r.pushed kind template parent styled).children j = r.children j := by
  rw [children, get?_pushed, children]
  split
  · rename_i hj
    have hnone : r.get? j = none := (get?_eq_none_iff r j).2 (hj ▸ Nat.lt_irrefl _)
    rw [hnone]
    rfl
  · rfl

theorem mem_children_create {j c : SeriesId}
    (h : c ∈ (r.create kind template parent styled).2.children j) :
    c ∈ r.children j ∨ parent = some j ∧ c = r.series.size := by
  rw [create_eq] at h
  cases parent with
  | none => exact Or.inl (r.children_pushed kind template none styled j ▸ h)
  | some p =>
    rcases mem_children_addChild h with h | ⟨rfl, rfl⟩
    · exact Or.inl (r.children_pushed kind template (some p) styled j ▸ h)
    · exact Or.inr ⟨rfl, rfl⟩

theorem mem_children_create_of_mem {j c : SeriesId} (h : c ∈ r.children j) :
    c ∈ (r.create kind template parent styled).2.children j := by
  rw [create_eq]
  cases parent with
  | none => rwa [Option.elim_none, children_pushed]
  | some p => exact mem_children_addChild_of_mem (by rwa [children_pushed])

theorem mem_children_create_self {p : SeriesId} (h : r.Has p) :
    r.series.size ∈ (r.create kind template (some p) styled).2.children p := by
  rw [create_eq]
  refine mem_children_addChild_self ?_ _
  have hsize : (r.pushed kind template (some p) styled).series.size = r.series.size + 1 := by simp [pushed]
  rw [Has, hsize]
  exact Nat.lt_succ_of_lt h

end Create

theorem view?_create_of_has {r : Roster} {j : SeriesId} (h : r.Has j) (kind : ElementKind)
    (template : Template.Instance) (parent : Option SeriesId) (styled : Bool) :
    (r.create kind template parent styled).2.view? j = r.view? j := by
  rw [view?_create, if_neg (Nat.ne_of_lt h)]

@[simp] theorem size_increment (r : Roster) (id : SeriesId) :
    (r.increment id).series.size = r.series.size := by
  simp [increment]

@[simp] theorem size_clearChildren (r : Roster) (id : SeriesId) :
    (r.clearChildren id).series.size = r.series.size := by
  simp [clearChildren]

@[simp] theorem keys_increment (r : Roster) (id : SeriesId) : (r.increment id).keys = r.keys := rfl

@[simp] theorem keys_clearChildren (r : Roster) (id : SeriesId) :
    (r.clearChildren id).keys = r.keys := rfl

/-! ## What labels depend on -/

theorem bareText_eq (r : Roster) (id : SeriesId) :
    r.bareText id =
      match r.view? id with
      | none => ""
      | some s =>
        match s.segment.style with
        | none => ""
        | some style =>
          match s.parent with
          | none => style.format s.count
          | some p =>
            if p < id then
              if (r.bareText p).isEmpty then style.format s.count
              else r.bareText p ++ s.segment.separator ++ style.format s.count
            else style.format s.count := by
  rw [bareText, view?]
  cases r.get? id with
  | none => rfl
  | some s => rfl

theorem contentCore_eq (r : Roster) (id : SeriesId) :
    r.contentCore id =
      match r.view? id with
      | none => []
      | some s =>
        match s.segment.style with
        | none => []
        | some style =>
          if !s.styled then Content.ofText (r.bareText id)
          else
            match s.parent with
            | none => [.counter s.key style.name]
            | some p =>
              if p < id then
                if (r.contentCore p).isEmpty then [.counter s.key style.name]
                else r.contentCore p ++ Content.ofText s.segment.separator ++
                  [.counter s.key style.name]
              else [.counter s.key style.name] := by
  rw [contentCore, view?]
  cases r.get? id with
  | none => rfl
  | some s => rfl

/-- The label of a series is the same in two rosters that agree on a set of series which holds it and
the parents of its members. -/
theorem bareText_congr {r r' : Roster} (P : SeriesId → Prop)
    (hview : ∀ j, P j → r'.view? j = r.view? j)
    (hparent : ∀ j s p, P j → r.view? j = some s → s.parent = some p → p < j → P p)
    (id : SeriesId) (hid : P id) : r'.bareText id = r.bareText id := by
  induction id using Nat.strongRecOn with
  | ind id ih =>
    rw [bareText_eq, bareText_eq, hview id hid]
    cases hs : r.view? id with
    | none => rfl
    | some s =>
      dsimp only
      cases s.segment.style with
      | none => rfl
      | some style =>
        dsimp only
        cases hp : s.parent with
        | none => rfl
        | some p =>
          dsimp only
          by_cases hlt : p < id
          · rw [if_pos hlt, if_pos hlt, ih p hlt (hparent id s p hid hs hp hlt)]
          · rw [if_neg hlt, if_neg hlt]

theorem text_eq (r : Roster) (id : SeriesId) :
    r.text id = (r.view? id).elim "" fun s => s.segment.before ++ r.bareText id ++ s.segment.after := by
  rw [text, view?]
  cases r.get? id <;> rfl

theorem content_eq (r : Roster) (id : SeriesId) :
    r.content id = (r.view? id).elim [] fun s =>
      Content.ofText s.segment.before ++ r.contentCore id ++ Content.ofText s.segment.after := by
  rw [content, view?]
  cases r.get? id <;> rfl

end Roster
end Rubric
