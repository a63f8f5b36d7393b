import Rubric.Labelling.State
import Rubric.Proofs.Scope.Eviction

/-!
# What comes into scope

* `Scope.started` : a scope with a new series innermost;
* `Scope.replaced` : a scope with a new series in the place of another;
* `Roster.Grows r r'` : later rosters have the series of `r` with other counts, and its keys in front.
-/

namespace Rubric

namespace Roster

/-- The same series, perhaps with other counts, and further ones; the same keys and further ones. -/
structure Grows (r r' : Roster) : Prop where
  view : ∀ id v, r.view? id = some v → ∃ n, r'.view? id = some { v with count := n }
  keys : ∃ more, r'.keys = r.keys ++ more

theorem Grows.refl (r : Roster) : Grows r r := ⟨fun _ v h => ⟨v.count, h⟩, [], by simp⟩

theorem Grows.trans {r₁ r₂ r₃ : Roster} (h : Grows r₁ r₂) (h' : Grows r₂ r₃) : Grows r₁ r₃ := by
  refine ⟨fun id v hv => ?_, ?_⟩
  · obtain ⟨n, hn⟩ := h.view id v hv
    obtain ⟨m, hm⟩ := h'.view id _ hn
    exact ⟨m, hm⟩
  · obtain ⟨more, hk⟩ := h.keys
    obtain ⟨more', hk'⟩ := h'.keys
    exact ⟨more ++ more', by rw [hk', hk, List.append_assoc]⟩

theorem Grows.of_view_eq {r r' : Roster} (hv : ∀ id, r'.view? id = r.view? id)
    (hk : r'.keys = r.keys) : Grows r r' :=
  ⟨fun id v h => ⟨v.count, (hv id).trans h⟩, [], by simp [hk]⟩

theorem Grows.has {r r' : Roster} (h : Grows r r') {id : SeriesId} (hid : r.Has id) :
    r'.Has id := by
  obtain ⟨v, hv⟩ := exists_view? hid
  obtain ⟨n, hn⟩ := h.view id v hv
  exact has_of_view? hn

theorem grows_increment (r : Roster) (id : SeriesId) : Grows r (r.increment id) := by
  refine ⟨fun j v hv => ?_, [], by simp⟩
  rw [view?_increment, hv]
  by_cases h : id = j
  · exact ⟨v.count + 1, by simp [h]⟩
  · exact ⟨v.count, by simp [h]⟩

theorem keys_number (r : Roster) (key : SeriesKey) :
    ∃ more, (r.number key).2.keys = r.keys ++ more := by
  unfold number
  split
  · exact ⟨[], by simp⟩
  · exact ⟨[key], rfl⟩

theorem grows_create (r : Roster) (kind : ElementKind) (template : Template.Instance)
    (parent : Option SeriesId) (styled : Bool) :
    Grows r (r.create kind template parent styled).2 := by
  refine ⟨fun j v hv => ⟨v.count, ?_⟩, ?_⟩
  · exact (view?_create_of_has (has_of_view? hv) ..).trans hv
  · rw [keys_create]
    exact keys_number ..

end Roster

namespace Scope
variable {s : Scope}

theorem find?_mem {selector : Selector} {id : SeriesId} (h : s.find? selector = some id) :
    id ∈ s.stack := List.mem_of_find?_eq_some h

theorem findKind?_mem {kind : ElementKind} {id : SeriesId} (h : s.findKind? kind = some id) :
    id ∈ s.stack := List.mem_of_find?_eq_some h

theorem mem_of_selected {template : Template.Instance} {id : SeriesId}
    (h : template.template.segment.parent.bind s.find? = some id) : id ∈ s.stack := by
  obtain ⟨marker, -, hmarker⟩ := Option.bind_eq_some_iff.1 h
  exact find?_mem hmarker

/-! ## A new series innermost -/

def started (s : Scope) (kind : ElementKind) (template : Template.Instance)
    (parent : Option SeriesId) (styled : Bool) : Scope :=
  (s.create kind template parent styled).2.push s.roster.series.size

section Started
variable (s : Scope) (kind : ElementKind) (template : Template.Instance)
  (parent : Option SeriesId) (styled : Bool)

@[simp] theorem stack_started :
    (s.started kind template parent styled).stack = s.roster.series.size :: s.stack := rfl

theorem view?_started (j : SeriesId) :
    (s.started kind template parent styled).roster.view? j =
      if j = s.roster.series.size then some (s.roster.newSeries kind template parent styled)
      else s.roster.view? j :=
  Roster.view?_create ..

end Started

theorem view?_started_of_has {j : SeriesId} (h : s.roster.Has j) (kind : ElementKind)
    (template : Template.Instance) (parent : Option SeriesId) (styled : Bool) :
    (s.started kind template parent styled).roster.view? j = s.roster.view? j :=
  Roster.view?_create_of_has h ..

/-! ## A new series in the place of another -/

def replaced (s : Scope) (old : SeriesId) (kind : ElementKind) (template : Template.Instance)
    (styled : Bool) : Scope :=
  (s.create kind template ((s.roster.get? old).bind Series.parent) styled).2.replace old
    s.roster.series.size

/-- The stack with a new series in the place of another. -/
def swapped (stack : List SeriesId) (old new : SeriesId) : List SeriesId :=
  if stack.contains old then stack.map fun id => if id = old then new else id else new :: stack

theorem shrinks_replace (s : Scope) (old new : SeriesId) :
    ∃ gone, Shrinks { s with stack := swapped s.stack old new } (s.replace old new) gone ∧
      ∀ j ∈ gone, s.roster.Below (s.roster.children old) j := by
  obtain ⟨gone, hsh, -, hbelow⟩ := shrinks_endBelow { s with stack := swapped s.stack old new } old
  exact ⟨gone, hsh, hbelow⟩

theorem mem_swapped {stack : List SeriesId} {old new id : SeriesId}
    (h : id ∈ swapped stack old new) : id = new ∨ id ∈ stack := by
  unfold swapped at h
  split at h
  · obtain ⟨j, hj, rfl⟩ := List.mem_map.1 h
    split
    · exact Or.inl rfl
    · exact Or.inr hj
  · exact List.mem_cons.1 h

end Scope

namespace State

theorem start_eq (st : State) (kind : ElementKind) (template : Template.Instance) (styled : Bool) :
    st.start kind template styled =
      (st.scope.roster.series.size,
        { st with
          scope := st.scope.started kind template
            (template.template.segment.parent.bind st.scope.find?) styled }) := by
  simp [State.start, State.create, Scope.create, Scope.started, Roster.create_id]

theorem replace_eq (st : State) (old : SeriesId) (kind : ElementKind)
    (template : Template.Instance) (styled : Bool) :
    st.replace old kind template styled =
      (st.scope.roster.series.size,
        { st with scope := st.scope.replaced old kind template styled }) := by
  simp [State.replace, State.create, Scope.create, Scope.replaced, Roster.create_id]

end State
end Rubric
