import Rubric.Proofs.Series.View
import Rubric.Scope

/-!
# What goes out of scope

* `Roster.Below r ids` : the series of `ids` and all that links lead to from them;
* `Scope.Shrinks s s' gone` : `s'` is `s` without the series of `gone`. Views are unchanged, and links
  are at most forgotten;
* `Scope.Prunes s s' gone` : in addition, all that hang below these series are among them, and the links
  to other series are unchanged;
* `prunes_evict`, `prunes_endBelow`, `prunes_closeBelow` : ending series takes out what is below them and
  nothing else.
-/

namespace Rubric

namespace Roster

/-- The given series and those that links lead to from them. -/
inductive Below (r : Roster) (ids : List SeriesId) : SeriesId → Prop where
  | self {id : SeriesId} (h : id ∈ ids) : Below r ids id
  | link {id child : SeriesId} (h : Below r ids id) (hc : child ∈ r.children id) : Below r ids child

theorem Below.mono {r r' : Roster} {ids ids' : List SeriesId} {id : SeriesId}
    (h : Below r' ids' id) (hl : ∀ j c, c ∈ r'.children j → c ∈ r.children j)
    (hs : ∀ i ∈ ids', Below r ids i) : Below r ids id := by
  induction h with
  | self h => exact hs _ h
  | link _ hc ih => exact .link ih (hl _ _ hc)

/-- What holds of the given series and passes along links holds of all below. -/
theorem Below.induct {r : Roster} {ids : List SeriesId} {id : SeriesId} (h : Below r ids id)
    (P : SeriesId → Prop) (hs : ∀ i ∈ ids, P i) (hl : ∀ i c, P i → c ∈ r.children i → P c) :
    P id := by
  induction h with
  | self h => exact hs _ h
  | link _ hc ih => exact hl _ _ ih hc

end Roster

namespace Scope

/-- The same scope without some series, and perhaps without links. -/
structure Shrinks (s s' : Scope) (gone : List SeriesId) : Prop where
  stack : s'.stack = s.stack.filter fun id => !gone.contains id
  view : ∀ j, s'.roster.view? j = s.roster.view? j
  links : ∀ j c, c ∈ s'.roster.children j → c ∈ s.roster.children j
  size : s'.roster.series.size = s.roster.series.size
  keys : s'.roster.keys = s.roster.keys

theorem Shrinks.refl (s : Scope) : Shrinks s s [] :=
  ⟨(List.filter_eq_self.2 fun _ _ => rfl).symm, fun _ => rfl, fun _ _ h => h, rfl, rfl⟩

theorem Shrinks.trans {s t u : Scope} {gone gone' : List SeriesId} (h : Shrinks s t gone)
    (h' : Shrinks t u gone') : Shrinks s u (gone ++ gone') := by
  refine ⟨?_, fun j => (h'.view j).trans (h.view j), fun j c hc => h.links j c (h'.links j c hc),
    h'.size.trans h.size, h'.keys.trans h.keys⟩
  rw [h'.stack, h.stack, List.filter_filter]
  refine List.filter_congr fun id _ => ?_
  by_cases h1 : id ∈ gone <;> by_cases h2 : id ∈ gone' <;> simp [h1, h2]

theorem Shrinks.mem {s s' : Scope} {gone : List SeriesId} (h : Shrinks s s' gone) {id : SeriesId} :
    id ∈ s'.stack ↔ id ∈ s.stack ∧ id ∉ gone := by
  rw [h.stack, List.mem_filter]
  simp

theorem shrinks_remove (s : Scope) (id : SeriesId) : Shrinks s (s.remove id) [id] := by
  refine ⟨List.filter_congr fun j _ => ?_, fun _ => rfl, fun _ _ h => h, rfl, rfl⟩
  by_cases h : j = id <;> simp [h]

theorem shrinks_forget (s : Scope) (id : SeriesId) : Shrinks s (s.forget id) [] := by
  refine ⟨(List.filter_eq_self.2 fun _ _ => rfl).symm, fun j => Roster.view?_clearChildren _ _ _, fun j c hc => ?_,
    Roster.size_clearChildren _ _, rfl⟩
  rw [forget, Roster.children_clearChildren] at hc
  split at hc
  · cases hc
  · exact hc

/-- Some series go out of scope with all that hang below them, and the other links stay. -/
structure Prunes (s s' : Scope) (gone : List SeriesId) : Prop extends Shrinks s s' gone where
  closed : ∀ j ∈ gone, ∀ c ∈ s.roster.children j, c ∈ gone
  keeps : ∀ j c, c ∈ s.roster.children j → c ∉ gone → c ∈ s'.roster.children j

theorem Prunes.refl (s : Scope) : Prunes s s [] := ⟨.refl s, by simp, fun _ _ hc _ => hc⟩

theorem Prunes.trans {s t u : Scope} {gone gone' : List SeriesId} (h : Prunes s t gone)
    (h' : Prunes t u gone') : Prunes s u (gone ++ gone') := by
  refine ⟨h.toShrinks.trans h'.toShrinks, fun j hj c hc => ?_, fun j c hc hnot => ?_⟩
  · by_cases hgone : c ∈ gone
    · exact List.mem_append_left _ hgone
    · have hj' : j ∈ gone' := (List.mem_append.1 hj).resolve_left fun hj => hgone (h.closed j hj c hc)
      exact List.mem_append_right _ (h'.closed j hj' c (h.keeps j c hc hgone))
  · rw [List.mem_append, not_or] at hnot
    exact h'.keeps j c (h.keeps j c hc hnot.1) hnot.2

theorem mem_children_forget {s : Scope} {id j c : SeriesId} :
    c ∈ (s.forget id).roster.children j ↔ id ≠ j ∧ c ∈ s.roster.children j := by
  rw [forget, Roster.children_clearChildren]
  by_cases h : id = j <;> simp [h]

/-- Ending series takes out these and what is below them, and nothing else. -/
theorem prunes_evict (s : Scope) (ids : List SeriesId) :
    ∃ gone, Prunes s (s.evict ids) gone ∧ (∀ id ∈ ids, id ∈ gone) ∧
      ∀ id ∈ gone, s.roster.Below ids id := by
  fun_induction Scope.evict s ids with
  | case1 s => exact ⟨[], .refl s, by simp, by simp⟩
  | case2 s id rest ih =>
    obtain ⟨gone, hpr, hall, hbelow⟩ := ih
    have hstep := (shrinks_remove s id).trans (shrinks_forget (s.remove id) id)
    have hchildren : ∀ c ∈ s.roster.children id, c ∈ gone := fun c hc =>
      hall c (List.mem_append_left _ hc)
    refine ⟨id :: gone, ⟨hstep.trans hpr.toShrinks, fun j hj c hc => ?_, fun j c hc hnot => ?_⟩, ?_, ?_⟩
    · by_cases hid : id = j
      · exact List.mem_cons_of_mem _ (hchildren c (hid ▸ hc))
      · have hj' : j ∈ gone := (List.mem_cons.1 hj).resolve_left (Ne.symm hid)
        exact List.mem_cons_of_mem _ (hpr.closed j hj' c (mem_children_forget.2 ⟨hid, hc⟩))
    · rw [List.mem_cons, not_or] at hnot
      have hid : id ≠ j := fun hid => hnot.2 (hchildren c (hid ▸ hc))
      exact hpr.keeps j c (mem_children_forget.2 ⟨hid, hc⟩) hnot.2
    · intro j hj
      rcases List.mem_cons.1 hj with rfl | hj
      · exact List.mem_cons_self ..
      · exact List.mem_cons_of_mem _ (hall j (List.mem_append_right _ hj))
    · intro j hj
      rcases List.mem_cons.1 hj with rfl | hj
      · exact .self (List.mem_cons_self ..)
      · refine (hbelow j hj).mono hstep.links fun i hi => ?_
        rcases List.mem_append.1 hi with hi | hi
        · exact .link (.self (List.mem_cons_self ..)) hi
        · exact .self (List.mem_cons_of_mem _ hi)

theorem prunes_endBelow (s : Scope) (id : SeriesId) :
    ∃ gone, Prunes s (s.endBelow id) gone ∧ (∀ c ∈ s.roster.children id, c ∈ gone) ∧
      ∀ j ∈ gone, s.roster.Below (s.roster.children id) j := by
  obtain ⟨gone, hpr, hall, hbelow⟩ := prunes_evict (s.forget id) (s.roster.children id)
  have hforget := shrinks_forget s id
  refine ⟨gone, ⟨hforget.trans hpr.toShrinks, fun j hj c hc => ?_, fun j c hc hnot => ?_⟩, hall,
    fun j hj => (hbelow j hj).mono hforget.links fun i hi => .self hi⟩
  · by_cases hid : id = j
    · exact hall c (hid ▸ hc)
    · exact hpr.closed j hj c (mem_children_forget.2 ⟨hid, hc⟩)
  · have hid : id ≠ j := fun hid => hnot (hall c (hid ▸ hc))
    exact hpr.keeps j c (mem_children_forget.2 ⟨hid, hc⟩) hnot

theorem shrinks_endBelow (s : Scope) (id : SeriesId) :
    ∃ gone, Shrinks s (s.endBelow id) gone ∧ (∀ c ∈ s.roster.children id, c ∈ gone) ∧
      ∀ j ∈ gone, s.roster.Below (s.roster.children id) j := by
  obtain ⟨gone, hpr, h⟩ := prunes_endBelow s id
  exact ⟨gone, hpr.toShrinks, h⟩

theorem prunes_end (s : Scope) (id : SeriesId) :
    ∃ gone, Prunes s ((s.remove id).endBelow id) gone ∧ id ∈ gone ∧
      ∀ j ∈ gone, s.roster.Below [id] j := by
  obtain ⟨gone, hpr, hall, hbelow⟩ := prunes_endBelow (s.remove id) id
  have hself : s.roster.Below [id] id := .self (List.mem_singleton.2 rfl)
  refine ⟨id :: gone, ⟨(shrinks_remove s id).trans hpr.toShrinks, fun j hj c hc => ?_, fun j c hc hnot => ?_⟩,
    List.mem_cons_self .., fun j hj => ?_⟩
  · rcases List.mem_cons.1 hj with rfl | hj
    · exact List.mem_cons_of_mem _ (hall c hc)
    · exact List.mem_cons_of_mem _ (hpr.closed j hj c hc)
  · rw [List.mem_cons, not_or] at hnot
    exact hpr.keeps j c hc hnot.2
  · rcases List.mem_cons.1 hj with rfl | hj
    · exact hself
    · exact (hbelow j hj).mono (fun _ _ h => h) fun i hi => .link hself hi

private theorem prunes_endAll (ids : List SeriesId) (s : Scope) :
    ∃ gone, Prunes s (ids.foldl (fun s id => (s.remove id).endBelow id) s) gone ∧
      (∀ id ∈ ids, id ∈ gone) ∧ ∀ j ∈ gone, s.roster.Below ids j := by
  induction ids generalizing s with
  | nil => exact ⟨[], .refl s, by simp, by simp⟩
  | cons id rest ih =>
    obtain ⟨gone₁, hpr₁, hid, hbelow₁⟩ := prunes_end s id
    obtain ⟨gone₂, hpr₂, hall₂, hbelow₂⟩ := ih ((s.remove id).endBelow id)
    refine ⟨gone₁ ++ gone₂, hpr₁.trans hpr₂, ?_, ?_⟩
    · intro j hj
      rcases List.mem_cons.1 hj with rfl | hj
      · exact List.mem_append_left _ hid
      · exact List.mem_append_right _ (hall₂ j hj)
    · intro j hj
      rcases List.mem_append.1 hj with hj | hj
      · refine (hbelow₁ j hj).mono (fun _ _ h => h) fun i hi => ?_
        rw [List.mem_singleton.1 hi]
        exact .self (List.mem_cons_self ..)
      · refine (hbelow₂ j hj).mono hpr₁.links fun i hi => ?_
        exact .self (List.mem_cons_of_mem _ hi)

/-- Closing sections takes out all that are deeper, and only such as are below one of them. -/
theorem prunes_closeBelow (s : Scope) (level : HeadingLevel) :
    ∃ gone, Prunes s (s.closeBelow level) gone ∧
      (∀ id ∈ s.stack, s.isDeeper level id → id ∈ gone) ∧
      ∀ j ∈ gone, s.roster.Below (s.stack.filter (s.isDeeper level)) j := by
  obtain ⟨gone, hpr, hall, hbelow⟩ := prunes_endAll (s.stack.filter (s.isDeeper level)) s
  exact ⟨gone, hpr, fun id hid hd => hall id (List.mem_filter.2 ⟨hid, hd⟩), hbelow⟩

theorem shrinks_closeBelow (s : Scope) (level : HeadingLevel) :
    ∃ gone, Shrinks s (s.closeBelow level) gone ∧
      (∀ id ∈ s.stack, s.isDeeper level id → id ∈ gone) ∧
      ∀ j ∈ gone, s.roster.Below (s.stack.filter (s.isDeeper level)) j := by
  obtain ⟨gone, hpr, h⟩ := prunes_closeBelow s level
  exact ⟨gone, hpr.toShrinks, h⟩

end Scope
end Rubric
