import Rubric.Proofs.Scope.Sound

/-!
# Series whose parents are in scope

* `Roster.parent? r id` : the series whose label goes in front of that of another; `Roster.Ancestor` : that
  one, and those in front of it;
* `Scope.Tied` : a series in scope is linked to its parent if that is in scope too;
* `Scope.Rooted` : the parent of every series in scope is in scope;
* `Rooted.prunes`, `started`, `replaced` : the changes of a scope that keep it rooted. A series may take the
  place of another one whose parent is in scope.
-/

namespace Rubric

namespace Roster
variable {r r' : Roster} {id p : SeriesId}

/-- The series whose label goes in front. -/
def parent? (r : Roster) (id : SeriesId) : Option SeriesId := (r.get? id).bind Series.parent

theorem parent?_eq (r : Roster) (id : SeriesId) : r.parent? id = (r.view? id).bind Series.parent := by
  rw [parent?, view?]
  cases r.get? id <;> rfl

theorem parent?_congr (h : r'.view? id = r.view? id) : r'.parent? id = r.parent? id := by
  rw [parent?_eq, parent?_eq, h]

theorem parent?_increment (r : Roster) (id j : SeriesId) : (r.increment id).parent? j = r.parent? j := by
  rw [parent?_eq, view?_increment, parent?_eq]
  cases r.view? j with
  | none => rfl
  | some s =>
    show (if id = j then { s with count := s.count + 1 } else s).parent = s.parent
    split <;> rfl

theorem parent?_create (r : Roster) (kind : ElementKind) (template : Template.Instance)
    (parent : Option SeriesId) (styled : Bool) (j : SeriesId) :
    (r.create kind template parent styled).2.parent? j =
      if j = r.series.size then parent else r.parent? j := by
  rw [parent?_eq, view?_create]
  split
  · rfl
  · rw [parent?_eq]

theorem has_of_parent? (h : r.parent? id = some p) : r.Has id := by
  obtain ⟨s, hs, -⟩ := Option.bind_eq_some_iff.1 h
  exact has_of_get? hs

/-- The series whose labels go in front, from the inside outwards. -/
inductive Ancestor (r : Roster) (id : SeriesId) : SeriesId → Prop where
  | parent {p : SeriesId} (h : r.parent? id = some p) : Ancestor r id p
  | outer {a p : SeriesId} (h : Ancestor r id a) (hp : r.parent? a = some p) : Ancestor r id p

end Roster

namespace Scope
variable {s s' : Scope} {id p : SeriesId}

theorem Sound.parent?_lt (h : s.Sound) (hp : s.roster.parent? id = some p) : p < id := by
  rw [Roster.parent?_eq] at hp
  obtain ⟨v, hv, hvp⟩ := Option.bind_eq_some_iff.1 hp
  exact h.older id v p hv hvp

theorem Sound.parent?_of_child (h : s.Sound) (hc : id ∈ s.roster.children p) :
    s.roster.parent? id = some p := by
  obtain ⟨v, hv, hvp⟩ := h.linked p id hc
  rw [Roster.parent?_eq, hv]
  exact hvp

/-- A series in scope is linked to its parent if that is in scope too. -/
def Tied (s : Scope) : Prop :=
  ∀ id ∈ s.stack, ∀ p ∈ s.stack, s.roster.parent? id = some p → id ∈ s.roster.children p

/-- The parent of every series in scope is in scope. -/
def Rooted (s : Scope) : Prop := ∀ id ∈ s.stack, ∀ p, s.roster.parent? id = some p → p ∈ s.stack

/-- All series whose labels go in front of that of another are in scope. -/
def Grounded (s : Scope) (id : SeriesId) : Prop := ∀ a, s.roster.Ancestor id a → a ∈ s.stack

theorem Rooted.grounded (h : s.Rooted) (hparent : ∀ p, s.roster.parent? id = some p → p ∈ s.stack) :
    s.Grounded id := by
  intro a ha
  induction ha with
  | parent hp => exact hparent _ hp
  | outer _ hp ih => exact h _ ih _ hp

/-! ## What goes out of scope -/

theorem Tied.prunes {gone : List SeriesId} (h : s.Tied) (hp : Prunes s s' gone) : s'.Tied := by
  intro id hid p hmem hparent
  obtain ⟨hid, hnot⟩ := hp.mem.1 hid
  rw [Roster.parent?_congr (hp.view id)] at hparent
  exact hp.keeps p id (h id hid p (hp.mem.1 hmem).1 hparent) hnot

/-- What goes out of scope takes along all that hangs below it. -/
theorem Rooted.prunes {gone : List SeriesId} (h : s.Rooted) (ht : s.Tied) (hp : Prunes s s' gone) :
    s'.Rooted := by
  intro id hid p hparent
  obtain ⟨hid, hnot⟩ := hp.mem.1 hid
  rw [Roster.parent?_congr (hp.view id)] at hparent
  have hmem := h id hid p hparent
  refine hp.mem.2 ⟨hmem, fun hgone => hnot ?_⟩
  exact hp.closed p hgone id (ht id hid p hmem hparent)

theorem mem_remove {j : SeriesId} : j ∈ (s.remove id).stack ↔ j ∈ s.stack ∧ j ≠ id := by
  rw [remove, List.mem_filter]
  simp

theorem Tied.remove (h : s.Tied) (id : SeriesId) : (s.remove id).Tied := fun j hj p hp =>
  h j (mem_remove.1 hj).1 p (mem_remove.1 hp).1

/-- A single series may go out of scope if nothing in scope hangs below it. -/
theorem Rooted.remove_iff (h : s.Rooted) :
    (s.remove id).Rooted ↔ ∀ c ∈ s.stack, c ≠ id → s.roster.parent? c ≠ some id := by
  constructor
  · intro hroot c hc hne hparent
    exact (mem_remove.1 (hroot c (mem_remove.2 ⟨hc, hne⟩) id hparent)).2 rfl
  · intro hnone c hc p hp
    obtain ⟨hmem, hne⟩ := mem_remove.1 hc
    refine mem_remove.2 ⟨h c hmem p hp, ?_⟩
    rintro rfl
    exact hnone c hmem hne hp

/-! ## What comes into scope -/

theorem Tied.increment (h : s.Tied) (id : SeriesId) : (s.increment id).Tied := by
  intro j hj p hp hparent
  show j ∈ (s.roster.increment id).children p
  rw [Roster.children_increment]
  exact h j hj p hp ((Roster.parent?_increment ..).symm.trans hparent)

theorem Rooted.increment (h : s.Rooted) (id : SeriesId) : (s.increment id).Rooted := fun j hj p hp =>
  h j hj p ((Roster.parent?_increment ..).symm.trans hp)

section New
variable (kind : ElementKind) (template : Template.Instance) (parent : Option SeriesId) (styled : Bool)

theorem parent?_of_mem (hs : s.Sound) (hid : id ∈ s.stack) :
    (s.create kind template parent styled).2.roster.parent? id = s.roster.parent? id :=
  (Roster.parent?_create ..).trans (if_neg (Nat.ne_of_lt (hs.has id hid)))

theorem parent?_new : (s.create kind template parent styled).2.roster.parent? s.roster.series.size = parent :=
  (Roster.parent?_create ..).trans (if_pos rfl)

theorem Tied.create (h : s.Tied) (hs : s.Sound) {j : SeriesId} (hj : j ∈ s.stack ∨ j = s.roster.series.size)
    (hp : p ∈ s.stack) (hparent : (s.create kind template parent styled).2.roster.parent? j = some p) :
    j ∈ (s.create kind template parent styled).2.roster.children p := by
  rcases hj with hj | rfl
  · rw [parent?_of_mem kind template parent styled hs hj] at hparent
    exact Roster.mem_children_create_of_mem _ _ _ _ _ (h j hj p hp hparent)
  · rw [parent?_new] at hparent
    subst hparent
    exact Roster.mem_children_create_self _ _ _ _ (hs.has p hp)

variable {parent}

theorem Rooted.started (h : s.Rooted) (hs : s.Sound) (hparent : ∀ p, parent = some p → p ∈ s.stack) :
    (s.started kind template parent styled).Rooted := by
  intro id hid p hp
  refine List.mem_cons_of_mem _ ?_
  rcases List.mem_cons.1 hid with rfl | hid
  · exact hparent p ((parent?_new ..).symm.trans hp)
  · exact h id hid p ((parent?_of_mem _ _ _ _ hs hid).symm.trans hp)

theorem Tied.started (h : s.Tied) (hs : s.Sound) (hparent : ∀ p, parent = some p → p ∈ s.stack) :
    (s.started kind template parent styled).Tied := by
  intro id hid p _ hp
  have hmem : p ∈ s.stack := by
    rcases List.mem_cons.1 hid with rfl | hid
    · exact hparent p ((parent?_new ..).symm.trans hp)
    · rename_i hpmem
      rcases List.mem_cons.1 hpmem with rfl | hpmem
      · have hlt := hs.parent?_lt ((parent?_of_mem _ _ _ _ hs hid).symm.trans hp)
        exact absurd (hs.has id hid) (Nat.not_lt.2 (Nat.le_of_lt hlt))
      · exact hpmem
  exact h.create _ _ _ _ hs ((List.mem_cons.1 hid).symm) hmem hp

end New

/-! ## What takes the place of another series -/

theorem mem_swapped_iff {stack : List SeriesId} {old new j : SeriesId} :
    j ∈ swapped stack old new ↔ j = new ∨ j ∈ stack ∧ j ≠ old := by
  constructor
  · intro hj
    rw [swapped] at hj
    split at hj
    · obtain ⟨i, hi, rfl⟩ := List.mem_map.1 hj
      by_cases hold : i = old
      · exact Or.inl (if_pos hold)
      · rw [if_neg hold]
        exact Or.inr ⟨hi, hold⟩
    · rename_i hold
      refine (List.mem_cons.1 hj).imp_right fun hj => ⟨hj, ?_⟩
      rintro rfl
      exact hold (by simpa using hj)
  · intro hj
    rw [swapped]
    split
    · rename_i hold
      rcases hj with rfl | ⟨hj, hne⟩
      · exact List.mem_map.2 ⟨old, by simpa using hold, if_pos rfl⟩
      · exact List.mem_map.2 ⟨j, hj, if_neg hne⟩
    · exact List.mem_cons.2 (hj.imp_right And.left)

section Replace
variable (old : SeriesId) (kind : ElementKind) (template : Template.Instance) (styled : Bool)

/-- A scope in which a series has taken the place of another one, before what hangs below that ends. -/
def swap (s : Scope) : Scope :=
  { (s.create kind template (s.roster.parent? old) styled).2 with
    stack := swapped s.stack old s.roster.series.size }

/-- What is in scope behind a replacement is the new series, and what does not hang below the old one. -/
theorem prunes_replaced (s : Scope) :
    ∃ gone, Prunes (s.swap old kind template styled) (s.replaced old kind template styled) gone ∧
      (∀ c ∈ s.roster.children old, c ∈ gone) ∧
      ∀ j ∈ gone, (s.swap old kind template styled).roster.Below
        ((s.swap old kind template styled).roster.children old) j := by
  obtain ⟨gone, hpr, hall, hbelow⟩ := prunes_endBelow (s.swap old kind template styled) old
  exact ⟨gone, hpr, fun c hc => hall c (Roster.mem_children_create_of_mem _ _ _ _ _ hc), hbelow⟩

variable {old}

theorem Tied.replaced (h : s.Tied) (hs : s.Sound) : (s.replaced old kind template styled).Tied := by
  obtain ⟨gone, hpr, -⟩ := prunes_replaced old kind template styled s
  intro id hid p hp hparent
  obtain ⟨hid, hnot⟩ := hpr.mem.1 hid
  obtain ⟨hp, -⟩ := hpr.mem.1 hp
  rw [Roster.parent?_congr (hpr.view id)] at hparent
  refine hpr.keeps p id ?_ hnot
  -- a parent is older than the series below it, so it is not the new one
  have hmem : ∀ j, s.roster.Has j → s.roster.parent? j = some p → p ∈ s.stack := by
    intro j hj hjp
    rcases mem_swapped_iff.1 hp with rfl | ⟨hp, -⟩
    · exact absurd hj (Nat.not_lt.2 (Nat.le_of_lt (hs.parent?_lt hjp)))
    · exact hp
  rcases mem_swapped_iff.1 hid with rfl | ⟨hid, -⟩
  · have hold : s.roster.parent? old = some p := (parent?_new ..).symm.trans hparent
    exact h.create _ _ _ _ hs (Or.inr rfl) (hmem old (Roster.has_of_parent? hold) hold) hparent
  · have hold := (parent?_of_mem _ _ _ _ hs hid).symm.trans hparent
    exact h.create _ _ _ _ hs (Or.inl hid) (hmem id (hs.has id hid) hold) hparent

/-- A series may take the place of another one, in scope or not, whose parent is in scope. -/
theorem Rooted.replaced (h : s.Rooted) (ht : s.Tied) (hs : s.Sound)
    (hparent : ∀ p, s.roster.parent? old = some p → p ∈ s.stack) :
    (s.replaced old kind template styled).Rooted := by
  obtain ⟨gone, hpr, hall, -⟩ := prunes_replaced old kind template styled s
  intro id hid p hp
  obtain ⟨hid, hnot⟩ := hpr.mem.1 hid
  rw [Roster.parent?_congr (hpr.view id)] at hp
  rcases mem_swapped_iff.1 hid with rfl | ⟨hin, -⟩
  · have hold : s.roster.parent? old = some p := (parent?_new ..).symm.trans hp
    have hmem := hparent p hold
    refine hpr.mem.2 ⟨mem_swapped_iff.2 (Or.inr ⟨hmem, Nat.ne_of_lt (hs.parent?_lt hold)⟩), fun hgone => hnot ?_⟩
    exact hpr.closed p hgone _ (ht.create _ _ _ _ hs (Or.inr rfl) hmem hp)
  · have hsame := (parent?_of_mem _ _ _ _ hs hin).symm.trans hp
    have hmem := h id hin p hsame
    have hne : p ≠ old := by
      rintro rfl
      exact hnot (hall id (ht id hin p hmem hsame))
    refine hpr.mem.2 ⟨mem_swapped_iff.2 (Or.inr ⟨hmem, hne⟩), fun hgone => hnot ?_⟩
    exact hpr.closed p hgone id (ht.create _ _ _ _ hs (Or.inl hin) hmem hp)

theorem parent?_replaced (s : Scope) :
    (s.replaced old kind template styled).roster.parent? s.roster.series.size = s.roster.parent? old := by
  obtain ⟨gone, hpr, -⟩ := prunes_replaced old kind template styled s
  exact (Roster.parent?_congr (hpr.view _)).trans (parent?_new ..)

theorem mem_of_replaced {j : SeriesId} (hj : j ∈ (s.replaced old kind template styled).stack)
    (hne : j ≠ s.roster.series.size) : j ∈ s.stack := by
  obtain ⟨gone, hpr, -⟩ := prunes_replaced old kind template styled s
  exact ((mem_swapped_iff.1 (hpr.mem.1 hj).1).resolve_left hne).1

theorem Sound.mem_replaced (hs : s.Sound) (hold : s.roster.Has old) :
    s.roster.series.size ∈ (s.replaced old kind template styled).stack := by
  obtain ⟨gone, hpr, -, hbelow⟩ := prunes_replaced old kind template styled s
  refine hpr.mem.2 ⟨mem_swapped_iff.2 (Or.inl rfl), fun hgone => ?_⟩
  have hcreate : (s.create kind template (s.roster.parent? old) styled).2.Sound :=
    hs.create kind template styled fun p hp => Nat.lt_trans (hs.parent?_lt hp) hold
  -- a link to the new series leads from its parent, which is older than the old one
  have hlink : ∀ j, s.roster.series.size ∈ (s.swap old kind template styled).roster.children j → j < old :=
    fun j hj => hs.parent?_lt ((parent?_new ..).symm.trans (hcreate.parent?_of_child hj))
  cases hbelow _ hgone with
  | self hc => exact Nat.lt_irrefl _ (hlink old hc)
  | link hb hc => exact Nat.lt_asymm (hlink _ hc) (hcreate.lt_of_below hb)

end Replace
end Scope
end Rubric
