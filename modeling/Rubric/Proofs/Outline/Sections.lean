import Mathlib.Data.List.Basic
import Rubric.Proofs.Scope.Sound

/-!
# The sections in scope

* `Scope.sections` : the heading series of the stack with their levels, innermost first;
* `Scope.sectionOf?` : the section of a level, which is the one that is there if they get deeper inwards;
* `Scope.Ranked` : the parent of a heading series is a heading series of a smaller level;
* `sections_start`, `sections_endBelow`, `sections_closeBelow` : the sections behind a change.
-/

namespace Rubric

def ElementKind.level? : ElementKind → Option HeadingLevel
  | heading l => some l
  | orderedList | unorderedList => none

theorem ElementKind.level?_eq_some {kind : ElementKind} {l : HeadingLevel} :
    kind.level? = some l ↔ kind = .heading l := by
  cases kind <;> simp [level?]

theorem ElementKind.level?_of_isList {kind : ElementKind} (h : kind.isList) : kind.level? = none := by
  cases kind with
  | heading => cases h
  | orderedList => rfl
  | unorderedList => rfl

def Roster.Lists (r : Roster) (id : SeriesId) : Prop :=
  ∃ v, r.view? id = some v ∧ v.kind.level? = none

theorem Roster.Grows.lists {r r' : Roster} (h : r.Grows r') {id : SeriesId} (hid : r.Lists id) :
    r'.Lists id := by
  obtain ⟨v, hv, hk⟩ := hid
  obtain ⟨n, hn⟩ := h.view id v hv
  exact ⟨_, hn, hk⟩

namespace Scope

def level? (s : Scope) (id : SeriesId) : Option HeadingLevel :=
  (s.roster.view? id).bind fun series => series.kind.level?

/-- The heading series of the stack with their levels, innermost first. -/
def sections (s : Scope) : List (SeriesId × HeadingLevel) :=
  s.stack.filterMap fun id => (s.level? id).map (id, ·)

def sectionOf? (s : Scope) (l : HeadingLevel) : Option SeriesId :=
  (s.sections.find? fun entry => entry.2 == l).map Prod.fst

theorem mem_sections {s : Scope} {id : SeriesId} {l : HeadingLevel} :
    (id, l) ∈ s.sections ↔ id ∈ s.stack ∧ s.level? id = some l := by
  simp only [sections, List.mem_filterMap, Option.map_eq_some_iff, Prod.mk.injEq]
  constructor
  · rintro ⟨j, hj, m, hm, rfl, rfl⟩
    exact ⟨hj, hm⟩
  · rintro ⟨hid, hl⟩
    exact ⟨id, hid, l, hl, rfl, rfl⟩

theorem sectionOf?_congr {s s' : Scope} (h : s'.sections = s.sections) (l : HeadingLevel) :
    s'.sectionOf? l = s.sectionOf? l := by
  rw [sectionOf?, h, sectionOf?]

theorem find?_filter_sections {sections : List (SeriesId × HeadingLevel)} {l : HeadingLevel}
    (p : Nat → Prop) [DecidablePred p] (h : p l.number) :
    (sections.filter fun e => decide (p e.2.number)).find? (fun e => e.2 == l) =
      sections.find? fun e => e.2 == l := by
  rw [List.find?_filter]
  refine congrArg (fun q => sections.find? q) (funext fun e => ?_)
  by_cases he : e.2 = l
  · simp [he, h]
  · simp [he]

theorem mem_of_sectionOf? {s : Scope} {id : SeriesId} {l : HeadingLevel}
    (h : s.sectionOf? l = some id) : (id, l) ∈ s.sections := by
  obtain ⟨⟨j, m⟩, hf, rfl⟩ := Option.map_eq_some_iff.1 h
  have hm : m = l := by simpa using List.find?_some hf
  exact hm ▸ List.mem_of_find?_eq_some hf

theorem sectionOf?_eq_none {s : Scope} {l : HeadingLevel} :
    s.sectionOf? l = none ↔ ∀ id, (id, l) ∉ s.sections := by
  rw [sectionOf?, Option.map_eq_none_iff, List.find?_eq_none]
  constructor
  · intro h id hid
    simpa using h _ hid
  · rintro h ⟨id, m⟩ hid hm
    have : m = l := by simpa using hm
    exact h id (this ▸ hid)

/-- Where every level is there once at most, the section of a level is the one that is there. -/
theorem sectionOf?_of_mem {s : Scope} {id : SeriesId} {l : HeadingLevel}
    (hs : s.sections.Pairwise fun a b => b.2.number < a.2.number) (h : (id, l) ∈ s.sections) :
    s.sectionOf? l = some id := by
  rw [sectionOf?]
  generalize s.sections = sections at hs h
  induction sections with
  | nil => cases h
  | cons entry rest ih =>
    obtain ⟨hlt, hs⟩ := List.pairwise_cons.1 hs
    rcases List.mem_cons.1 h with rfl | h
    · simp
    · have hne : entry.2 ≠ l := fun he => by
        have := hlt _ h
        rw [he] at this
        exact Nat.lt_irrefl _ this
      rw [List.find?_cons_of_neg (by simpa using hne)]
      exact ih hs h

/-- A section that no other is deeper than is the innermost, and the others are of smaller levels. -/
theorem eq_cons_filter {sections : List (SeriesId × HeadingLevel)} {id : SeriesId} {l : HeadingLevel}
    (hs : sections.Pairwise fun a b => b.2.number < a.2.number) (hid : (id, l) ∈ sections)
    (hle : ∀ e ∈ sections, e.2.number ≤ l.number) :
    sections = (id, l) :: sections.filter fun e => decide (e.2.number < l.number) := by
  cases sections with
  | nil => cases hid
  | cons e rest =>
    obtain ⟨hlt, -⟩ := List.pairwise_cons.1 hs
    have hle' := hle e (List.mem_cons_self ..)
    rcases List.mem_cons.1 hid with rfl | hid
    · have hrest : rest.filter (fun e => decide (e.2.number < l.number)) = rest :=
        List.filter_eq_self.2 fun e he => by simpa using hlt e he
      rw [List.filter_cons_of_neg (by simp), hrest]
    · have := hlt _ hid
      exact absurd this (Nat.not_lt.2 hle')

theorem any_kind_heading (s : Scope) (l : HeadingLevel) (id : SeriesId) :
    ((s.roster.get? id).any fun series => series.kind == .heading l) = (s.level? id == some l) := by
  rw [level?, Roster.view?]
  cases s.roster.get? id with
  | none => rfl
  | some series =>
    cases hk : series.kind <;> simp [ElementKind.level?, Series.unlinked, hk, Bool.beq_eq_decide_eq]

theorem findKind?_heading (s : Scope) (l : HeadingLevel) :
    s.findKind? (.heading l) = s.sectionOf? l := by
  rw [findKind?, sectionOf?, sections]
  induction s.stack with
  | nil => rfl
  | cons id rest ih =>
    rw [List.find?_cons, List.filterMap_cons, any_kind_heading]
    cases s.level? id with
    | none => exact ih
    | some m =>
      by_cases hm : m = l
      · simp [hm]
      · have hne : ((some m == some l) : Bool) = false := by simpa using hm
        simpa [hne, hm] using ih

theorem find?_level (s : Scope) (l : HeadingLevel) :
    s.find? (.level l) = s.sectionOf? l := by
  rw [← findKind?_heading, find?, findKind?]
  congr 1
  funext id
  simp [selects, Selector.matchesKind, Selector.numberedOnly]

theorem find?_heading (s : Scope) : s.find? .heading = s.sections.head?.map Prod.fst := by
  rw [find?, sections]
  induction s.stack with
  | nil => rfl
  | cons id rest ih =>
    have hsel : s.selects .heading id = (s.level? id).isSome := by
      rw [selects, level?, Roster.view?]
      cases s.roster.get? id with
      | none => rfl
      | some series =>
        cases hk : series.kind <;>
          simp [Selector.matchesKind, Selector.numberedOnly, ElementKind.level?, Series.unlinked, hk]
    rw [List.find?_cons, List.filterMap_cons, hsel]
    cases s.level? id with
    | none => simpa using ih
    | some m => rfl

theorem isDeeper_eq (s : Scope) (l : HeadingLevel) (id : SeriesId) :
    s.isDeeper l id = (s.level? id).any fun m => decide (l.number < m.number) := by
  rw [isDeeper, level?, Roster.view?]
  cases s.roster.get? id with
  | none => rfl
  | some series => cases hk : series.kind <;> simp [ElementKind.level?, Series.unlinked, hk]

theorem level?_congr {s s' : Scope} {id : SeriesId}
    (h : s'.roster.view? id = s.roster.view? id) : s'.level? id = s.level? id := by
  rw [level?, h, level?]

section Changes
variable {s : Scope}

theorem level?_started_of_has {j : SeriesId} (h : s.roster.Has j) (kind : ElementKind)
    (template : Template.Instance) (parent : Option SeriesId) (styled : Bool) :
    (s.started kind template parent styled).level? j = s.level? j :=
  level?_congr (view?_started_of_has h ..)

theorem level?_started_self (s : Scope) (kind : ElementKind) (template : Template.Instance)
    (parent : Option SeriesId) (styled : Bool) :
    (s.started kind template parent styled).level? s.roster.series.size = kind.level? := by
  rw [level?, view?_started, if_pos rfl]
  rfl

theorem has_of_level? {j : SeriesId} {l : HeadingLevel} (h : s.level? j = some l) :
    s.roster.Has j := by
  obtain ⟨v, hv, -⟩ := Option.bind_eq_some_iff.1 h
  exact Roster.has_of_view? hv

theorem level?_increment (s : Scope) (id j : SeriesId) : (s.increment id).level? j = s.level? j := by
  rw [level?, increment, Roster.view?_increment, level?]
  cases s.roster.view? j with
  | none => rfl
  | some v =>
    by_cases h : id = j <;> simp [h]

theorem sections_increment (s : Scope) (id : SeriesId) : (s.increment id).sections = s.sections := by
  simp only [sections, level?_increment]
  rfl

theorem Sound.sections_start (h : s.Sound) (kind : ElementKind) (template : Template.Instance)
    (parent : Option SeriesId) (styled : Bool) :
    (s.started kind template parent styled).sections =
      (kind.level?.map (s.roster.series.size, ·)).toList ++ s.sections := by
  have hrest : s.stack.filterMap (fun id =>
      ((s.started kind template parent styled).level? id).map (id, ·)) = s.sections := by
    refine List.filterMap_congr fun id hid => ?_
    rw [level?_started_of_has (h.has id hid)]
  have hself := level?_started_self s kind template parent styled
  rw [sections, show (s.started kind template parent styled).stack =
    s.roster.series.size :: s.stack from rfl, List.filterMap_cons, hself, hrest]
  cases kind.level? <;> rfl

end Changes

/-- The scope is sound, and the parent of a heading series is a heading series of a smaller level. -/
structure Ranked (s : Scope) : Prop extends Sound s where
  outer : ∀ id v l p, s.roster.view? id = some v → v.kind = .heading l → v.parent = some p →
    ∃ m, s.level? p = some m ∧ m.number < l.number

theorem Ranked.outer_level {s : Scope} (h : s.Ranked) {j c : SeriesId} {l : HeadingLevel}
    (hc : c ∈ s.roster.children j) (hl : s.level? c = some l) :
    ∃ m, s.level? j = some m ∧ m.number < l.number := by
  obtain ⟨v, hv, hp⟩ := h.linked j c hc
  rw [level?, hv, Option.bind_some, ElementKind.level?_eq_some] at hl
  exact h.outer c v l j hv hl hp

theorem Ranked.shrinks {s s' : Scope} {gone : List SeriesId} (h : s.Ranked)
    (hs : Shrinks s s' gone) : s'.Ranked where
  toSound := h.toSound.shrinks hs
  outer id v l p hv hk hp := by
    obtain ⟨m, hm, hml⟩ := h.outer id v l p ((hs.view id).symm.trans hv) hk hp
    exact ⟨m, (level?_congr (hs.view p)).trans hm, hml⟩

theorem Ranked.level?_of_below {s : Scope} (h : s.Ranked) {ids : List SeriesId} {id : SeriesId}
    (hb : s.roster.Below ids id) (hids : ∀ i ∈ ids, s.level? i = none) : s.level? id = none := by
  refine hb.induct (fun i => s.level? i = none) hids fun i c hi hc => ?_
  cases hl : s.level? c with
  | none => rfl
  | some l =>
    obtain ⟨m, hm, -⟩ := h.outer_level hc hl
    rw [hi] at hm
    cases hm

theorem Shrinks.sections_eq {s s' : Scope} {gone : List SeriesId} (h : Shrinks s s' gone) :
    s'.sections = s.sections.filter fun entry => !gone.contains entry.1 := by
  rw [sections, sections, h.stack]
  have hlevel : ∀ id, s'.level? id = s.level? id := fun id => level?_congr (h.view id)
  simp only [hlevel]
  induction s.stack with
  | nil => rfl
  | cons id rest ih =>
    rw [List.filter_cons, List.filterMap_cons]
    cases hg : gone.contains id <;> cases hl : s.level? id <;>
      simp only [hg, hl, ih, Bool.not_true, Bool.not_false, Bool.false_eq_true, if_true, if_false,
        List.filterMap_cons, List.filter_cons, Option.map_some, Option.map_none]

/-- What ends below a list leaves the sections as they are. -/
theorem Ranked.sections_endBelow {s : Scope} (h : s.Ranked) {id : SeriesId}
    (hid : s.level? id = none) : (s.endBelow id).sections = s.sections := by
  obtain ⟨gone, hsh, -, hbelow⟩ := shrinks_endBelow s id
  rw [hsh.sections_eq, List.filter_eq_self]
  intro entry hentry
  have hnone : ∀ j ∈ gone, s.level? j = none := fun j hj =>
    h.level?_of_below (hbelow j hj) fun c hc => by
      cases hl : s.level? c with
      | none => rfl
      | some l =>
        obtain ⟨m, hm, -⟩ := h.outer_level hc hl
        rw [hid] at hm
        cases hm
  have hlevel := (mem_sections.1 hentry).2
  have : entry.1 ∉ gone := fun hg => by rw [hnone _ hg] at hlevel; cases hlevel
  simp [this]

theorem sections_remove {s : Scope} {id : SeriesId} (hid : s.level? id = none) :
    (s.remove id).sections = s.sections := by
  rw [(shrinks_remove s id).sections_eq, List.filter_eq_self]
  intro entry hentry
  have hlevel := (mem_sections.1 hentry).2
  have hne : entry.1 ≠ id := fun he => by rw [he, hid] at hlevel; cases hlevel
  simpa using hne

/-- Closing sections leaves those that are no deeper. -/
theorem Ranked.sections_closeBelow {s : Scope} (h : s.Ranked) (l : HeadingLevel) :
    (s.closeBelow l).sections = s.sections.filter fun entry => decide (entry.2.number ≤ l.number) := by
  obtain ⟨gone, hsh, hall, hbelow⟩ := shrinks_closeBelow s l
  rw [hsh.sections_eq]
  refine List.filter_congr fun entry hentry => ?_
  obtain ⟨hmem, hlevel⟩ := mem_sections.1 hentry
  have hdeep : ∀ j ∈ gone, ∀ m, s.level? j = some m → l.number < m.number := by
    intro j hj
    refine (hbelow j hj).induct (fun i => ∀ m, s.level? i = some m → l.number < m.number) ?_ ?_
    · intro i hi m hm
      have hd := (List.mem_filter.1 hi).2
      rw [isDeeper_eq, hm] at hd
      simpa using hd
    · intro i c hi hc m hm
      obtain ⟨n, hn, hnm⟩ := h.outer_level hc hm
      have := hi n hn
      omega
  by_cases hle : entry.2.number ≤ l.number
  · have : entry.1 ∉ gone := fun hg => by have := hdeep _ hg _ hlevel; omega
    simp [this, hle]
  · have : entry.1 ∈ gone := hall _ hmem (by rw [isDeeper_eq, hlevel]; simp; omega)
    simp [this, hle]

end Scope

theorem Roster.Lists.level? {s : Scope} {id : SeriesId} (h : s.roster.Lists id) : s.level? id = none := by
  obtain ⟨v, hv, hk⟩ := h
  rw [Scope.level?, hv]
  exact hk

end Rubric
