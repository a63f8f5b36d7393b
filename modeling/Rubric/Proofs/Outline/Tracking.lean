import Rubric.Proofs.Outline.Scheme
import Rubric.Proofs.Outline.Sections

/-!
# Sections follow the outline

* `HeadingScheme.Keeps past s id l` : the series `id` numbers the open section of level `l` behind the
  headings `past`: with its segment and number, below the section that the segment asks for, and with
  the label of its latest heading;
* `HeadingScheme.Tracks past s` : the sections in scope are exactly those that are open;
* `Tracks.of_sections_eq` : a change that leaves the sections alone leaves this as it is;
* `Tracks.close` : a heading closes the deeper sections first (`Closed`);
* `Closed.unlabelled`, `Closed.counted` : the sections behind a heading without and with a label, and
  the label.
-/

namespace Rubric

namespace HeadingScheme
open Scope
variable {H : HeadingScheme} {past : Outline} {s s' : Scope}

/-- A series numbers the section of a level behind the headings met so far. -/
structure Keeps (H : HeadingScheme) (past : Outline) (s : Scope) (id : SeriesId) (l : HeadingLevel)
    (v : Series) : Prop where
  view : s.roster.view? id = some v
  template : H.template.below? (l.number - H.first.number) = some v.template.template
  count : v.count = (past.sinceOuter l).count l
  parent : v.parent = (v.segment.parent.bind l.markerLevel?).bind s.sectionOf?
  label : ∃ before, H.latest? past l = some before ∧ s.roster.bareText id = H.coreLabel before l

/-- The sections in scope are those that the headings met so far have left open. -/
structure Tracks (H : HeadingScheme) (past : Outline) (s : Scope) : Prop where
  ranked : s.Ranked
  sorted : s.sections.Pairwise fun a b => b.2.number < a.2.number
  opens : ∀ l, (∃ id, (id, l) ∈ s.sections) ↔ H.Opens past l
  keeps : ∀ id l, (id, l) ∈ s.sections → ∃ v, H.Keeps past s id l v

/-! ## Labels in a ranked scope -/

/-- The label of a heading series depends on heading series of its level and above only. -/
theorem Ranked.bareText_eq (h : s.Ranked) {id : SeriesId} {l : HeadingLevel}
    (hid : s.level? id = some l)
    (hview : ∀ j m, s.level? j = some m → m.number ≤ l.number →
      s'.roster.view? j = s.roster.view? j) : s'.roster.bareText id = s.roster.bareText id := by
  refine Roster.bareText_congr (fun j => ∃ m, s.level? j = some m ∧ m.number ≤ l.number) ?_ ?_ id
    ⟨l, hid, Nat.le_refl _⟩
  · rintro j ⟨m, hm, hml⟩
    exact hview j m hm hml
  · rintro j v p ⟨m, hm, hml⟩ hv hp _
    rw [level?, hv, Option.bind_some, ElementKind.level?_eq_some] at hm
    obtain ⟨n, hn, hnm⟩ := h.outer j v m p hv hm hp
    exact ⟨n, hn, by omega⟩

/-- The section that a marker of a level selects depends on the sections above only. -/
theorem bind_sectionOf?_congr {l : HeadingLevel} {marker? : Option Selector}
    (hof : ∀ n, n.number < l.number → s'.sectionOf? n = s.sectionOf? n) :
    (marker?.bind l.markerLevel?).bind s'.sectionOf? = (marker?.bind l.markerLevel?).bind s.sectionOf? := by
  cases hn : marker?.bind l.markerLevel? with
  | none => rfl
  | some n =>
    obtain ⟨marker, -, hm⟩ := Option.bind_eq_some_iff.1 hn
    exact hof n (HeadingLevel.markerLevel?_lt hm)

/-- A section is kept by a change that leaves its series and the sections above it alone, and by
headings further down. -/
theorem Keeps.mono {past' : Outline} {id : SeriesId} {l : HeadingLevel} {v : Series}
    (h : H.Keeps past s id l v) (hr : s.Ranked) (hid : (id, l) ∈ s.sections)
    (hview : ∀ j m, s.level? j = some m → m.number ≤ l.number →
      s'.roster.view? j = s.roster.view? j)
    (hcount : (past'.sinceOuter l).count l = (past.sinceOuter l).count l)
    (hlatest : H.latest? past' l = H.latest? past l)
    (hof : ∀ n, n.number < l.number → s'.sectionOf? n = s.sectionOf? n) :
    H.Keeps past' s' id l v where
  view := (hview id l (mem_sections.1 hid).2 (Nat.le_refl _)).trans h.view
  template := h.template
  count := h.count.trans hcount.symm
  parent := h.parent.trans (bind_sectionOf?_congr hof).symm
  label := by
    obtain ⟨before, hb, ht⟩ := h.label
    exact ⟨before, hlatest.trans hb, (Ranked.bareText_eq hr (mem_sections.1 hid).2 hview).trans ht⟩

theorem Keeps.outer {id : SeriesId} {l m : HeadingLevel} {v : Series} (h : H.Keeps past s id m v)
    (hr : s.Ranked) (hid : (id, m) ∈ s.sections) (hlt : m.number < l.number)
    (hview : ∀ j n, s.level? j = some n → n.number < l.number →
      s'.roster.view? j = s.roster.view? j)
    (hof : ∀ n, n.number < l.number → s'.sectionOf? n = s.sectionOf? n) :
    H.Keeps (l :: past) s' id m v := by
  have hne : m ≠ l := fun he => by rw [he] at hlt; exact Nat.lt_irrefl _ hlt
  exact h.mono hr hid (fun j n hn hnm => hview j n hn (Nat.lt_of_le_of_lt hnm hlt))
    (Outline.count_sinceOuter_of_lt past hlt) (latest?_cons_of_ne hne)
    fun n hn => hof n (Nat.lt_trans hn hlt)

/-- A change that leaves the sections and their series alone. -/
theorem Tracks.of_sections_eq (h : H.Tracks past s) (hr : s'.Ranked)
    (hsec : s'.sections = s.sections)
    (hview : ∀ j, s.level? j ≠ none → s'.roster.view? j = s.roster.view? j) :
    H.Tracks past s' where
  ranked := hr
  sorted := hsec ▸ h.sorted
  opens := hsec ▸ h.opens
  keeps id l hid := by
    rw [hsec] at hid
    obtain ⟨v, hv⟩ := h.keeps id l hid
    exact ⟨v, hv.mono h.ranked hid (fun j m hm _ => hview j (by simp [hm])) rfl rfl
      fun n _ => sectionOf?_congr hsec n⟩

/-! ## One more heading -/

/-- The sections deeper than a level have been closed. -/
structure Closed (H : HeadingScheme) (past : Outline) (l : HeadingLevel) (s : Scope) : Prop where
  ranked : s.Ranked
  sorted : s.sections.Pairwise fun a b => b.2.number < a.2.number
  opens : ∀ m, (∃ id, (id, m) ∈ s.sections) ↔ m.number ≤ l.number ∧ H.Opens past m
  keeps : ∀ id m, (id, m) ∈ s.sections → ∃ v, H.Keeps past s id m v

theorem Tracks.close (h : H.Tracks past s) (l : HeadingLevel) :
    H.Closed past l (s.closeBelow l) := by
  obtain ⟨gone, hsh, -, -⟩ := shrinks_closeBelow s l
  have hsec := h.ranked.sections_closeBelow l
  have hmem : ∀ id m, (id, m) ∈ (s.closeBelow l).sections ↔
      (id, m) ∈ s.sections ∧ m.number ≤ l.number := by
    intro id m
    rw [hsec, List.mem_filter]
    simp
  refine ⟨h.ranked.shrinks hsh, hsec ▸ h.sorted.filter _, fun m => ?_, fun id m hid => ?_⟩
  · rw [← h.opens m]
    constructor
    · rintro ⟨id, hid⟩
      exact ⟨((hmem id m).1 hid).2, id, ((hmem id m).1 hid).1⟩
    · rintro ⟨hle, id, hid⟩
      exact ⟨id, (hmem id m).2 ⟨hid, hle⟩⟩
  · obtain ⟨hid, hle⟩ := (hmem id m).1 hid
    obtain ⟨v, hv⟩ := h.keeps id m hid
    refine ⟨v, hv.mono h.ranked hid (fun j _ _ _ => hsh.view j) rfl rfl fun n hn => ?_⟩
    have hle' : n.number ≤ l.number := Nat.le_trans (Nat.le_of_lt hn) hle
    rw [sectionOf?, hsec, find?_filter_sections (· ≤ l.number) hle', sectionOf?]

/-- The sections above a heading are those of the labelled levels above it. -/
theorem Closed.sectionOf?_isSome {l n : HeadingLevel} (h : H.Closed past l s)
    (hl : H.Labels past l) (hn : n.number < l.number) (hfirst : H.first.number ≤ n.number) :
    ∃ id, (id, n) ∈ s.sections := by
  refine (h.opens n).2 ⟨Nat.le_of_lt hn, hl.2 n (HeadingLevel.mem_all n) hfirst hn, ?_,
    fun j hj h1 h2 => hl.2 j hj h1 (by omega)⟩
  have hs := hl.1
  rw [segment?, if_pos hl.first_le] at hs
  rw [segment?, if_pos hfirst]
  obtain ⟨k, hk⟩ : ∃ k, l.number - H.first.number = n.number - H.first.number + k :=
    ⟨l.number - n.number, by omega⟩
  rw [hk] at hs
  clear hk
  induction k with
  | zero => exact hs
  | succ k ih => exact ih (segmentAt?_isSome_of_succ hs)

theorem latest?_eq_none (past : Outline) {n : HeadingLevel} (h : n.number < H.first.number) :
    H.latest? past n = none := by
  induction past with
  | nil => rfl
  | cons m past ih =>
    rw [latest?, if_neg, ih]
    rintro ⟨rfl, hl⟩
    have := hl.first_le
    omega

/-- The label of the newest heading, once its series counts it. -/
theorem Closed.bareText_newest {l : HeadingLevel} {id : SeriesId} {v : Series}
    (h : H.Closed past l s) (hl : H.Labels past l) (hr : s'.Ranked)
    (hview : ∀ j m, (j, m) ∈ s.sections → m.number < l.number →
      s'.roster.bareText j = s.roster.bareText j)
    (hv : s'.roster.view? id = some v)
    (ht : H.template.below? (l.number - H.first.number) = some v.template.template)
    (hcount : v.count = past.number l)
    (hp : v.parent = (v.segment.parent.bind l.markerLevel?).bind s.sectionOf?) :
    s'.roster.bareText id = H.coreLabel past l := by
  have hseg : H.segment? l = some v.segment := by
    rw [segment?_eq_map hl.first_le, ht]
    rfl
  rw [Roster.bareText_eq, hv, coreLabel_eq, hseg]
  dsimp only
  cases v.segment.style with
  | none => rfl
  | some style =>
    dsimp only
    rw [hcount]
    cases hn : v.segment.parent.bind l.markerLevel? with
    | none =>
      rw [hn] at hp
      rw [hp]
      rfl
    | some n =>
      obtain ⟨marker, -, hm⟩ := Option.bind_eq_some_iff.1 hn
      have hlt := HeadingLevel.markerLevel?_lt hm
      rw [hn, Option.bind_some] at hp
      rw [hp]
      by_cases hfirst : H.first.number ≤ n.number
      · obtain ⟨p, hps⟩ := h.sectionOf?_isSome hl hlt hfirst
        have hof := sectionOf?_of_mem h.sorted hps
        obtain ⟨w, hw⟩ := h.keeps p n hps
        obtain ⟨before, hb, hbt⟩ := hw.label
        have hpid := hr.older id v p hv (hp.trans hof)
        rw [hof]
        dsimp only
        rw [if_pos hpid, hview p n hps hlt, hbt, hb]
      · have hnone : s.sectionOf? n = none := sectionOf?_eq_none.2 fun p hps => by
          have := ((h.opens n).1 ⟨p, hps⟩).2.2.first_le
          omega
        have hpast := latest?_eq_none past (Nat.lt_of_not_ge hfirst)
        rw [hnone]
        dsimp only
        rw [hpast]

/-- A heading that stays without a label only closes deeper sections. -/
theorem Closed.unlabelled {l : HeadingLevel} (h : H.Closed past l s) (hl : ¬H.Labels past l) :
    H.Tracks (l :: past) s where
  ranked := h.ranked
  sorted := h.sorted
  opens m := by
    rw [h.opens m, opens_cons]
    constructor
    · rintro ⟨hle, hopen⟩
      rcases Nat.lt_or_ge m.number l.number with hlt | hge
      · exact Or.inr ⟨hlt, hopen⟩
      · have heq : m = l := HeadingLevel.ext (Nat.le_antisymm hle hge)
        exact absurd (heq ▸ hopen.2) hl
    · rintro (⟨-, hl'⟩ | ⟨hlt, hopen⟩)
      · exact absurd hl' hl
      · exact ⟨Nat.le_of_lt hlt, hopen⟩
  keeps id m hid := by
    obtain ⟨hle, hopen⟩ := (h.opens m).1 ⟨id, hid⟩
    have hne : m ≠ l := fun heq => hl (heq ▸ hopen.2)
    have hlt : m.number < l.number :=
      Nat.lt_of_le_of_ne hle fun heq => hne (HeadingLevel.ext heq)
    obtain ⟨v, hv⟩ := h.keeps id m hid
    exact ⟨v, hv.outer h.ranked hid hlt (fun _ _ _ _ => rfl) fun _ _ => rfl⟩

/-- A heading that has a label, once its series has counted it and stands innermost. -/
theorem Closed.counted {l : HeadingLevel} {id : SeriesId} {v : Series} (h : H.Closed past l s)
    (hl : H.Labels past l) (hr : s'.Ranked)
    (hsec : s'.sections = (id, l) :: s.sections.filter fun e => decide (e.2.number < l.number))
    (hview : ∀ j m, s.level? j = some m → m.number < l.number →
      s'.roster.view? j = s.roster.view? j)
    (hv : s'.roster.view? id = some v)
    (ht : H.template.below? (l.number - H.first.number) = some v.template.template)
    (hcount : v.count = past.number l)
    (hp : v.parent = (v.segment.parent.bind l.markerLevel?).bind s.sectionOf?) :
    H.Tracks (l :: past) s' ∧ s'.roster.bareText id = H.coreLabel past l := by
  have hlt : ∀ e ∈ s.sections.filter (fun e => decide (e.2.number < l.number)),
      e.2.number < l.number := fun e he => by simpa using (List.mem_filter.1 he).2
  have hof : ∀ n, n.number < l.number → s'.sectionOf? n = s.sectionOf? n := by
    intro n hn
    have hne : l ≠ n := fun he => by rw [he] at hn; exact Nat.lt_irrefl _ hn
    rw [sectionOf?, hsec, List.find?_cons_of_neg (by simpa using hne), find?_filter_sections (· < l.number) hn, sectionOf?]
  have hlabel : s'.roster.bareText id = H.coreLabel past l := by
    refine h.bareText_newest hl hr (fun j m hj hm => ?_) hv ht hcount hp
    exact Ranked.bareText_eq h.ranked (mem_sections.1 hj).2
      fun i n hn hnm => hview i n hn (Nat.lt_of_le_of_lt hnm hm)
  refine ⟨⟨hr, ?_, fun m => ?_, fun j m hj => ?_⟩, hlabel⟩
  · rw [hsec]
    exact List.pairwise_cons.2 ⟨hlt, h.sorted.filter _⟩
  · rw [opens_cons, hsec]
    constructor
    · rintro ⟨j, hj⟩
      rcases List.mem_cons.1 hj with heq | hj
      · cases heq
        exact Or.inl ⟨rfl, hl⟩
      · exact Or.inr ⟨hlt _ hj, ((h.opens m).1 ⟨j, (List.mem_filter.1 hj).1⟩).2⟩
    · rintro (⟨rfl, -⟩ | ⟨hm, hopen⟩)
      · exact ⟨id, List.mem_cons_self ..⟩
      · obtain ⟨j, hj⟩ := (h.opens m).2 ⟨Nat.le_of_lt hm, hopen⟩
        exact ⟨j, List.mem_cons_of_mem _ (List.mem_filter.2 ⟨hj, by simpa using hm⟩)⟩
  · rw [hsec] at hj
    rcases List.mem_cons.1 hj with heq | hj
    · cases heq
      exact ⟨v, hv, ht, hcount.trans (Outline.count_sinceOuter_self past l).symm,
        hp.trans (bind_sectionOf?_congr hof).symm, past, latest?_cons_self hl, hlabel⟩
    · have hm := hlt _ hj
      have hj := (List.mem_filter.1 hj).1
      obtain ⟨w, hw⟩ := h.keeps j m hj
      exact ⟨w, hw.outer h.ranked hj hm hview hof⟩

end HeadingScheme
end Rubric
