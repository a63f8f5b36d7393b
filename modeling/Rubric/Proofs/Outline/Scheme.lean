import Rubric.Template.Basic

/-!
# Numbering headings by what came before

The labels of the headings of a document, from the levels of the headings in front of each alone.

* `Template.segmentAt? t n` : the segment of the level `n` below the outermost, which is that of the
  template `Template.below? t n`;
* `Outline` : the levels of the headings met so far, the latest first; `sinceOuter past l` : those
  behind the last heading of a smaller level than `l`;
* `HeadingScheme` : the first level that is labelled, and the template;
* `Labels past l` : a heading of level `l` that follows `past` has a label; `number past l` : its
  number; `coreLabel past l`, `label past l` : its label, without affixes and in full;
* `opens_cons` : the sections that are open behind one more heading.
-/

namespace Rubric

def HeadingLevel.all : List HeadingLevel := [⟨1, by decide, by decide⟩, ⟨2, by decide, by decide⟩,
  ⟨3, by decide, by decide⟩, ⟨4, by decide, by decide⟩, ⟨5, by decide, by decide⟩,
  ⟨6, by decide, by decide⟩]

theorem HeadingLevel.mem_all (l : HeadingLevel) : l ∈ all := by
  obtain ⟨n, h1, h6⟩ := l
  have : n = 1 ∨ n = 2 ∨ n = 3 ∨ n = 4 ∨ n = 5 ∨ n = 6 := by omega
  rcases this with rfl | rfl | rfl | rfl | rfl | rfl <;> simp [all]

theorem HeadingLevel.number_outer? {l m : HeadingLevel} (h : l.outer? = some m) :
    m.number = l.number - 1 := number_of_ofNat? h

theorem HeadingLevel.exists_outer? {l : HeadingLevel} (h : 1 < l.number) :
    ∃ m, l.outer? = some m ∧ m.number + 1 = l.number := by
  have h6 := l.le_six
  refine ⟨⟨l.number - 1, by omega, by omega⟩, ?_, ?_⟩
  · rw [outer?, ofNat?, dif_pos ⟨by omega, by omega⟩]
  · show l.number - 1 + 1 = l.number
    omega

/-- The level of the outer label that a marker asks for in headings of a level. -/
def HeadingLevel.markerLevel? (l : HeadingLevel) : Selector → Option HeadingLevel
  | .heading => l.outer?
  | .level n => if n.number < l.number then some n else none
  | .any | .list => none

theorem HeadingLevel.markerLevel?_lt {l n : HeadingLevel} {marker : Selector}
    (h : l.markerLevel? marker = some n) : n.number < l.number := by
  cases marker with
  | heading =>
    have := number_outer? h
    have := n.one_le
    omega
  | level m =>
    rw [markerLevel?] at h
    split at h
    · cases h
      assumption
    · cases h
  | any => cases h
  | list => cases h

/-- The segment of the level so many levels below the outermost. The last segment of a template that
repeats serves all further levels. -/
def Template.segmentAt? (t : Template) (n : Nat) : Option Segment :=
  t.segments[n]? <|> if t.repeats then t.segments.getLast? else none

/-- The template of the level so many levels further down. -/
def Template.below? (t : Template) : Nat → Option Template
  | 0 => some t
  | n + 1 => t.child?.bind fun child => child.below? n

theorem Template.below?_succ (t : Template) (n : Nat) :
    t.below? (n + 1) = (t.below? n).bind child? := by
  induction n generalizing t with
  | zero => simp [below?]
  | succ n ih =>
    rw [below?, below?]
    cases t.child? with
    | none => rfl
    | some child => exact ih child

theorem Template.map_segment_below? (t : Template) (n : Nat) :
    (t.below? n).map segment = t.segmentAt? n := by
  induction n generalizing t with
  | zero => simp [below?, segmentAt?, segments]
  | succ n ih =>
    obtain ⟨s, deeper, repeats⟩ := t
    cases deeper with
    | cons s' rest =>
      rw [below?, child?, Option.bind_some, ih]
      simp [segmentAt?, segments]
    | nil =>
      cases repeats with
      | false => simp [below?, child?, segmentAt?, segments]
      | true =>
        rw [below?, child?, if_pos rfl, Option.bind_some, ih]
        cases n <;> simp [segmentAt?, segments]

theorem Template.segment_mem_of_below? {t u : Template} {n : Nat} (h : t.below? n = some u) :
    u.segment ∈ t.segments := by
  have hat := map_segment_below? t n
  rw [h, Option.map_some, segmentAt?, Option.orElse_eq_orElse, Option.orElse_eq_or] at hat
  rcases Option.or_eq_some_iff.1 hat.symm with hget | ⟨-, hlast⟩
  · exact List.mem_of_getElem? hget
  · split at hlast
    · exact List.mem_of_getLast? hlast
    · cases hlast

/-- The levels of the headings met so far, the latest first. -/
abbrev Outline := List HeadingLevel

namespace Outline

/-- The headings behind the last one of a smaller level. -/
def sinceOuter (past : Outline) (l : HeadingLevel) : Outline :=
  past.takeWhile fun m => decide (l.number ≤ m.number)

/-- The number of a heading among those of its level behind the last one of a smaller level. -/
def number (past : Outline) (l : HeadingLevel) : Nat := (past.sinceOuter l).count l + 1

theorem sinceOuter_cons_of_le {past : Outline} {l m : HeadingLevel} (h : l.number ≤ m.number) :
    sinceOuter (m :: past) l = m :: past.sinceOuter l := by
  simp [sinceOuter, h]

theorem sinceOuter_cons_of_lt {past : Outline} {l m : HeadingLevel} (h : m.number < l.number) :
    sinceOuter (m :: past) l = [] := by
  have : ¬l.number ≤ m.number := by omega
  simp [sinceOuter, this]

theorem mem_sinceOuter_cons {past : Outline} {l m : HeadingLevel} :
    l ∈ sinceOuter (m :: past) l ↔ l = m ∨ l.number < m.number ∧ l ∈ past.sinceOuter l := by
  by_cases hle : l.number ≤ m.number
  · rw [sinceOuter_cons_of_le hle, List.mem_cons]
    by_cases heq : l = m
    · simp [heq]
    · have hlt : l.number < m.number := by
        rcases Nat.lt_or_ge l.number m.number with h | h
        · exact h
        · exact absurd (HeadingLevel.ext (Nat.le_antisymm hle h)) heq
      simp [heq, hlt]
  · rw [sinceOuter_cons_of_lt (by omega)]
    have hne : l ≠ m := fun h => hle (h ▸ Nat.le_refl _)
    have hnl : ¬l.number < m.number := by omega
    simp [hne, hnl]

theorem count_sinceOuter_self (past : Outline) (l : HeadingLevel) :
    (sinceOuter (l :: past) l).count l = past.number l := by
  rw [sinceOuter_cons_of_le (Nat.le_refl _), List.count_cons_self, number]

theorem count_sinceOuter_of_lt (past : Outline) {l m : HeadingLevel} (h : l.number < m.number) :
    (sinceOuter (m :: past) l).count l = (past.sinceOuter l).count l := by
  have hne : m ≠ l := fun hm => by rw [hm] at h; omega
  rw [sinceOuter_cons_of_le (Nat.le_of_lt h), List.count_cons_of_ne hne]

end Outline

/-- How the headings of a document are numbered. -/
structure HeadingScheme where
  /-- The first level whose headings are labelled. -/
  first : HeadingLevel
  template : Template

namespace HeadingScheme
variable (H : HeadingScheme)

/-- The segment for the headings of a level. -/
def segment? (l : HeadingLevel) : Option Segment :=
  if H.first.number ≤ l.number then H.template.segmentAt? (l.number - H.first.number) else none

/-- A heading has a label if there is a segment for its level, and the sections of all levels from the
first one down to its own are open. -/
def Labels (past : Outline) (l : HeadingLevel) : Prop :=
  (H.segment? l).isSome ∧ ∀ j ∈ HeadingLevel.all,
    H.first.number ≤ j.number → j.number < l.number → j ∈ past.sinceOuter j

instance (past : Outline) (l : HeadingLevel) : Decidable (H.Labels past l) :=
  inferInstanceAs (Decidable (_ ∧ ∀ j ∈ HeadingLevel.all, _ → _ → _))

/-- What came before the latest labelled heading of a level. -/
def latest? : Outline → HeadingLevel → Option Outline
  | [], _ => none
  | m :: past, l => if m = l ∧ H.Labels past l then some past else latest? past l

theorem length_latest? {past before : Outline} {l : HeadingLevel}
    (h : H.latest? past l = some before) : before.length < past.length := by
  induction past with
  | nil => cases h
  | cons m past ih =>
    rw [latest?] at h
    split at h
    · cases h
      exact Nat.lt_succ_self _
    · exact Nat.lt_succ_of_lt (ih h)

/-- The label of a heading without affixes: its number, behind the label of the latest labelled
heading of the level that the marker asks for and the separator, if that label is not empty. -/
def coreLabel (past : Outline) (l : HeadingLevel) : String :=
  match H.segment? l with
  | none => ""
  | some segment =>
    match segment.style with
    | none => ""
    | some style =>
      let own := style.format (past.number l)
      match segment.parent.bind l.markerLevel? with
      | none => own
      | some n =>
        match _ : H.latest? past n with
        | none => own
        | some before =>
          let outer := coreLabel before n
          if outer.isEmpty then own else outer ++ segment.separator ++ own
termination_by past.length
decreasing_by exact length_latest? H ‹_›

theorem coreLabel_eq (past : Outline) (l : HeadingLevel) :
    H.coreLabel past l =
      match H.segment? l with
      | none => ""
      | some segment =>
        match segment.style with
        | none => ""
        | some style =>
          match segment.parent.bind l.markerLevel? with
          | none => style.format (past.number l)
          | some n =>
            match H.latest? past n with
            | none => style.format (past.number l)
            | some before =>
              if (H.coreLabel before n).isEmpty then style.format (past.number l)
              else H.coreLabel before n ++ segment.separator ++ style.format (past.number l) := by
  rw [coreLabel]
  cases H.segment? l with
  | none => rfl
  | some segment =>
    dsimp only
    cases segment.style with
    | none => rfl
    | some style =>
      dsimp only
      cases segment.parent.bind l.markerLevel? with
      | none => rfl
      | some n =>
        dsimp only
        split <;> rename_i hb <;> rw [hb]

/-- The label of a heading that follows others. -/
def label (past : Outline) (l : HeadingLevel) : Option String :=
  if H.Labels past l then
    (H.segment? l).map fun segment => segment.before ++ H.coreLabel past l ++ segment.after
  else none

def labels : Outline → List HeadingLevel → List (Option String)
  | _, [] => []
  | past, l :: rest => H.label past l :: labels (l :: past) rest

@[simp] theorem length_labels (past : Outline) (ls : List HeadingLevel) :
    (H.labels past ls).length = ls.length := by
  induction ls generalizing past with
  | nil => rfl
  | cons l rest ih => rw [labels, List.length_cons, ih, List.length_cons]

theorem labels_append (past : Outline) (ls ms : List HeadingLevel) :
    H.labels past (ls ++ ms) = H.labels past ls ++ H.labels (ls.reverse ++ past) ms := by
  induction ls generalizing past with
  | nil => rfl
  | cons l rest ih => simp [labels, ih]

/-! ## Open sections -/

variable {H}

/-- The section of a level is open behind the headings met so far, and its heading has a label. -/
def Opens (H : HeadingScheme) (past : Outline) (l : HeadingLevel) : Prop :=
  l ∈ past.sinceOuter l ∧ H.Labels past l

theorem Labels.first_le {past : Outline} {l : HeadingLevel} (h : H.Labels past l) :
    H.first.number ≤ l.number := by
  rcases Nat.lt_or_ge l.number H.first.number with hlt | hle
  · have hs := h.1
    rw [segment?, if_neg (by omega)] at hs
    cases hs
  · exact hle

/-- The segment of a level is the first one of the template for that level. -/
theorem segment?_eq_map {l : HeadingLevel} (hl : H.first.number ≤ l.number) :
    H.segment? l = (H.template.below? (l.number - H.first.number)).map Template.segment := by
  rw [segment?, if_pos hl, Template.map_segment_below?]

/-- A heading opens or closes only sections of its own level and further down. -/
theorem labels_cons {past : Outline} {l m : HeadingLevel} (h : l.number ≤ m.number) :
    H.Labels (m :: past) l ↔ H.Labels past l := by
  unfold Labels
  refine and_congr_right fun _ => ?_
  constructor
  · intro hall j hj h1 h2
    have hmem := hall j hj h1 h2
    rw [Outline.sinceOuter_cons_of_le (by omega), List.mem_cons] at hmem
    exact hmem.resolve_left fun hjm => by rw [hjm] at h2; omega
  · intro hall j hj h1 h2
    rw [Outline.sinceOuter_cons_of_le (by omega)]
    exact List.mem_cons_of_mem _ (hall j hj h1 h2)

theorem opens_cons {past : Outline} {l m : HeadingLevel} :
    H.Opens (m :: past) l ↔ l = m ∧ H.Labels past m ∨ l.number < m.number ∧ H.Opens past l := by
  unfold Opens
  rw [Outline.mem_sinceOuter_cons]
  constructor
  · rintro ⟨rfl | ⟨hlt, hmem⟩, hl⟩
    · exact Or.inl ⟨rfl, (labels_cons (Nat.le_refl _)).1 hl⟩
    · exact Or.inr ⟨hlt, hmem, (labels_cons (Nat.le_of_lt hlt)).1 hl⟩
  · rintro (⟨rfl, hl⟩ | ⟨hlt, hmem, hl⟩)
    · exact ⟨Or.inl rfl, (labels_cons (Nat.le_refl _)).2 hl⟩
    · exact ⟨Or.inr ⟨hlt, hmem⟩, (labels_cons (Nat.le_of_lt hlt)).2 hl⟩

theorem Opens.not_nil {l : HeadingLevel} : ¬H.Opens [] l := fun h => by
  have := h.1
  simp [Outline.sinceOuter] at this

theorem segmentAt?_isSome_of_succ {t : Template} {n : Nat} (h : (t.segmentAt? (n + 1)).isSome) :
    (t.segmentAt? n).isSome := by
  unfold Template.segmentAt? at h ⊢
  cases hr : t.repeats with
  | true =>
    have hlast : (t.segments.getLast?).isSome := by simp [Template.segments]
    cases t.segments[n]? <;> simp_all
  | false =>
    simp only [hr, Bool.false_eq_true, if_false] at h ⊢
    have hlt : n + 1 < t.segments.length := by simpa using h
    simp
    omega

/-- A level is labelled if it is the first one, or the section of the level above is open. -/
theorem labels_iff {past : Outline} {l : HeadingLevel} :
    H.Labels past l ↔ (H.segment? l).isSome ∧
      (l = H.first ∨ ∃ m, l.outer? = some m ∧ H.Opens past m) := by
  constructor
  · intro h
    refine ⟨h.1, ?_⟩
    have hle := h.first_le
    by_cases heq : l = H.first
    · exact Or.inl heq
    · have hlt : H.first.number < l.number := by
        rcases Nat.lt_or_ge H.first.number l.number with h' | h'
        · exact h'
        · exact absurd (HeadingLevel.ext (Nat.le_antisymm h' hle)) heq
      have h1 := H.first.one_le
      obtain ⟨m, hm, hml⟩ := HeadingLevel.exists_outer? (l := l) (by omega)
      have hopen : m ∈ past.sinceOuter m := h.2 m (HeadingLevel.mem_all m) (by omega) (by omega)
      refine Or.inr ⟨m, hm, hopen, ?_, fun j hj hj1 hj2 => h.2 j hj hj1 (by omega)⟩
      have hs := h.1
      rw [segment?, if_pos hle, show l.number - H.first.number = m.number - H.first.number + 1 by
        omega] at hs
      rw [segment?, if_pos (by omega)]
      exact segmentAt?_isSome_of_succ hs
  · rintro ⟨hs, rfl | ⟨m, hm, hopen⟩⟩
    · exact ⟨hs, fun j _ h1 h2 => by omega⟩
    · refine ⟨hs, fun j hj h1 h2 => ?_⟩
      have hml := HeadingLevel.number_outer? hm
      by_cases hjm : j = m
      · exact hjm ▸ hopen.1
      · have hne : j.number ≠ m.number := fun h => hjm (HeadingLevel.ext h)
        exact hopen.2.2 j hj h1 (by omega)

theorem latest?_cons_self {past : Outline} {l : HeadingLevel} (h : H.Labels past l) :
    H.latest? (l :: past) l = some past := by
  rw [latest?, if_pos ⟨rfl, h⟩]

theorem latest?_cons_of_ne {past : Outline} {l m : HeadingLevel} (h : l ≠ m) :
    H.latest? (m :: past) l = H.latest? past l := by
  rw [latest?, if_neg fun hm => h hm.1.symm]

end HeadingScheme
end Rubric
