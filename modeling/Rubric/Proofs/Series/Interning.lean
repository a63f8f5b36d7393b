import Rubric.Proofs.Series.Keys

/-!
# Which series share a key

* `Roster.Operation`, `Roster.perform` : starting series, counting and forgetting links, in any order;
  `Roster.Founded` : each new series hangs below one that has been started before;
* `Creation`, `Roster.creations` : the series that operations start, each with the roster at that moment;
* `Creation.SameParent` : two series have no parent, or parents of one key, or parents that go in as one text;
* `Roster.Numbered` : the keys of a roster are told apart, come in order of first use, and say what their
  series are. `Numbered.run` : every operation keeps that; `Made.run` : and the series that have been created;
* `Roster.keys_identify` : series share a key just if they have been created alike.
-/

namespace Rubric

namespace Roster

/-! ## Operations -/

/-- The operations on a roster. -/
inductive Operation where
  | create (kind : ElementKind) (template : Template.Instance) (parent : Option SeriesId) (styled : Bool)
  | increment (id : SeriesId)
  | releaseChildren (id : SeriesId)

def Operation.run (r : Roster) : Operation → Roster
  | create kind template parent styled => (r.create kind template parent styled).2
  | increment id => r.increment id
  | releaseChildren id => (r.releaseChildren id).2

def perform (r : Roster) (operations : List Operation) : Roster := operations.foldl Operation.run r

def Operation.Founded (r : Roster) : Operation → Prop
  | create _ _ parent _ => ∀ p ∈ parent, r.Has p
  | increment _ | releaseChildren _ => True

/-- The parents of all new series have been started before them. -/
def Founded : Roster → List Operation → Prop
  | _, [] => True
  | r, operation :: rest => operation.Founded r ∧ Founded (operation.run r) rest

instance (r : Roster) (id : SeriesId) : Decidable (r.Has id) := inferInstanceAs (Decidable (id < r.series.size))

instance (r : Roster) : (operation : Operation) → Decidable (operation.Founded r)
  | .create _ _ parent _ => inferInstanceAs (Decidable (∀ p ∈ parent, r.Has p))
  | .increment _ | .releaseChildren _ => inferInstanceAs (Decidable True)

instance decidableFounded : (r : Roster) → (operations : List Operation) → Decidable (Founded r operations)
  | _, [] => inferInstanceAs (Decidable True)
  | r, operation :: rest =>
    have := decidableFounded (operation.run r) rest
    inferInstanceAs (Decidable (operation.Founded r ∧ Founded (operation.run r) rest))

/-! ## Creations -/

end Roster

/-- A series as it is created, and the roster at that moment. -/
structure Creation where
  roster : Roster
  kind : ElementKind
  template : Template.Instance
  parent : Option SeriesId
  styled : Bool

namespace Creation

/-- The parent gives its key: a series of either mode if no stylesheet draws the new one, or else one that a
stylesheet draws. -/
def Shares (a : Creation) (v : Series) : Prop :=
  ∃ p, a.parent = some p ∧ a.roster.get? p = some v ∧ (a.styled = true → v.styled = true)

/-- The parent gives the text that it shows at present: no stylesheet draws it, but the new series. -/
def Inlines (a : Creation) (label : String) : Prop :=
  ∃ p v, a.parent = some p ∧ a.roster.get? p = some v ∧ a.styled = true ∧ v.styled = false ∧
    a.roster.bareText p = label

/-- The parents of two new series are equivalent. -/
inductive SameParent (a b : Creation) : Prop where
  | none (ha : a.parent = none) (hb : b.parent = none)
  | key {v w : Series} (ha : a.Shares v) (hb : b.Shares w) (h : v.key = w.key)
  | text {label : String} (ha : a.Inlines label) (hb : b.Inlines label)

/-- What makes the series equivalent to others. -/
def key (a : Creation) : SeriesKey := a.roster.nextKey a.template a.parent a.styled

def Founded (a : Creation) : Prop := ∀ p, a.parent = some p → a.roster.Has p

variable {a b : Creation}

theorem identity_of_shares {v : Series} (h : a.Shares v) :
    a.roster.parentIdentity a.parent a.styled = .shared v.key := by
  obtain ⟨p, hp, hv, hstyled⟩ := h
  rw [hp, Roster.parentIdentity, hv]
  refine if_neg fun hboth => ?_
  rw [Bool.and_eq_true] at hboth
  rw [hstyled hboth.1] at hboth
  cases hboth.2

theorem identity_of_inlines {label : String} (h : a.Inlines label) :
    a.roster.parentIdentity a.parent a.styled = .text label := by
  obtain ⟨p, v, hp, hv, ha, hstyled, rfl⟩ := h
  rw [hp, Roster.parentIdentity, hv, ha]
  exact if_pos (by rw [hstyled]; rfl)

theorem Founded.cases (h : a.Founded) :
    a.parent = none ∨ (∃ v, a.Shares v) ∨ ∃ label, a.Inlines label := by
  cases hp : a.parent with
  | none => exact Or.inl rfl
  | some p =>
    obtain ⟨v, hv⟩ : ∃ v, a.roster.get? p = some v := by
      obtain ⟨w, hw⟩ := Roster.exists_view? (h p hp)
      obtain ⟨v, hv, -⟩ := Roster.get?_of_view? hw
      exact ⟨v, hv⟩
    cases hstyled : v.styled with
    | true => exact Or.inr (Or.inl ⟨v, p, hp, hv, fun _ => hstyled⟩)
    | false =>
      cases ha : a.styled with
      | true => exact Or.inr (Or.inr ⟨_, p, v, hp, hv, ha, hstyled, rfl⟩)
      | false => exact Or.inr (Or.inl ⟨v, p, hp, hv, fun h => by rw [ha] at h; cases h⟩)

theorem identity_of_none (h : a.parent = none) : a.roster.parentIdentity a.parent a.styled = .none := by
  rw [h]
  rfl

/-- What a parent adds to a key tells whether parents are equivalent. -/
theorem Founded.identity_eq_iff (ha : a.Founded) (hb : b.Founded) :
    a.roster.parentIdentity a.parent a.styled = b.roster.parentIdentity b.parent b.styled ↔
      a.SameParent b := by
  constructor
  · intro h
    rcases ha.cases with hp | ⟨v, hv⟩ | ⟨label, hl⟩ <;>
      rcases hb.cases with hp' | ⟨w, hw⟩ | ⟨label', hl'⟩
    · exact .none hp hp'
    · rw [identity_of_none hp, identity_of_shares hw] at h
      cases h
    · rw [identity_of_none hp, identity_of_inlines hl'] at h
      cases h
    · rw [identity_of_shares hv, identity_of_none hp'] at h
      cases h
    · rw [identity_of_shares hv, identity_of_shares hw] at h
      exact .key hv hw (ParentIdentity.shared.inj h)
    · rw [identity_of_shares hv, identity_of_inlines hl'] at h
      cases h
    · rw [identity_of_inlines hl, identity_of_none hp'] at h
      cases h
    · rw [identity_of_inlines hl, identity_of_shares hw] at h
      cases h
    · rw [identity_of_inlines hl, identity_of_inlines hl'] at h
      exact .text hl (ParentIdentity.text.inj h ▸ hl')
  · rintro (⟨hp, hp'⟩ | ⟨hv, hw, hkey⟩ | ⟨hl, hl'⟩)
    · rw [identity_of_none hp, identity_of_none hp']
    · rw [identity_of_shares hv, identity_of_shares hw, hkey]
    · rw [identity_of_inlines hl, identity_of_inlines hl']

theorem Founded.key_eq_iff (ha : a.Founded) (hb : b.Founded) :
    a.key = b.key ↔ a.template.place = b.template.place ∧ a.styled = b.styled ∧ a.SameParent b := by
  rw [← ha.identity_eq_iff hb, key, key, Roster.nextKey, Roster.nextKey, SeriesKey.mk.injEq]
  exact and_congr_right fun _ => and_comm

end Creation

namespace Roster

def Operation.creation? (r : Roster) : Operation → Option Creation
  | create kind template parent styled => some ⟨r, kind, template, parent, styled⟩
  | increment _ | releaseChildren _ => none

def creations : Roster → List Operation → List Creation
  | _, [] => []
  | r, operation :: rest => (operation.creation? r).toList ++ creations (operation.run r) rest

/-! ## Numbers of keys -/

/-- The keys of all series, in order. -/
def keyNumbers (r : Roster) : List Nat := r.series.toList.map Series.key

theorem getElem?_keyNumbers (r : Roster) (id : SeriesId) : r.keyNumbers[id]? = (r.view? id).map Series.key := by
  rw [keyNumbers, List.getElem?_map, Array.getElem?_toList, view?, get?]
  cases r.series[id]? <;> rfl

theorem keyNumbers_congr {r r' : Roster}
    (h : ∀ id, (r'.view? id).map Series.key = (r.view? id).map Series.key) : r'.keyNumbers = r.keyNumbers := by
  refine List.ext_getElem? fun id => ?_
  rw [getElem?_keyNumbers, getElem?_keyNumbers, h]

theorem keyNumbers_create (r : Roster) (kind : ElementKind) (template : Template.Instance)
    (parent : Option SeriesId) (styled : Bool) :
    (r.create kind template parent styled).2.keyNumbers =
      r.keyNumbers ++ [(r.number (r.nextKey template parent styled)).1] := by
  have hlength : r.keyNumbers.length = r.series.size := by simp [keyNumbers]
  refine List.ext_getElem? fun id => ?_
  rw [getElem?_keyNumbers, view?_create]
  rcases Nat.lt_trichotomy id r.series.size with hlt | heq | hgt
  · rw [if_neg (Nat.ne_of_lt hlt), List.getElem?_append_left (hlength ▸ hlt), getElem?_keyNumbers]
  · rw [if_pos heq, heq, ← hlength, List.getElem?_concat_length]
    rfl
  · have hnone : r.get? id = none := (get?_eq_none_iff r id).2 (Nat.not_lt.2 (Nat.le_of_lt hgt))
    rw [if_neg (Nat.ne_of_gt hgt), view?, hnone, List.getElem?_eq_none (by simp [hlength]; omega)]
    rfl

/-- A list of numbers, each of which is new or the next one. -/
theorem eraseDups_concat_range {numbers : List Nat} {n k : Nat} (h : numbers.eraseDups = List.range n)
    (hk : k ≤ n) : (numbers ++ [k]).eraseDups = List.range (max n (k + 1)) := by
  have hmem : k ∈ numbers ↔ k < n := by rw [← List.mem_eraseDups, h, List.mem_range]
  rw [List.eraseDups_append, h, List.removeAll]
  by_cases hlt : k < n
  · have hfilter : [k].filter (fun x => !numbers.elem x) = [] := by simp [hmem.2 hlt]
    rw [hfilter, Nat.max_eq_left hlt]
    simp
  · obtain rfl : k = n := Nat.le_antisymm hk (Nat.not_lt.1 hlt)
    have hfilter : [k].filter (fun x => !numbers.elem x) = [k] := by simp [hmem]
    rw [hfilter, Nat.max_eq_right (Nat.le_succ k), List.range_succ]
    rfl

/-- Keys are told apart, numbered in order of first use, and say what their series are. -/
structure Numbered (r : Roster) : Prop where
  older : ∀ id v p, r.view? id = some v → v.parent = some p → p < id
  keyed : ∀ id v, r.view? id = some v → r.Keyed v
  ordered : r.Ordered
  nodup : r.keys.Nodup
  first : r.keyNumbers.eraseDups = List.range r.keys.length

namespace Numbered
variable {r r' : Roster}

theorem empty : Numbered {} where
  older _ _ _ h := by simp [view?, get?] at h
  keyed _ _ h := by simp [view?, get?] at h
  ordered _ _ _ _ h := by simp at h
  nodup := List.nodup_nil
  first := rfl

theorem of_view (h : r.Numbered) (hgrows : r.Grows r') (hkeys : r'.keys = r.keys)
    (hview : ∀ id v, r'.view? id = some v → ∃ w, r.view? id = some w ∧ v = { w with count := v.count }) :
    r'.Numbered where
  older id v p hv hp := by
    obtain ⟨w, hw, heq⟩ := hview id v hv
    rw [heq] at hp
    exact h.older id w p hw hp
  keyed id v hv := by
    obtain ⟨w, hw, heq⟩ := hview id v hv
    rw [heq]
    exact (h.keyed id w hw).mono hgrows v.count
  ordered n k place styled hn := h.ordered n k place styled (hkeys ▸ hn)
  nodup := hkeys ▸ h.nodup
  first := by
    rw [hkeys, ← h.first]
    refine congrArg List.eraseDups (keyNumbers_congr fun id => ?_)
    cases hv : r'.view? id with
    | none =>
      cases hw : r.view? id with
      | none => rfl
      | some w =>
        obtain ⟨n, hn⟩ := hgrows.view id w hw
        rw [hv] at hn
        cases hn
    | some v =>
      obtain ⟨w, hw, heq⟩ := hview id v hv
      rw [hw, heq]
      rfl

theorem increment (h : r.Numbered) (id : SeriesId) : (r.increment id).Numbered := by
  refine h.of_view (r.grows_increment id) rfl fun j v hv => ?_
  rw [view?_increment] at hv
  obtain ⟨w, hw, rfl⟩ := Option.map_eq_some_iff.1 hv
  refine ⟨w, hw, ?_⟩
  split <;> rfl

theorem clearChildren (h : r.Numbered) (id : SeriesId) : (r.clearChildren id).Numbered :=
  h.of_view (.of_view_eq (fun j => view?_clearChildren r id j) rfl) rfl fun j v hv =>
    ⟨v, (view?_clearChildren r id j).symm.trans hv, rfl⟩

theorem create (h : r.Numbered) (kind : ElementKind) (template : Template.Instance)
    {parent : Option SeriesId} (styled : Bool) (hparent : ∀ p, parent = some p → r.Has p) :
    (r.create kind template parent styled).2.Numbered where
  older id v p hv hp := by
    rw [view?_create] at hv
    split at hv
    · rename_i hid
      cases hv
      exact hid ▸ hparent p hp
    · exact h.older id v p hv hp
  keyed := keyed_create h.keyed kind template parent styled hparent
  ordered := Ordered.create h.keyed h.ordered kind template parent styled
  nodup := by
    rw [keys_create, number]
    split
    · exact h.nodup
    · rename_i hnone
      have hnew := h.nodup.concat (List.idxOf?_eq_none_iff.1 hnone)
      rwa [List.concat_eq_append] at hnew
  first := by
    rw [keyNumbers_create, keys_create, number]
    split
    · rename_i n hn
      obtain ⟨hlt, -⟩ := List.idxOf?_eq_some_iff.1 hn
      rw [eraseDups_concat_range h.first (Nat.le_of_lt hlt), Nat.max_eq_left hlt]
    · rw [eraseDups_concat_range h.first (Nat.le_refl _), Nat.max_eq_right (Nat.le_succ _)]
      simp

/-- No operation loses track of the keys. -/
theorem run (h : r.Numbered) {operation : Operation} (hf : operation.Founded r) :
    (operation.run r).Numbered := by
  cases operation with
  | create kind template parent styled => exact h.create kind template styled hf
  | increment id => exact h.increment id
  | releaseChildren id => exact h.clearChildren id

theorem perform (h : r.Numbered) {operations : List Operation} (hf : Founded r operations) :
    (r.perform operations).Numbered := by
  induction operations generalizing r with
  | nil => exact h
  | cons operation rest ih => exact ih (h.run hf.1) hf.2

theorem lt_key (h : r.Numbered) {id p : SeriesId} {v w : Series} (hv : r.view? id = some v)
    (hp : v.parent = some p) (hw : r.view? p = some w) (hstyled : v.styled = true → w.styled = true) :
    w.key < v.key := by
  obtain ⟨identity, hkey, hid⟩ := h.keyed id v hv
  rw [Identifies, hp] at hid
  obtain ⟨w', hw', hid⟩ := hid
  cases hw.symm.trans hw'
  refine h.ordered v.key w.key v.template.place v.styled ?_
  rw [hkey]
  split at hid
  · rename_i hboth
    rw [Bool.and_eq_true] at hboth
    rw [hstyled hboth.1] at hboth
    cases hboth.2
  · rw [hid]

end Numbered

/-! ## Series and their creations -/

/-- The series of a handle is as it has been created, and its key is what it was then. -/
structure Made (r : Roster) (a : Creation) (v : Series) : Prop where
  founded : a.Founded
  template : v.template = a.template
  parent : v.parent = a.parent
  styled : v.styled = a.styled
  key : r.keys[v.key]? = some a.key

theorem Made.mono {r r' : Roster} {a : Creation} {v : Series} (h : r.Made a v) (hr : r.Grows r') (n : Nat) :
    r'.Made a { v with count := n } := ⟨h.founded, h.template, h.parent, h.styled, hr.key h.key⟩

theorem made_newSeries (r : Roster) (kind : ElementKind) (template : Template.Instance)
    (parent : Option SeriesId) (styled : Bool) (hparent : ∀ p, parent = some p → r.Has p) :
    (r.create kind template parent styled).2.Made ⟨r, kind, template, parent, styled⟩
      (r.newSeries kind template parent styled) := by
  refine ⟨hparent, rfl, rfl, rfl, ?_⟩
  rw [keys_create]
  exact keys_number_self ..

theorem Operation.grows (r : Roster) (operation : Operation) : r.Grows (operation.run r) := by
  cases operation with
  | create kind template parent styled => exact r.grows_create kind template parent styled
  | increment id => exact r.grows_increment id
  | releaseChildren id => exact .of_view_eq (fun j => view?_clearChildren r id j) rfl

theorem grows_perform (r : Roster) (operations : List Operation) : r.Grows (r.perform operations) := by
  induction operations generalizing r with
  | nil => exact .refl r
  | cons operation rest ih => exact (operation.grows r).trans (ih _)

/-- The series of an operation comes behind those that are there, and is as it has been created. -/
theorem Operation.size_run (r : Roster) (operation : Operation) :
    (operation.run r).series.size = r.series.size + (operation.creation? r).toList.length := by
  cases operation with
  | create kind template parent styled => exact r.size_create kind template parent styled
  | increment id => exact r.size_increment id
  | releaseChildren id => exact r.size_clearChildren id

theorem Operation.made {r : Roster} {operation : Operation} (hf : operation.Founded r) {a : Creation}
    (ha : operation.creation? r = some a) :
    ∃ v, (operation.run r).view? r.series.size = some v ∧ (operation.run r).Made a v := by
  cases operation with
  | create kind template parent styled =>
    cases ha
    exact ⟨_, r.view?_create_self kind template parent styled,
      r.made_newSeries kind template parent styled hf⟩
  | increment | releaseChildren => cases ha

/-- A run starts one series for each creation, with the next handle, and leaves it as it has been created. -/
theorem made_perform {r : Roster} {operations : List Operation} (hf : Founded r operations) :
    (r.perform operations).series.size = r.series.size + (creations r operations).length ∧
      ∀ i a, (creations r operations)[i]? = some a →
        ∃ v, (r.perform operations).view? (r.series.size + i) = some v ∧ (r.perform operations).Made a v := by
  induction operations generalizing r with
  | nil => exact ⟨rfl, fun i a h => by simp [creations] at h⟩
  | cons operation rest ih =>
    obtain ⟨hsize, hmade⟩ := ih hf.2
    have hrun := operation.size_run r
    rw [creations]
    refine ⟨?_, fun i a h => ?_⟩
    · rw [List.length_append, ← Nat.add_assoc, ← hrun]
      exact hsize
    · by_cases hi : i < (operation.creation? r).toList.length
      · -- the series of the first operation, which the others leave alone
        rw [List.getElem?_append_left hi] at h
        obtain ⟨rfl, ha⟩ : i = 0 ∧ operation.creation? r = some a := by
          cases hc : operation.creation? r with
          | none =>
            rw [hc] at hi
            cases hi
          | some b =>
            rw [hc] at h hi
            obtain rfl : i = 0 := Nat.lt_one_iff.1 hi
            exact ⟨rfl, h⟩
        obtain ⟨v, hv, hm⟩ := operation.made hf.1 ha
        have hgrows := grows_perform (operation.run r) rest
        obtain ⟨n, hn⟩ := hgrows.view _ v hv
        exact ⟨_, hn, hm.mono hgrows n⟩
      · rw [List.getElem?_append_right (Nat.not_lt.1 hi)] at h
        obtain ⟨v, hv, hm⟩ := hmade _ a h
        have hplace : (operation.run r).series.size + (i - (operation.creation? r).toList.length) =
            r.series.size + i := by
          have hle := Nat.not_lt.1 hi
          omega
        exact ⟨v, hplace ▸ hv, hm⟩

theorem Numbered.key_eq_iff {r : Roster} (h : r.Numbered) {a b : Creation} {v w : Series} (ha : r.Made a v)
    (hb : r.Made b w) : v.key = w.key ↔ a.key = b.key := by
  have hlt := (List.getElem?_eq_some_iff.1 ha.key).1
  rw [← List.getElem?_inj hlt h.nodup, ha.key, hb.key, Option.some_inj]

/-- After any operations, each of which hangs new series below earlier ones: the series are the created ones,
in order. Two of them have one key just if they have been created with templates of one place (which are
equal if they are of one context), in one mode, below equivalent parents. The keys are 0, 1, 2 and so on in
order of first use, the names of styles are told apart just as the keys are, and a key is greater than one
that the parent gives. -/
theorem keys_identify (operations : List Operation) (hf : Founded {} operations) :
    let r := ({} : Roster).perform operations
    let made := creations {} operations
    made.length = r.series.size ∧
      (∀ id a v, made[id]? = some a → r.get? id = some v →
        v.template = a.template ∧ v.parent = a.parent ∧ v.styled = a.styled) ∧
      (∀ id id' a b v w, made[id]? = some a → made[id']? = some b →
        r.get? id = some v → r.get? id' = some w →
          ((v.key = w.key ↔ a.template.place = b.template.place ∧ a.styled = b.styled ∧ a.SameParent b) ∧
            ∀ c : Template.Context, c.Holds a.template → c.Holds b.template →
              (a.template.place = b.template.place ↔ a.template = b.template))) ∧
      (∃ n, (r.series.toList.map Series.key).eraseDups = List.range n) ∧
      (∀ id id' v w, r.get? id = some v → r.get? id' = some w → v.styled = true → w.styled = true →
        (v.styleName? = w.styleName? ↔ v.key = w.key)) ∧
      ∀ id p v w, r.get? id = some v → v.parent = some p → r.get? p = some w →
        (v.styled = true → w.styled = true) → w.key < v.key := by
  intro r made
  have hnumbered : r.Numbered := Numbered.empty.perform hf
  obtain ⟨hsize, hmade⟩ := made_perform hf
  have hmade : ∀ id a v, made[id]? = some a → r.get? id = some v → r.Made a v.unlinked := by
    intro id a v ha hv
    obtain ⟨w, hw, hm⟩ := hmade id a ha
    have hid : ({} : Roster).series.size + id = id := Nat.zero_add id
    rw [hid] at hw
    cases (view?_of_get? hv).symm.trans hw
    exact hm
  refine ⟨?_, ?_, ?_, ?_, ?_, ?_⟩
  · exact (hsize.trans (Nat.zero_add _)).symm
  · intro id a v ha hv
    have hm := hmade id a v ha hv
    exact ⟨hm.template, hm.parent, hm.styled⟩
  · intro id id' a b v w ha hb hv hw
    have hm := hmade id a v ha hv
    have hm' := hmade id' b w hb hw
    exact ⟨(hnumbered.key_eq_iff hm hm').trans (hm.founded.key_eq_iff hm'.founded),
      fun c hc hc' => ⟨hc.eq_of_place hc', congrArg _⟩⟩
  · exact ⟨r.keys.length, hnumbered.first⟩
  · intro id id' v w _ _ hv hw
    rw [Series.styleName?, Series.styleName?, hv, hw, if_pos rfl, if_pos rfl, Option.some_inj]
    exact ⟨Css.styleName_injective, congrArg _⟩
  · intro id p v w hv hp hw hstyled
    exact hnumbered.lt_key (v := v.unlinked) (w := w.unlinked) (view?_of_get? hv) hp (view?_of_get? hw) hstyled

/-- Three lists below sections that go in as text, two of them in the same section. -/
theorem keys_identify_sections :
    let chapter : Template.Instance := ⟨{ segment := { style := some Registry.decimal } }, 0, 0⟩
    let list : Template.Instance :=
      ⟨{ segment := { separator := ".", parent := some .heading, style := some Registry.decimal } }, 1, 0⟩
    let operations : List Operation :=
      [.create (.heading ⟨1, by decide, by decide⟩) chapter none false, .increment 0, .create .orderedList list (some 0) true,
        .create .orderedList list (some 0) true, .increment 0, .create .orderedList list (some 0) true]
    Founded {} operations ∧ ∃ a b c, (creations {} operations)[1]? = some a ∧
      (creations {} operations)[2]? = some b ∧ (creations {} operations)[3]? = some c ∧
        a.SameParent b ∧ ¬a.SameParent c := by
  intro chapter list operations
  have hf : Founded {} operations := by decide +kernel
  have hkeys : ∀ i < 4, (({} : Roster).perform operations).keyNumbers[i]? = [0, 1, 1, 2][i]? := by
    decide +kernel
  have hkey : ∀ {i n}, i < 4 → [0, 1, 1, 2][i]? = some n →
      ∃ v, (({} : Roster).perform operations).get? i = some v ∧ v.key = n := by
    intro i n hi hn
    have hview := (hkeys i hi).trans hn
    rw [getElem?_keyNumbers] at hview
    obtain ⟨w, hw, rfl⟩ := Option.map_eq_some_iff.1 hview
    obtain ⟨v, hv, rfl⟩ := get?_of_view? hw
    exact ⟨v, hv, rfl⟩
  obtain ⟨v₁, hv₁, hk₁⟩ := hkey (i := 1) (by decide) rfl
  obtain ⟨v₂, hv₂, hk₂⟩ := hkey (i := 2) (by decide) rfl
  obtain ⟨v₃, hv₃, hk₃⟩ := hkey (i := 3) (by decide) rfl
  have hsame := (keys_identify operations hf).2.2.1
  refine ⟨hf, _, _, _, rfl, rfl, rfl, ?_, fun h => ?_⟩
  · exact ((hsame 1 2 _ _ _ _ rfl rfl hv₁ hv₂).1.1 (hk₁.trans hk₂.symm)).2.2
  · have heq := (hsame 1 3 _ _ _ _ rfl rfl hv₁ hv₃).1.2 ⟨rfl, rfl, h⟩
    rw [hk₁, hk₃] at heq
    cases heq

end Roster
end Rubric
