import Rubric.Proofs.Series.Inlined
import Rubric.Proofs.Series.Interning

/-!
# The counters of a content value

* `Series.isDrawn` : a stylesheet draws the numbers of the series;
* `Roster.Chain` : the drawn series around a series, up to one that is not drawn, which is left out;
* `Series.behind` : the counter of a series behind the content of the series above it;
  `Roster.contentCore_chain` : so the content of a series is made of its chain, from the outside in, behind the
  label of the series that is left out;
* `Chain.sorted` : keys grow along a chain, in a roster whose keys are numbered;
* `Roster.counters_distinct` : content reads no counter twice.
-/

namespace Rubric

namespace Series

/-- A stylesheet draws the numbers of the series. -/
def isDrawn (v : Series) : Bool := v.styled && v.isNumbered

def counter? (v : Series) : Option ContentPart := v.segment.style.map fun style => .counter v.key style.name

/-- The counter of a series behind the content of the series above it, and the separator between them. -/
def behind (outer : Content) (v : Series) : Content :=
  (if outer.isEmpty then [] else outer ++ Content.ofText v.segment.separator) ++ v.counter?.toList

theorem exists_style {v : Series} (h : v.isDrawn = true) :
    v.styled = true ∧ ∃ style, v.segment.style = some style := by
  obtain ⟨hstyled, hnumbered⟩ := Bool.and_eq_true_iff.1 h
  exact ⟨hstyled, Option.isSome_iff_exists.1 hnumbered⟩

theorem behind_of_style {v : Series} {style : CounterStyle} (h : v.segment.style = some style) (outer : Content) :
    v.behind outer =
      if outer.isEmpty then [.counter v.key style.name]
      else outer ++ Content.ofText v.segment.separator ++ [.counter v.key style.name] := by
  rw [behind, counter?, h]
  split <;> rfl

theorem styleName?_of_drawn {v : Series} (h : v.isDrawn = true) : v.styleName? = some (Css.styleName v.key) :=
  if_pos (exists_style h).1

end Series

/-! ## Names of counters -/

def ContentPart.counterName? : ContentPart → Option String
  | text _ => none
  | counter key _ => some (Css.styleName key)

namespace Content

/-- The names of the counters that content reads, from left to right. -/
def counterNames (x : Content) : List String := x.filterMap ContentPart.counterName?

theorem counterNames_append (x y : Content) : counterNames (x ++ y) = counterNames x ++ counterNames y :=
  List.filterMap_append

theorem counterNames_ofText (s : String) : counterNames (ofText s) = [] := by
  rw [ofText]
  split <;> rfl

theorem counterNames_behind (x : Content) {v : Series} (h : v.isDrawn = true) :
    counterNames (v.behind x) = counterNames x ++ [Css.styleName v.key] := by
  obtain ⟨-, style, hstyle⟩ := Series.exists_style h
  rw [Series.behind_of_style hstyle]
  cases x with
  | nil => rfl
  | cons p x =>
    show counterNames (p :: x ++ ofText v.segment.separator ++ [.counter v.key style.name]) = _
    rw [counterNames_append, counterNames_append, counterNames_ofText, List.append_nil]
    rfl

theorem counterNames_foldl (x : Content) {chain : List Series} (h : ∀ v ∈ chain, v.isDrawn = true) :
    counterNames (chain.foldl Series.behind x) = counterNames x ++ chain.map fun v => Css.styleName v.key := by
  induction chain generalizing x with
  | nil => exact (List.append_nil _).symm
  | cons v chain ih =>
    obtain ⟨hv, hchain⟩ := List.forall_mem_cons.1 h
    rw [List.foldl_cons, ih _ hchain, counterNames_behind x hv, List.append_assoc]
    rfl

end Content

/-! ## Chains -/

namespace Roster

/-- The drawn series from the outermost one to that of a handle, each below the one in front of it, and the
series above them all, if there is one. It is not drawn. -/
inductive Chain (r : Roster) : SeriesId → List Series → Option SeriesId → Prop where
  | root {id : SeriesId} {v : Series} (hv : r.get? id = some v) (hdrawn : v.isDrawn = true)
      (hp : v.parent = none) : Chain r id [v] none
  | under {id p : SeriesId} {v w : Series} (hv : r.get? id = some v) (hdrawn : v.isDrawn = true)
      (hp : v.parent = some p) (hw : r.get? p = some w) (hstop : w.isDrawn = false) : Chain r id [v] (some p)
  | inner {id p : SeriesId} {v : Series} {chain : List Series} {top : Option SeriesId}
      (hv : r.get? id = some v) (hdrawn : v.isDrawn = true) (hp : v.parent = some p)
      (h : Chain r p chain top) : Chain r id (chain ++ [v]) top

section Chain
variable {r : Roster} {id : SeriesId} {chain : List Series} {top : Option SeriesId}

theorem Chain.drawn (h : r.Chain id chain top) : ∀ v ∈ chain, v.isDrawn = true := by
  induction h with
  | root _ hdrawn _ => exact List.forall_mem_singleton.2 hdrawn
  | under _ hdrawn _ _ _ => exact List.forall_mem_singleton.2 hdrawn
  | inner _ hdrawn _ _ ih => exact List.forall_mem_append.2 ⟨ih, List.forall_mem_singleton.2 hdrawn⟩

theorem Chain.ends (h : r.Chain id chain top) :
    ∃ v, r.get? id = some v ∧ v.isDrawn = true ∧ chain.getLast? = some v := by
  cases h with
  | root hv hdrawn => exact ⟨_, hv, hdrawn, rfl⟩
  | under hv hdrawn => exact ⟨_, hv, hdrawn, rfl⟩
  | inner hv hdrawn => exact ⟨_, hv, hdrawn, List.getLast?_concat⟩

/-- Parents are older than their series. -/
def Aged (r : Roster) : Prop := ∀ id v p, r.view? id = some v → v.parent = some p → p < id

theorem exists_chain (hr : r.Aged) {v : Series} (hv : r.get? id = some v) (hdrawn : v.isDrawn = true) :
    ∃ chain top, r.Chain id chain top := by
  induction id using Nat.strongRecOn generalizing v with
  | _ id ih =>
    cases hp : v.parent with
    | none => exact ⟨_, _, .root hv hdrawn hp⟩
    | some p =>
      have hlt : p < id := hr id v.unlinked p (view?_of_get? hv) hp
      obtain ⟨w, hw⟩ : ∃ w, r.get? p = some w := by
        refine Option.ne_none_iff_exists'.1 fun hnone => ?_
        exact (get?_eq_none_iff r p).1 hnone (Nat.lt_trans hlt (has_of_get? hv))
      cases hstop : w.isDrawn with
      | false => exact ⟨_, _, .under hv hdrawn hp hw hstop⟩
      | true =>
        obtain ⟨chain, top, h⟩ := ih p hlt hw hstop
        exact ⟨_, _, .inner hv hdrawn hp h⟩

/-! ## Content along a chain -/

theorem contentCore_undrawn {v : Series} (hv : r.get? id = some v) (h : v.isDrawn = false) :
    r.contentCore id = Content.ofText (r.bareText id) := by
  have hview := view?_of_get? hv
  cases hstyled : v.styled with
  | false =>
    rw [contentCore_unstyled hview hstyled, inlined_unstyled hview hstyled]
  | true =>
    have hliteral : v.segment.style = none := by
      rw [Series.isDrawn, hstyled, Bool.true_and] at h
      exact Option.isNone_iff_eq_none.1 (Option.isSome_eq_false_iff.1 h)
    rw [contentCore_literal hview hliteral, bareText_literal hview hliteral]
    rfl

/-- The content of a drawn series is its counter behind the content of its parent. -/
theorem contentCore_drawn (hr : r.Aged) {v : Series} {p : SeriesId} (hv : r.get? id = some v)
    (hdrawn : v.isDrawn = true) (hp : v.parent = some p) : r.contentCore id = v.behind (r.contentCore p) := by
  obtain ⟨hstyled, style, hstyle⟩ := Series.exists_style hdrawn
  have hview := view?_of_get? hv
  have hbelow := (contentCore_below hview hstyle hstyled hp (hr id _ p hview hp)).1
  rw [hbelow, Series.behind_of_style hstyle]
  rfl

/-- The content of a series is made of its chain, behind the label of the series above. -/
theorem contentCore_chain (hr : r.Aged) (h : r.Chain id chain top) :
    r.contentCore id = chain.foldl Series.behind (Content.ofText (top.elim "" r.bareText)) := by
  induction h with
  | root hv hdrawn hp =>
    obtain ⟨hstyled, style, hstyle⟩ := Series.exists_style hdrawn
    rw [(contentCore_root (view?_of_get? hv) hstyle hstyled hp).1]
    exact (Series.behind_of_style hstyle []).symm
  | under hv hdrawn hp hw hstop =>
    rw [contentCore_drawn hr hv hdrawn hp, contentCore_undrawn hw hstop]
    rfl
  | inner hv hdrawn hp _ ih =>
    rw [contentCore_drawn hr hv hdrawn hp, ih, List.foldl_append, List.foldl_cons, List.foldl_nil]

/-! ## Keys along a chain -/

/-- Keys grow along a chain, up to that of its series. -/
theorem Chain.sorted (hr : r.Numbered) (h : r.Chain id chain top) :
    (chain.map Series.key).Pairwise (· < ·) ∧ ∀ v, r.get? id = some v → ∀ k ∈ chain.map Series.key, k ≤ v.key := by
  induction h with
  | root hv =>
    refine ⟨List.pairwise_singleton _ _, fun w hw => ?_⟩
    cases hv.symm.trans hw
    exact List.forall_mem_singleton.2 (Nat.le_refl _)
  | under hv =>
    refine ⟨List.pairwise_singleton _ _, fun w hw => ?_⟩
    cases hv.symm.trans hw
    exact List.forall_mem_singleton.2 (Nat.le_refl _)
  | @inner id p v chain top hv hdrawn hp h ih =>
    obtain ⟨hsorted, hle⟩ := ih
    obtain ⟨w, hw, hwdrawn, -⟩ := h.ends
    -- the parent is drawn, so the series takes its key into its own
    have hlt : w.key < v.key :=
      hr.lt_key (v := v.unlinked) (w := w.unlinked) (view?_of_get? hv) hp (view?_of_get? hw) fun _ =>
        (Series.exists_style hwdrawn).1
    have hbelow : ∀ k ∈ chain.map Series.key, k < v.key := fun k hk => Nat.lt_of_le_of_lt (hle w hw k hk) hlt
    rw [List.map_append, List.map_singleton]
    refine ⟨List.pairwise_append.2 ⟨hsorted, List.pairwise_singleton _ _, ?_⟩, fun u hu => ?_⟩
    · intro k hk k' hk'
      rw [List.mem_singleton.1 hk']
      exact hbelow k hk
    · cases hv.symm.trans hu
      refine List.forall_mem_append.2 ⟨fun k hk => Nat.le_of_lt (hbelow k hk), ?_⟩
      exact List.forall_mem_singleton.2 (Nat.le_refl _)

end Chain

/-- After any operations, each of which hangs new series below earlier ones: the content of a series whose
numbers a stylesheet draws reads no counter twice, and its own last. The counters are those of the chain around
the series, from the outside in, behind the label of the first series above that has no counter, if there is
one with a label. -/
theorem counters_distinct (operations : List Operation) (hf : Founded {} operations) {id : SeriesId} {v : Series}
    (hv : (({} : Roster).perform operations).get? id = some v) (hdrawn : v.isDrawn = true) :
    let r := ({} : Roster).perform operations
    let names := (r.contentCore id).counterNames
    names.Nodup ∧ names.getLast? = v.styleName? ∧
      ∃ chain top, r.Chain id chain top ∧ names.map some = chain.map Series.styleName? ∧
        r.contentCore id = chain.foldl Series.behind (Content.ofText (top.elim "" r.bareText)) := by
  intro r names
  have hnumbered : r.Numbered := Numbered.empty.perform hf
  obtain ⟨chain, top, hchain⟩ := exists_chain hnumbered.older hv hdrawn
  have hcore := contentCore_chain hnumbered.older hchain
  have hnames : names = chain.map fun v => Css.styleName v.key := by
    show Content.counterNames (r.contentCore id) = _
    rw [hcore, Content.counterNames_foldl _ hchain.drawn, Content.counterNames_ofText, List.nil_append]
  have hkeys : (chain.map Series.key).Nodup := (hchain.sorted hnumbered).1.imp Nat.ne_of_lt
  refine ⟨?_, ?_, chain, top, hchain, ?_, hcore⟩
  · have hmap : (chain.map fun v => Css.styleName v.key) = (chain.map Series.key).map Css.styleName := by
      rw [List.map_map]
      rfl
    rw [hnames, hmap]
    exact hkeys.map fun _ _ => Css.styleName_injective
  · obtain ⟨w, hw, -, hlast⟩ := hchain.ends
    cases hv.symm.trans hw
    rw [hnames, List.getLast?_map, hlast, Series.styleName?_of_drawn hdrawn]
    rfl
  · rw [hnames, List.map_map]
    exact List.map_congr_left fun w hw => (Series.styleName?_of_drawn (hchain.drawn w hw)).symm

/-- A list in a list below the first section, which goes in as text. -/
theorem counters_distinct_nested :
    let chapter : Template.Instance := ⟨{ segment := { style := some Registry.decimal } }, 0, 0⟩
    let list : Template.Instance :=
      ⟨{ segment := { separator := ".", parent := some .heading, style := some Registry.decimal } }, 1, 0⟩
    let operations : List Operation :=
      [.create (.heading ⟨1, by decide, by decide⟩) chapter none false, .increment 0,
        .create .orderedList list (some 0) true, .create .orderedList list (some 1) true]
    let r := ({} : Roster).perform operations
    let names := (r.contentCore 2).counterNames
    Founded {} operations ∧ ∃ v, r.get? 2 = some v ∧ v.isDrawn = true ∧
      names = ["la-label1", "la-label2"] ∧ names.Nodup ∧ names.getLast? = v.styleName? ∧
        r.contentCore 2 = [.text "1", .text ".", .counter 1 "decimal", .text ".", .counter 2 "decimal"] := by
  intro chapter list operations r names
  have hf : Founded {} operations := by decide +kernel
  have hcore : r.contentCore 2 =
      [.text "1", .text ".", .counter 1 "decimal", .text ".", .counter 2 "decimal"] := by decide +kernel
  have hdrawn : (r.get? 2).any Series.isDrawn = true := by decide +kernel
  obtain ⟨v, hv, hv'⟩ := (Option.any_eq_true _ _).1 hdrawn
  obtain ⟨hnodup, hlast, -⟩ := counters_distinct operations hf hv hv'
  refine ⟨hf, v, hv, hv', ?_, hnodup, hlast, hcore⟩
  show Content.counterNames (r.contentCore 2) = _
  rw [hcore]
  decide

end Roster
end Rubric
