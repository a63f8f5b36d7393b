import Rubric.Proofs.Stylesheet.Consistency
import Rubric.Proofs.Stylesheet.Items
import Rubric.Proofs.Template.Styles

/-!
# Counters inside of lists

* `Roster.Surrounds r e ids` : the lists `e` around an item are those that the series `ids` draw, each at
  the position of its count, with lists that nothing labels in between;
* `Roster.Nested r ids` : each of these series hangs below a series of the sections, or below the next
  one further out that shows numbers;
* `Coherent.shown_core` : the content of such a series shows its label, as no list in between has the class
  of an outer one;
* `Coherent.shown_content` : so does the whole content of the innermost one.
-/

namespace Rubric

namespace Roster
variable {r r' : Roster} {e : List ListPlace} {ids : List SeriesId}

def numbers (r : Roster) (id : SeriesId) : Bool := (r.view? id).any Series.isNumbered

/-- The lists around an item are those that series draw, at the positions that they have counted. -/
inductive Surrounds (r : Roster) : List ListPlace → List SeriesId → Prop where
  | nil : Surrounds r [] []
  /-- Nothing labels the innermost list. -/
  | bare {l : ListPlace} {e : List ListPlace} {ids : List SeriesId}
    (hclasses : l.1.styleClasses = []) (h : Surrounds r e ids) : Surrounds r (l :: e) ids
  /-- A series draws the innermost list. -/
  | drawn {attrs : Attrs} {v : Series} {id : SeriesId} {e : List ListPlace} {ids : List SeriesId}
    (hclasses : attrs.styleClasses = [(Css.styleName v.key).toList]) (hv : r.view? id = some v)
    (hcount : 0 < v.count) (h : Surrounds r e ids) : Surrounds r ((attrs, v.count) :: e) (id :: ids)

/-- Each series is that of a list. It hangs below a series that no stylesheet draws, or below the next
one further out that shows numbers. -/
def Nested (r : Roster) : List SeriesId → Prop
  | [] => True
  | id :: rest =>
    (∃ v, r.view? id = some v ∧ v.styled = true ∧ v.kind.isList = true ∧
      ∀ p, v.parent = some p → r.StyledAs false p ∨ rest.find? r.numbers = some p) ∧ Nested r rest

theorem Surrounds.congr (h : r.Surrounds e ids) (hview : ∀ id ∈ ids, r'.view? id = r.view? id) :
    r'.Surrounds e ids := by
  induction h with
  | nil => exact .nil
  | bare hclasses _ ih => exact .bare hclasses (ih hview)
  | drawn hclasses hv hcount _ ih =>
    refine .drawn hclasses ((hview _ (List.mem_cons_self ..)).trans hv) hcount (ih fun id hid => ?_)
    exact hview id (List.mem_cons_of_mem _ hid)

theorem Nested.find?_grows (h : r.Nested ids) (hg : r.Grows r') :
    ids.find? r'.numbers = ids.find? r.numbers := by
  induction ids with
  | nil => rfl
  | cons id rest ih =>
    obtain ⟨⟨v, hv, -⟩, hrest⟩ := h
    obtain ⟨n, hn⟩ := hg.view id v hv
    have hid : r'.numbers id = r.numbers id := by
      rw [numbers, numbers, hv, hn]
      rfl
    rw [List.find?_cons, List.find?_cons, hid, ih hrest]

theorem Nested.grows (h : r.Nested ids) (hg : r.Grows r') : r'.Nested ids := by
  induction ids with
  | nil => trivial
  | cons id rest ih =>
    obtain ⟨⟨v, hv, hstyled, hlist, hparent⟩, hrest⟩ := h
    obtain ⟨n, hn⟩ := hg.view id v hv
    refine ⟨⟨_, hn, hstyled, hlist, fun p hp => ?_⟩, ih hrest⟩
    exact (hparent p hp).imp hg.styledAs (hrest.find?_grows hg).trans

theorem Nested.of_mem (h : r.Nested ids) {id : SeriesId} (hid : id ∈ ids) :
    ∃ v, r.view? id = some v ∧ v.styled = true ∧ v.kind.isList = true := by
  induction ids with
  | nil => cases hid
  | cons j rest ih =>
    obtain ⟨⟨v, hv, hstyled, hlist, -⟩, hrest⟩ := h
    rcases List.mem_cons.1 hid with rfl | hid
    · exact ⟨v, hv, hstyled, hlist⟩
    · exact ih hrest hid

theorem Nested.of_append {pre post : List SeriesId} {p : SeriesId} (h : r.Nested (pre ++ p :: post)) :
    r.Nested (p :: post) := by
  induction pre with
  | nil => exact h
  | cons q rest ih => exact ih h.2

/-- The position in the list of a series, if no list further in has its class. -/
theorem Surrounds.position?_eq {pre post : List SeriesId} {p : SeriesId} {v : Series}
    (h : r.Surrounds e (pre ++ p :: post)) (hv : r.view? p = some v)
    (hpre : ∀ q ∈ pre, ∀ w, r.view? q = some w → w.key ≠ v.key) :
    ListPlace.position? e v.key = some v.count := by
  generalize hids : pre ++ p :: post = ids at h
  induction h generalizing pre with
  | nil => simp at hids
  | @bare l e ids hclasses _ ih =>
    have hnot : l.1.hasClass (Css.styleName v.key) = false := by
      rw [Bool.eq_false_iff, ne_eq, Attrs.hasClass_styleName, hclasses]
      exact List.not_mem_nil
    rw [ListPlace.position?, List.find?_cons_of_neg (by simp [hnot])]
    exact ih hpre hids
  | @drawn attrs w id e ids hclasses hw _ _ ih =>
    cases pre with
    | nil =>
      obtain ⟨rfl, -⟩ := List.cons.inj hids
      rw [hv] at hw
      cases hw
      have hclass : attrs.hasClass (Css.styleName v.key) = true := by
        rw [Attrs.hasClass_styleName, hclasses]
        exact List.mem_singleton_self _
      rw [ListPlace.position?, List.find?_cons_of_pos (by exact hclass)]
      rfl
    | cons q pre =>
      obtain ⟨rfl, htail⟩ := List.cons.inj hids
      have hnot : attrs.hasClass (Css.styleName v.key) = false := by
        rw [Bool.eq_false_iff, ne_eq, Attrs.hasClass_styleName, hclasses, List.mem_singleton]
        intro heq
        exact hpre q (List.mem_cons_self ..) w hw (Css.styleName_injective (String.toList_inj.1 heq)).symm
      rw [ListPlace.position?, List.find?_cons_of_neg (by simp [hnot])]
      exact ih (fun q' hq' => hpre q' (List.mem_cons_of_mem _ hq')) htail

end Roster

namespace State
open Roster
variable {d : Defaults} {t : State} {e : List ListPlace} {ids : List SeriesId}

theorem Coherent.key_ne (h : t.Coherent d) {p q : SeriesId} {v w : Series}
    (hv : t.scope.roster.view? p = some v) (hw : t.scope.roster.view? q = some w)
    (hnumbered : v.isNumbered = true) (hliteral : w.isNumbered = false) : w.key ≠ v.key := by
  intro hkey
  have hplaced := h.placed (.refl t)
  have htemplate := hplaced.template_eq hplaced hw hv hkey
  rw [Series.isNumbered, Series.segment, htemplate] at hliteral
  rw [Series.isNumbered, Series.segment, hliteral] at hnumbered
  cases hnumbered

theorem Coherent.key_lt (h : t.Coherent d) {p id : SeriesId} {v w : Series}
    (hv : t.scope.roster.view? id = some v) (hp : v.parent = some p)
    (hw : t.scope.roster.view? p = some w) (hstyled : w.styled = true) : w.key < v.key := by
  obtain ⟨identity, hkey, hid⟩ := h.keyed id v hv
  unfold Identifies at hid
  rw [hp] at hid
  obtain ⟨w', hw', hidentity⟩ := hid
  rw [hw] at hw'
  cases hw'
  rw [hstyled, Bool.not_true, Bool.and_false, if_neg Bool.false_ne_true] at hidentity
  rw [hidentity] at hkey
  exact h.ordered _ _ _ _ hkey

/-- The counter of a list shows the number in the label, which is not empty. The lists further in that show
numbers have later keys, and the others no key of one that does. -/
theorem Coherent.shown_counter (h : t.Coherent d) {pre post : List SeriesId} {p : SeriesId}
    (hsurrounds : t.scope.roster.Surrounds e (pre ++ p :: post)) {v : Series}
    (hv : t.scope.roster.view? p = some v) {style : CounterStyle} (hs : v.segment.style = some style)
    (hpre : ∀ q ∈ pre, ∀ w, t.scope.roster.view? q = some w → w.isNumbered = true → v.key < w.key) :
    Content.shown? (ListPlace.position? e) [.counter v.key style.name] = some (style.format v.count) ∧
      style.format v.count ≠ "" := by
  have hnumbered : v.isNumbered = true := by rw [Series.isNumbered, Segment.isNumbered, hs]; rfl
  have hkeys : ∀ q ∈ pre, ∀ w, t.scope.roster.view? q = some w → w.key ≠ v.key := by
    intro q hq w hw
    cases hwn : w.isNumbered with
    | true => exact Nat.ne_of_gt (hpre q hq w hw hwn)
    | false => exact h.key_ne hv hw hnumbered hwn
  have hmem := (h.held p v hv).style_mem hs
  exact ⟨Content.shown?_counter (hsurrounds.position?_eq hv hkeys) hmem, Registry.format_ne_empty hmem v.count⟩

/-- The lists up to the one above in the label that show numbers have later keys than that one. -/
theorem key_lt_between {pre pre' : List SeriesId} {p : SeriesId} {v : Series} {key : Nat} (hkey : key < v.key)
    (hv : t.scope.roster.view? p = some v)
    (hpre : ∀ q ∈ pre, ∀ w, t.scope.roster.view? q = some w → w.isNumbered = true → v.key < w.key)
    (hpre' : ∀ q ∈ pre', !t.scope.roster.numbers q) :
    ∀ q ∈ pre ++ p :: pre', ∀ w, t.scope.roster.view? q = some w → w.isNumbered = true → key < w.key := by
  intro q hq w hw hnumbered
  rcases List.mem_append.1 hq with hq | hq
  · exact Nat.lt_trans hkey (hpre q hq w hw hnumbered)
  · rcases List.mem_cons.1 hq with rfl | hq
    · rw [hv] at hw
      cases hw
      exact hkey
    · have hliteral := hpre' q hq
      rw [numbers, hw, Option.any_some, hnumbered] at hliteral
      cases hliteral

/-- A counter behind other content shows its number behind the label of the other, if that has one. -/
theorem shown_behind {position? : Nat → Option Nat} {above own : Content} {label separator text : String}
    (hlabel : above.shown? position? = some label) (hempty : above.isEmpty = label.isEmpty)
    (hown : own.shown? position? = some text) (hne : text ≠ "") (hsome : own.isEmpty = false) :
    Content.shown? position? (if above.isEmpty then own else above ++ Content.ofText separator ++ own) =
        some (if label.isEmpty then text else label ++ separator ++ text) ∧
      (if above.isEmpty then own else above ++ Content.ofText separator ++ own).isEmpty =
        (if label.isEmpty then text else label ++ separator ++ text).isEmpty := by
  have hfull : ∀ lead : String, (lead ++ text).isEmpty = false := fun lead =>
    Bool.eq_false_iff.2 (mt String.isEmpty_iff.1 (Numeral.append_ne_empty_right hne))
  rw [hempty]
  cases label.isEmpty with
  | true => exact ⟨hown, by simpa [hsome] using hne⟩
  | false =>
    refine ⟨Content.shown?_append (Content.shown?_append hlabel (Content.shown?_ofText _ separator)) hown, ?_⟩
    rw [if_neg Bool.false_ne_true, if_neg Bool.false_ne_true, hfull, List.isEmpty_eq_false_iff]
    exact List.append_ne_nil_of_right_ne_nil _ (List.isEmpty_eq_false_iff.1 hsome)

/-- The content of a series inside of lists shows its label. -/
theorem Coherent.shown_core (h : t.Coherent d) (hnested : t.scope.roster.Nested ids)
    (hsurrounds : t.scope.roster.Surrounds e ids) {pre post : List SeriesId} {p : SeriesId}
    {v : Series} (hids : ids = pre ++ p :: post) (hv : t.scope.roster.view? p = some v)
    (hpre : ∀ q ∈ pre, ∀ w, t.scope.roster.view? q = some w → w.isNumbered = true → v.key < w.key) :
    Content.shown? (ListPlace.position? e) (t.scope.roster.contentCore p) = some (t.scope.roster.bareText p) ∧
      (t.scope.roster.contentCore p).isEmpty = (t.scope.roster.bareText p).isEmpty := by
  induction p using Nat.strongRecOn generalizing pre post v with
  | ind p ih =>
    subst hids
    obtain ⟨⟨v', hv', hstyled, -, hparent⟩, -⟩ := hnested.of_append
    rw [hv] at hv'
    cases hv'
    cases hs : v.segment.style with
    | none =>
      rw [contentCore_literal hv hs, bareText_literal hv hs]
      exact ⟨rfl, rfl⟩
    | some style =>
      obtain ⟨hown, hne⟩ := h.shown_counter hsurrounds hv hs hpre
      cases hp : v.parent with
      | none =>
        rw [(contentCore_root hv hs hstyled hp).1, bareText_eq, hv]
        simp only [hs, hp]
        exact ⟨hown, (Bool.eq_false_iff.2 (mt String.isEmpty_iff.1 hne)).symm⟩
      | some p' =>
        have hlt := h.sound.older p v p' hv hp
        rw [(contentCore_below hv hs hstyled hp hlt).1, bareText_eq, hv]
        simp only [hs, hp, hlt, if_true]
        -- the label of the series above, be it text or counters
        rcases hparent p' hp with ⟨w, hw, hunstyled⟩ | hfind
        · rw [contentCore_unstyled hw hunstyled, inlined_unstyled hw hunstyled]
          exact shown_behind (Content.shown?_ofText _ _) (Content.ofText_isEmpty _) hown hne rfl
        · obtain ⟨hnumbers, pre', post', rfl, hbetween⟩ := List.find?_eq_some_iff_append.1 hfind
          obtain ⟨w, hw, hws, -⟩ := hnested.of_mem (by simp : p' ∈ pre ++ p :: (pre' ++ p' :: post'))
          have hsplit : pre ++ p :: (pre' ++ p' :: post') = (pre ++ p :: pre') ++ p' :: post' := by
            simp
          obtain ⟨hlabel, hempty⟩ := ih p' hlt hsplit hw
            (key_lt_between (h.key_lt hv hp hw hws) hv hpre hbetween)
          exact shown_behind hlabel hempty hown hne rfl

/-- The content of the innermost list shows its label. -/
theorem Coherent.shown_content (h : t.Coherent d) {id : SeriesId}
    (hnested : t.scope.roster.Nested (id :: ids)) (hsurrounds : t.scope.roster.Surrounds e (id :: ids)) :
    (t.scope.roster.content id).shown? (ListPlace.position? e) = some (t.scope.roster.text id) := by
  obtain ⟨v, hv, -⟩ := hnested.of_mem (List.mem_cons_self ..)
  obtain ⟨hcore, -⟩ := h.shown_core hnested hsurrounds (List.nil_append _).symm hv (by simp)
  rw [content_eq, text_eq, hv, Option.elim_some, Option.elim_some]
  exact Content.shown?_append (Content.shown?_append (Content.shown?_ofText ..) hcore)
    (Content.shown?_ofText ..)

end State
end Rubric
