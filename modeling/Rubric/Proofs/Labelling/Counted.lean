import Rubric.Proofs.Labelling.Lineage

/-!
# What a reference may count

* `Roster.count` : how many elements a series has numbered; `Turn.counts` : an event adds the one that it numbers;
* `Moment.begins?`, `Event.leaves?` : the series of the list that a walk comes to, or leaves;
* `Moment.mem_stack` : how a series has come into scope;
* `Begun` : a list with a series has been come to, and none of its items has been numbered so far;
* `Labelling.count_eq_zero_iff` : these are the series in scope that have not counted anything;
* `Labelling.filled_counted` : so a reference shows the number of an element, unless it gets it at such a list or
  in it, in front of the first item with a number.
-/

namespace Rubric

namespace Roster
variable {r r' : Roster} {id : SeriesId}

def count (r : Roster) (id : SeriesId) : Nat := (r.get? id).elim 0 Series.count

theorem count_eq (r : Roster) (id : SeriesId) : r.count id = (r.view? id).elim 0 Series.count := by
  rw [count, view?]
  cases r.get? id <;> rfl

theorem count_congr (h : r'.view? id = r.view? id) : r'.count id = r.count id := by
  rw [count_eq, h, count_eq]

theorem count_size (r : Roster) : r.count r.series.size = 0 := by
  have hnone : r.get? r.series.size = none := (get?_eq_none_iff _ _).2 (Nat.lt_irrefl _)
  rw [count, hnone]
  rfl

theorem count_increment (h : r.Has id) (j : SeriesId) :
    (r.increment id).count j = r.count j + if id = j then 1 else 0 := by
  by_cases hj : id = j
  · obtain ⟨v, hv⟩ := exists_view? h
    rw [← hj, count_eq, view?_increment, count_eq, hv]
    simp
  · rw [if_neg hj]
    exact count_congr (view?_increment_of_ne (Ne.symm hj))

end Roster

/-! ## What an event counts -/

namespace Scope
variable {s s' : Scope}

theorem Shrinks.count {gone : List SeriesId} (h : Shrinks s s' gone) (id : SeriesId) :
    s'.roster.count id = s.roster.count id := Roster.count_congr (h.view id)

theorem count_opened (s : Scope) (old : Option SeriesId) (kind : ElementKind) (template : Template.Instance)
    (styled : Bool) (id : SeriesId) :
    (s.opened old kind template styled).roster.count id = s.roster.count id := by
  rw [Roster.count_eq, view?_opened]
  split
  · rename_i hid
    rw [hid, Roster.count_size]
    rfl
  · rw [Roster.count_eq]

end Scope

namespace Walk

/-- The series with which the list of an event begins. -/
def Event.begins? (d : Defaults) : Event → State → Option SeriesId
  | list kind tag attrs, s => (enterList d kind tag attrs s).2.1.map ListState.series
  | heading .., _ | item .., _ | element .., _ | leaveItem _, _ | leaveList _, _ => none

/-- The series of the list that an event ends. -/
def Event.leaves? : Event → Option SeriesId
  | leaveList l => some l.series
  | heading .. | list .. | item .. | element .. | leaveItem _ => none

namespace Turn
open Scope
variable {s s' : Scope} {e : Event} {own : Option SeriesId}

/-- An event counts the element that it numbers, and no other. -/
theorem counts (h : Turn s e own s') (hfits : e.Fits s.roster) (hs : s.Sound) (id : SeriesId) :
    s'.roster.count id = s.roster.count id + if own = some id then 1 else 0 := by
  obtain ⟨gone, hsh⟩ := e.shrinks_lookup s
  have hopened : ∀ old {kind template styled},
      (((e.lookup s).opened old kind template styled).increment (e.lookup s).roster.series.size).roster.count id =
        s.roster.count id + if some (e.lookup s).roster.series.size = some id then 1 else 0 := by
    intro old kind template styled
    have hnew : ((e.lookup s).opened old kind template styled).roster.Has (e.lookup s).roster.series.size :=
      Roster.has_of_view? ((view?_opened ..).trans (if_pos rfl))
    rw [Scope.increment, Roster.count_increment hnew, count_opened, hsh.count]
    simp only [Option.some.injEq]
  cases h with
  | close => exact hsh.count id
  | @count level tag attrs old hfind =>
    have hold : (s.closeBelow level).roster.Has old := (hs.shrinks hsh).has old (findKind?_mem hfind)
    have hsame : (s.closeBelow level).roster.count id = s.roster.count id := hsh.count id
    rw [Scope.increment, Roster.count_increment hold, hsame]
    simp only [Option.some.injEq]
  | @restart level tag attrs old template => exact hopened (some old)
  | start template => exact hopened none
  | bareList | element | skip => rfl
  | list template styled => exact count_opened s none _ template styled id
  | countItem kind l attrs =>
    obtain ⟨v, hv, -⟩ := hfits.2
    rw [Scope.increment, Roster.count_increment (Roster.has_of_view? hv)]
    simp only [Option.some.injEq]
  | @restartItem kind l attrs template styled => exact hopened (some l.series)
  | leaveItem l =>
    obtain ⟨gone, hsh, -⟩ := shrinks_endBelow s l.series
    exact hsh.count id
  | leaveList l => exact (shrinks_remove s l.series).count id

/-- A series in scope behind an event has been there before, and the event is not the end of its list, or it is
new and numbers the element or is that of a list. -/
theorem mem_stack (h : Turn s e own s') {id : SeriesId} (hid : id ∈ s'.stack) :
    id ∈ s.stack ∧ e.leaves? ≠ some id ∨ own = some id ∨ ∃ kind tag attrs, e = .list kind tag attrs := by
  obtain ⟨gone, hsh⟩ := e.shrinks_lookup s
  have hkept : ∀ {j}, j ∈ (e.lookup s).stack → j ∈ s.stack := fun hj => (hsh.mem.1 hj).1
  cases h with
  | close | count => exact Or.inl ⟨hkept hid, Ne.symm (Option.some_ne_none id)⟩
  | @restart level tag attrs old template =>
    by_cases hnew : id = (s.closeBelow level).roster.series.size
    · exact Or.inr (Or.inl (congrArg some hnew.symm))
    · exact Or.inl ⟨hkept (mem_of_replaced _ _ _ hid hnew), Ne.symm (Option.some_ne_none id)⟩
  | @start level tag attrs template =>
    rw [Scope.increment, stack_started] at hid
    rcases List.mem_cons.1 hid with rfl | hid
    · exact Or.inr (Or.inl rfl)
    · exact Or.inl ⟨hkept hid, Ne.symm (Option.some_ne_none id)⟩
  | bareList kind tag attrs | @list kind tag attrs => exact Or.inr (Or.inr ⟨kind, tag, attrs, rfl⟩)
  | element | skip | countItem => exact Or.inl ⟨hid, Ne.symm (Option.some_ne_none id)⟩
  | @restartItem kind l attrs template styled =>
    by_cases hnew : id = s.roster.series.size
    · exact Or.inr (Or.inl (congrArg some hnew.symm))
    · exact Or.inl ⟨mem_of_replaced _ _ _ hid hnew, Ne.symm (Option.some_ne_none id)⟩
  | leaveItem l =>
    obtain ⟨gone, hsh, -⟩ := shrinks_endBelow s l.series
    exact Or.inl ⟨(hsh.mem.1 hid).1, Ne.symm (Option.some_ne_none id)⟩
  | leaveList l =>
    obtain ⟨hmem, hgone⟩ := (shrinks_remove s l.series).mem.1 hid
    refine Or.inl ⟨hmem, fun heq => hgone ?_⟩
    cases heq
    exact List.mem_singleton.2 rfl

end Turn
end Walk

def Moment.begins? (m : Moment) : Option SeriesId := m.event.begins? m.defaults m.before

namespace Moment
open Walk Scope
variable {m : Moment} {id : SeriesId}

theorem begins?_eq (h : m.begins? = some id) :
    m.labelled? = none ∧ id = m.before.scope.roster.series.size := by
  obtain ⟨d, s, e⟩ := m
  cases e with
  | heading | item | element | leaveItem | leaveList => cases h
  | list kind tag attrs =>
    rcases he : enterList d kind tag attrs s with ⟨attrs', _ | l, s'⟩ <;>
      rw [begins?, Event.begins?, he] at h
    · cases h
    · obtain ⟨rfl, -⟩ := scope_enterList_some he
      cases h
      exact ⟨rfl, rfl⟩

/-- A series in scope behind an event has been there before, and the event is not the end of its list, or it
numbers the element, or it is that of the list. -/
theorem mem_stack (hrun : m.before.failure = none) (hid : id ∈ m.after.scope.stack) :
    id ∈ m.before.scope.stack ∧ m.event.leaves? ≠ some id ∨
      m.labelled? = some id ∨ m.begins? = some id := by
  rcases (m.turn hrun).mem_stack hid with hold | hown | ⟨kind, tag, attrs, hlist⟩
  · exact Or.inl hold
  · exact Or.inr (Or.inl hown)
  · obtain ⟨d, s, e⟩ := m
    cases hlist
    have hid : id ∈ (enterList d kind tag attrs s).2.2.scope.stack := hid
    rcases he : enterList d kind tag attrs s with ⟨attrs', _ | l, s'⟩ <;> rw [he] at hid
    · rw [scope_enterList_none he] at hid
      exact Or.inl ⟨hid, nofun⟩
    · obtain ⟨rfl, template, hscope⟩ := scope_enterList_some he
      rw [hscope, stack_started] at hid
      rcases List.mem_cons.1 hid with rfl | hid
      · exact Or.inr (Or.inr (by rw [begins?, Event.begins?, he]; rfl))
      · exact Or.inl ⟨hid, nofun⟩

end Moment

/-! ## Lists of which no item has been numbered -/

/-- Among these moments the walk has come to a list that begins with the series, it has not left the list since,
and it has numbered no item in the series. -/
def Begun (ms : List Moment) (id : SeriesId) : Prop :=
  ∃ before m since, ms = before ++ m :: since ∧ m.begins? = some id ∧
    ∀ m' ∈ since, m'.event.leaves? ≠ some id ∧ m'.labelled? ≠ some id

theorem Begun.concat {ms : List Moment} {m : Moment} {id : SeriesId} (h : Begun ms id)
    (hleaves : m.event.leaves? ≠ some id) (hlabelled : m.labelled? ≠ some id) : Begun (ms ++ [m]) id := by
  obtain ⟨before, m₀, since, rfl, hbegins, hsince⟩ := h
  refine ⟨before, m₀, since ++ [m], by simp, hbegins, ?_⟩
  exact List.forall_mem_append.2 ⟨hsince, List.forall_mem_singleton.2 ⟨hleaves, hlabelled⟩⟩

/-- The number of elements that have been numbered in a series. -/
def numbered (ms : List Moment) (id : SeriesId) : Nat := ms.countP fun m => m.labelled? = some id

theorem numbered_concat (ms : List Moment) (m : Moment) (id : SeriesId) :
    numbered (ms ++ [m]) id = numbered ms id + if m.labelled? = some id then 1 else 0 := by
  rw [numbered, List.countP_append, List.countP_singleton, numbered]
  simp only [decide_eq_true_eq]

theorem numbered_eq_zero_iff {ms : List Moment} {id : SeriesId} :
    numbered ms id = 0 ↔ ∀ m ∈ ms, m.labelled? ≠ some id := by
  rw [numbered, List.countP_eq_zero]
  simp only [decide_eq_true_eq]

/-! ## Runs -/

namespace Labelling
open State
variable {l : Labelling} {c : Template.Context} {doc : Node} {past rest : List Moment} {m : Moment}
  {id : SeriesId}

/-- A series has counted the elements that have been numbered in it. -/
theorem count_eq_numbered (hm : l.moments c doc = past ++ m :: rest) (id : SeriesId) :
    m.before.scope.roster.count id = numbered past id ∧
      m.after.scope.roster.count id = numbered (past ++ [m]) id := by
  have hhistory := l.moments_history c doc (P := fun past s => ∀ id, s.scope.roster.count id = numbered past id)
    (fun c' id => rfl) (fun past m hmem hrun ih id => ?_) hm
  · exact ⟨hhistory.1 id, hhistory.2 id⟩
  · rw [(m.turn hrun).counts (l.moments_fit c doc m hmem) (l.moments_sound c doc m hmem).1, ih, numbered_concat]

/-- A series in scope has numbered an element, or it is that of a list of which no item has been numbered. -/
theorem numbered_or_begun (hm : l.moments c doc = past ++ m :: rest) (hid : id ∈ m.after.scope.stack) :
    0 < numbered (past ++ [m]) id ∨ Begun (past ++ [m]) id := by
  have hhistory := l.moments_history c doc
    (P := fun past s => ∀ id ∈ s.scope.stack, 0 < numbered past id ∨ Begun past id)
    (fun c' id hid => by cases hid) (fun past m hmem hrun ih id hid => ?_) hm
  · exact hhistory.2 id hid
  · rw [numbered_concat]
    by_cases hown : m.labelled? = some id
    · rw [if_pos hown]
      exact Or.inl (Nat.succ_pos _)
    rw [if_neg hown, Nat.add_zero]
    rcases Moment.mem_stack hrun hid with ⟨hold, hleaves⟩ | hlabelled | hbegins
    · exact (ih id hold).imp_right fun h => h.concat hleaves hown
    · exact absurd hlabelled hown
    · exact Or.inr ⟨past, m, [], rfl, hbegins, by simp⟩

/-- A series in scope has counted nothing just if it is that of a list of which no item has been numbered. -/
theorem count_eq_zero_iff (hm : l.moments c doc = past ++ m :: rest) (hid : id ∈ m.after.scope.stack) :
    m.after.scope.roster.count id = 0 ↔ Begun (past ++ [m]) id := by
  rw [(count_eq_numbered hm id).2]
  constructor
  · intro hzero
    exact (numbered_or_begun hm hid).resolve_left fun hpos => absurd hpos (by omega)
  · rintro ⟨before, m₀, since, hsplit, hbegins, hsince⟩
    obtain ⟨hown, rfl⟩ := Moment.begins?_eq hbegins
    -- in front of the list its series is not there yet
    have hm₀ : l.moments c doc = before ++ m₀ :: (since ++ rest) := by
      rw [hm, List.append_cons, hsplit]
      simp
    have hbefore := (count_eq_numbered hm₀ m₀.before.scope.roster.series.size).1
    rw [Roster.count_size] at hbefore
    rw [numbered_eq_zero_iff, hsplit]
    refine List.forall_mem_append.2 ⟨numbered_eq_zero_iff.1 hbefore.symm, List.forall_mem_cons.2 ⟨?_, ?_⟩⟩
    · rw [hown]
      exact nofun
    · exact fun m' hm' => (hsince m' hm').2

/-- Whenever a reference gets its label, that is the label of the series which its selector finds behind the
element it refers to. This series has counted as many elements as have been numbered in it so far. It has
counted none just if the walk has come to its list, has not left it and has numbered no item in it: at the list
itself, and in it in front of the first item with a number. -/
theorem filled_counted (l : Labelling) (c : Template.Context) (doc : Node) {past rest : List Moment} {m : Moment}
    (hm : l.moments c doc = past ++ m :: rest) {key : RefKey} {label : String}
    (hnew : m.before.refs.label? key = none) (hlabel : m.after.refs.label? key = some label) :
    ∃ id, m.target? = some key.target ∧ m.after.scope.find? key.selector = some id ∧
      label = m.after.scope.roster.bareText id ∧
      m.after.scope.roster.count id = numbered (past ++ [m]) id ∧
      (m.after.scope.roster.count id = 0 ↔ Begun (past ++ [m]) id) := by
  obtain ⟨htarget, hscope⟩ := Moment.looked_up hnew hlabel
  obtain ⟨id, hid, rfl⟩ := Option.map_eq_some_iff.1 hscope
  exact ⟨id, htarget, hid, rfl, (count_eq_numbered hm id).2, count_eq_zero_iff hm (Scope.find?_mem hid)⟩

/-- A reference to an item without a label shows the number of the item in front of it. -/
theorem filled_counted_unlabelled_item :
    let l : Labelling := { settings := { orderedLabels := some "1" } }
    let doc : Node := .root [.element "ol" [] [.element "li" [] [],
      .element "li" [("-no-label", ""), ("id", "x")] []], .element "a" [("href", "#x")] [.text "##"]]
    ∃ past m rest, l.moments {} doc = past ++ m :: rest ∧ m.target? = some "x" ∧ m.labelled? = none ∧
      m.before.refs.label? ⟨"x", .any⟩ = none ∧ m.after.refs.label? ⟨"x", .any⟩ = some "1" ∧
      numbered (past ++ [m]) 0 = 1 ∧ ¬Begun (past ++ [m]) 0 := by
  intro l doc
  have hitem : ∃ m ∈ l.moments {} doc, m.target? = some "x" ∧ m.labelled? = none ∧
      m.before.refs.label? ⟨"x", .any⟩ = none ∧ m.after.refs.label? ⟨"x", .any⟩ = some "1" ∧
      m.after.scope.find? .any = some 0 ∧ m.after.scope.roster.count 0 = 1 := by decide +kernel
  obtain ⟨m, hmem, htarget, hown, hnew, hlabel, hfind, hcount⟩ := hitem
  obtain ⟨past, rest, hm⟩ := List.append_of_mem hmem
  obtain ⟨id, -, hid, -, hnumbered, hiff⟩ := filled_counted l {} doc hm hnew hlabel
  obtain rfl : (0 : SeriesId) = id := Option.some.inj (hfind.symm.trans hid)
  refine ⟨past, m, rest, hm, htarget, hown, hnew, hlabel, hnumbered.symm.trans hcount, fun hbegun => ?_⟩
  rw [hiff.2 hbegun] at hcount
  cases hcount

/-- A reference to a list gets the number zero at the list, though an item of the list and a heading with the same
id get the number one. -/
theorem filled_uncounted_list :
    let l : Labelling := { settings := { headingLabels := some "1", orderedLabels := some "1" } }
    let doc : Node := .root [.element "ol" [("id", "x")] [.element "li" [] [.text "a"]],
      .element "h1" [("id", "x")] [], .element "a" [("href", "#x")] [.text "##"]]
    (∃ m ∈ l.moments {} doc, m.before.refs.label? ⟨"x", .any⟩ = none ∧
        m.after.refs.label? ⟨"x", .any⟩ = some "0" ∧ m.after.scope.find? .any = some 0 ∧
        m.after.scope.roster.count 0 = 0) ∧
      (l.draft {} (.ofNode doc)).state.refs.label? ⟨"x", .any⟩ = some "0" ∧
      ((l.moments {} doc).filterMap fun m => m.labelled?.map m.after.scope.roster.bareText) = ["1", "1"] := by
  decide +kernel

end Labelling
end Rubric
