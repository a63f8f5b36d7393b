import Mathlib.Data.List.Nodup
import Rubric.Proofs.Labelling.Visits

/-!
# The shape of the stack

* `Scope.Shaped` : no series is in scope twice, and the sections get deeper from the outside to the inside;
* `Moment.lookup` : the scope in which an event looks for series;
* `Turn.shaped` : every event leaves the scope in shape;
* `Labelling.stack_shaped` : the scope is in shape at every moment of a run, a list leaves no list series in
  scope that was not there before, and a run none at all.
-/

namespace Rubric

namespace Scope
variable {s s' : Scope}

/-- No series is in scope twice, and the sections get deeper from the outside to the inside. -/
structure Shaped (s : Scope) : Prop where
  nodup : s.stack.Nodup
  stacked : s.Stacked

theorem Shrinks.nodup {gone : List SeriesId} (h : Shrinks s s' gone) (hn : s.stack.Nodup) :
    s'.stack.Nodup := by
  rw [h.stack]
  exact hn.filter _

theorem Shaped.shrinks {gone : List SeriesId} (h : s.Shaped) (hs : Shrinks s s' gone) : s'.Shaped :=
  ⟨hs.nodup h.nodup, h.stacked.shrinks hs⟩

theorem Sound.size_not_mem (h : s.Sound) : s.roster.series.size ∉ s.stack := by
  intro hmem
  have hlt : s.roster.series.size < s.roster.series.size := h.has _ hmem
  omega

theorem nodup_swapped {stack : List SeriesId} {old new : SeriesId} (hnew : new ∉ stack)
    (hn : stack.Nodup) : (swapped stack old new).Nodup := by
  rw [swapped]
  split
  · apply hn.map_on
    intro i hi j hj hij
    have hinew : i ≠ new := fun h => hnew (h ▸ hi)
    have hjnew : j ≠ new := fun h => hnew (h ▸ hj)
    split_ifs at hij with hiold hjold hjold
    · rw [hiold, hjold]
    · exact absurd hij.symm hjnew
    · exact absurd hij hinew
    · exact hij
  · exact List.nodup_cons.2 ⟨hnew, hn⟩

section New
variable (kind : ElementKind) (template : Template.Instance) (styled : Bool)

theorem Sound.nodup_started (h : s.Sound) (hn : s.stack.Nodup) (parent : Option SeriesId) :
    (s.started kind template parent styled).stack.Nodup := by
  rw [stack_started]
  exact List.nodup_cons.2 ⟨h.size_not_mem, hn⟩

theorem Sound.nodup_replaced (h : s.Sound) (hn : s.stack.Nodup) (old : SeriesId) :
    (s.replaced old kind template styled).stack.Nodup := by
  obtain ⟨gone, hpr, -⟩ := prunes_replaced old kind template styled s
  apply hpr.toShrinks.nodup
  show (swapped s.stack old s.roster.series.size).Nodup
  exact nodup_swapped h.size_not_mem hn

end New

theorem Shaped.unique (h : s.Shaped) {id id' : SeriesId} {l : HeadingLevel} (hid : (id, l) ∈ s.sections)
    (hid' : (id', l) ∈ s.sections) : id = id' := by
  have hfirst := sectionOf?_of_mem h.stacked hid
  rw [sectionOf?_of_mem h.stacked hid'] at hfirst
  exact (Option.some.inj hfirst).symm

theorem Stacked.find?_heading_iff (h : s.Stacked) {id : SeriesId} :
    s.find? .heading = some id ↔
      ∃ l, (id, l) ∈ s.sections ∧ ∀ e ∈ s.sections, e.2.number ≤ l.number := by
  constructor
  · intro hfind
    rw [Scope.find?_heading, Option.map_eq_some_iff] at hfind
    obtain ⟨⟨j, l⟩, hhead, rfl⟩ := hfind
    obtain ⟨rest, hrest⟩ := List.head?_eq_some_iff.1 hhead
    rw [Stacked, hrest] at h
    refine ⟨l, hrest ▸ List.mem_cons_self .., fun e he => ?_⟩
    rw [hrest] at he
    rcases List.mem_cons.1 he with rfl | he
    · exact Nat.le_refl _
    · exact Nat.le_of_lt ((List.pairwise_cons.1 h).1 e he)
  · rintro ⟨l, hid, hdeep⟩
    exact (h.find?_heading hid hdeep).1

end Scope

/-! ## Events -/

namespace Walk

/-- The scope in which an event looks for series. A heading has ended the deeper sections. -/
def Event.lookup (s : Scope) : Event → Scope
  | heading level .. => s.closeBelow level
  | list .. | item .. | element .. | leaveItem _ | leaveList _ => s

theorem Event.shrinks_lookup (e : Event) (s : Scope) : ∃ gone, Scope.Shrinks s (e.lookup s) gone := by
  cases e with
  | heading level =>
    obtain ⟨gone, hsh, -⟩ := Scope.shrinks_closeBelow s level
    exact ⟨gone, hsh⟩
  | list | item | element | leaveItem | leaveList => exact ⟨[], .refl s⟩

namespace Turn
open Scope
variable {s s' : Scope} {e : Event} {own : Option SeriesId}

theorem nodup (h : Turn s e own s') (hs : s.Sound) (hn : s.stack.Nodup) : s'.stack.Nodup := by
  have hclosed : ∀ level, (s.closeBelow level).Sound ∧ (s.closeBelow level).stack.Nodup := by
    intro level
    obtain ⟨gone, hsh, -⟩ := shrinks_closeBelow s level
    exact ⟨hs.shrinks hsh, hsh.nodup hn⟩
  cases h with
  | close level => exact (hclosed level).2
  | count => exact (hclosed _).2
  | restart template => exact (hclosed _).1.nodup_replaced _ template false (hclosed _).2 _
  | start template => exact (hclosed _).1.nodup_started _ template false (hclosed _).2 _
  | bareList | element | skip | countItem => exact hn
  | list template styled => exact hs.nodup_started _ template styled hn _
  | restartItem template styled => exact hs.nodup_replaced _ template styled hn _
  | leaveItem l =>
    obtain ⟨gone, hsh, -⟩ := shrinks_endBelow s l.series
    exact hsh.nodup hn
  | leaveList l => exact (shrinks_remove s l.series).nodup hn

theorem shaped (h : Turn s e own s') (hfits : e.Fits s.roster) (hs : s.Sound) (hsh : s.Shaped) :
    s'.Shaped := ⟨h.nodup hs hsh.nodup, h.stacked hfits hs hsh.stacked⟩

end Turn
end Walk

def Moment.lookup (m : Moment) : Scope := m.event.lookup m.before.scope

/-! ## Runs -/

namespace Labelling
open State Draft
variable (l : Labelling) (c : Template.Context) (doc : Node)

theorem moments_shaped : ∀ m ∈ l.moments c doc, m.before.scope.Shaped ∧ m.after.scope.Shaped := by
  have hpreserve := l.moments_preserve c doc (P := fun s => s.scope.Sound ∧ s.scope.Shaped)
    (fun c' => ⟨sound_begin c' _, List.nodup_nil, List.Pairwise.nil⟩) fun m hm hrun h =>
      ⟨(m.event.steps m.before).sound h.1, (m.turn hrun).shaped (l.moments_fit c doc m hm) h.1 h.2⟩
  intro m hm
  exact ⟨(hpreserve m hm).1.2, (hpreserve m hm).2.2⟩

theorem lists_draft : (l.draft c (.ofNode doc)).state.failure = none →
    (l.draft c (.ofNode doc)).state.scope.lists = [] := by
  rw [draft]
  rcases Defaults.ofSettings c l.settings with ⟨e | d, c'⟩
  · exact fun _ => rfl
  · exact fun hend =>
      List.sublist_nil.1 (walk_lists d ((Draft.ofNode doc).markRefs none) (sound_begin c' _) hend)

/-- In front of each event of a run, where it looks for series, and behind it, no series is in scope twice,
and the sections get deeper from the outside to the inside, so that there is one of a level at most and the
innermost is the deepest. A list that is walked over to its end leaves no list series in scope that was not
there before, and a run that comes to its end none at all. -/
theorem stack_shaped :
    (∀ m ∈ l.moments c doc, ∀ s ∈ [m.before.scope, m.lookup, m.after.scope],
      s.stack.Nodup ∧ s.sections.Pairwise (fun a b => b.2.number < a.2.number) ∧
        (∀ id id' level, (id, level) ∈ s.sections → (id', level) ∈ s.sections → id = id') ∧
        ∀ id, s.find? .heading = some id ↔
          ∃ level, (id, level) ∈ s.sections ∧ ∀ e ∈ s.sections, e.2.number ≤ level.number) ∧
      (∀ v ∈ l.listVisits c doc, v.after.failure = none →
        v.after.scope.lists.Sublist v.before.scope.lists) ∧
      ((l.draft c (.ofNode doc)).state.failure = none → (l.draft c (.ofNode doc)).state.scope.lists = []) := by
  refine ⟨fun m hm s hs => ?_, fun v hv hend => ?_, l.lists_draft c doc⟩
  · obtain ⟨hbefore, hafter⟩ := l.moments_shaped c doc m hm
    obtain ⟨gone, hsh⟩ := m.event.shrinks_lookup m.before.scope
    have hshaped : s.Shaped := by
      simp only [List.mem_cons, List.not_mem_nil, or_false] at hs
      rcases hs with rfl | rfl | rfl
      · exact hbefore
      · exact hbefore.shrinks hsh
      · exact hafter
    exact ⟨hshaped.nodup, hshaped.stacked, fun _ _ _ => hshaped.unique,
      fun _ => hshaped.stacked.find?_heading_iff⟩
  · obtain ⟨d, c', -, hwithin⟩ := l.listVisits_within c doc v hv
    exact walk_lists v.defaults v.element (hwithin.sound (sound_begin c' _)) hend

end Labelling
end Rubric
