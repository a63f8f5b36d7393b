import Mathlib.Data.List.Nodup
import Rubric.Proofs.Tree.Forest

/-!
# Where replacements stand

* `Document.moveTo` : a node at a place of a list of children, which it leaves first; `children_insertChild` :
  so the children change when a node is moved;
* `Document.without ns s` : the nodes of a list that are not among others;
* `Document.Placing` : how far the children have come while nodes are moved among them one after the other.
  `Placing.step` : the next one; `placing_insertAll` : all of them;
* `Document.replaced_in_place_iff` : replacements stand where the node was, unless one has been in front of it
  and a child that is none stands behind it.
-/

namespace Rubric
namespace Document

/-! ## Moving a node -/

/-- A node at a place of a list, or at its end. It leaves the list first. -/
def moveTo (s : List NodeId) (index : Nat) (n : NodeId) : List NodeId :=
  let s := s.filter (· != n)
  s.insertIdx (min index s.length) n

section Children
variable {d : Document} {p n q : NodeId}

theorem children_insertChild (h : d.Linked) (index : Nat) (hp : p < d.size) (hn : n < d.size) :
    (d.insertChild p index n).children p = moveTo (d.children p) index n := by
  have hsize : (d.detach n).size = d.size := size_detach
  rw [insertChild, children_link index (hsize ▸ hp) (hsize ▸ hn), if_pos rfl, children_detach h]
  rfl

theorem children_insertChild_of_ne (h : d.Linked) (index : Nat) (hq : q ≠ p) :
    (d.insertChild p index n).children q = (d.children q).filter (· != n) := by
  rw [insertChild]
  by_cases hsize : p < (d.detach n).size ∧ n < (d.detach n).size
  · rw [children_link index hsize.1 hsize.2, if_neg hq, children_detach h]
  · rw [link_of_not index hsize, children_detach h]

theorem size_insertChild (index : Nat) : (d.insertChild p index n).size = d.size := by
  rw [insertChild, link]
  split
  · rw [size_modify, size_modify, size_detach]
  · exact size_detach

end Children

/-! ## Lists of nodes -/

def without (ns s : List NodeId) : List NodeId := s.filter (· ∉ ns)

section Lists
variable {ns s t : List NodeId} {n : NodeId}

theorem without_nil (s : List NodeId) : without [] s = s := List.filter_eq_self.2 fun _ _ => by simp

theorem without_append (ns s t : List NodeId) : without ns (s ++ t) = without ns s ++ without ns t :=
  List.filter_append ..

theorem without_concat (ns : List NodeId) (n : NodeId) (s : List NodeId) :
    without (ns ++ [n]) s = (without ns s).filter (· != n) := by
  rw [without, without, List.filter_filter]
  refine List.filter_congr fun c _ => ?_
  by_cases hc : c = n <;> simp [hc]

theorem length_without (ns s : List NodeId) :
    (s.filter (· ∈ ns)).length + (without ns s).length = s.length := by
  have hsame : without ns s = s.filter fun c => !decide (c ∈ ns) := List.filter_congr fun c _ => decide_not
  rw [hsame]
  exact (List.length_eq_length_filter_add _).symm

theorem without_of_clear (h : ∀ c ∈ s, c ∉ ns) : s.filter (· ∈ ns) = [] ∧ without ns s = s :=
  ⟨List.filter_eq_nil_iff.2 fun c hc => by simpa using h c hc,
    List.filter_eq_self.2 fun c hc => by simpa using h c hc⟩

theorem without_filter_ne (ns : List NodeId) (n : NodeId) (s : List NodeId) :
    without (ns ++ [n]) (s.filter (· != n)) = (without ns s).filter (· != n) := by
  rw [without_concat, without, without, List.filter_filter, List.filter_filter, List.filter_filter]
  refine List.filter_congr fun c _ => ?_
  by_cases hc : c = n <;> simp [hc]

theorem filter_mem_filter_ne (hn : n ∉ ns) (s : List NodeId) :
    (s.filter (· != n)).filter (· ∈ ns ++ [n]) = s.filter (· ∈ ns) := by
  rw [List.filter_filter]
  refine List.filter_congr fun c _ => ?_
  by_cases hc : c = n
  · simp [hc, hn]
  · simp [hc]

theorem insertIdx_middle (front back : List NodeId) (n : NodeId) :
    (front ++ back).insertIdx front.length n = front ++ n :: back := by
  induction front with
  | nil => rfl
  | cons c front ih =>
    rw [List.cons_append, List.length_cons, List.insertIdx_succ_cons, ih]
    rfl

/-- Behind a list that ends in front of a place, as many nodes are passed as there are up to the place. -/
theorem insertIdx_append {front : List NodeId} {index : Nat} (h : front.length ≤ index) (back : List NodeId)
    (n : NodeId) :
    (front ++ back).insertIdx (min index (front ++ back).length) n =
      front ++ back.take (index - front.length) ++ n :: back.drop (index - front.length) := by
  have hplace : min index (front ++ back).length = (front ++ back.take (index - front.length)).length := by
    simp only [List.length_append, List.length_take]
    omega
  rw [hplace, ← insertIdx_middle, List.append_assoc, List.take_append_drop]

end Lists

/-! ## Moving nodes one after the other -/

/-- How far the children of a node have come, between those that stood before a place and those that stood
behind it. The nodes that are done are reached in order, and the last of them ends what is reached. What else
is reached comes from behind: one node for each that has left the front, as long as there are any. -/
structure Placing (before behind done reached rest : List NodeId) : Prop where
  inOrder : reached.filter (· ∈ done) = done
  others : without done reached ++ rest = without done behind
  length_le : (without done before).length + reached.length ≤ before.length + done.length
  length_eq : rest ≠ [] → (without done before).length + reached.length = before.length + done.length
  last : reached.getLast? = done.getLast?

namespace Placing
variable {before behind done reached rest : List NodeId} {n : NodeId}

theorem start (before behind : List NodeId) : Placing before behind [] [] behind where
  inOrder := rfl
  others := (without_nil behind).symm
  length_le := Nat.le_of_eq (by rw [without_nil])
  length_eq _ := by rw [without_nil]
  last := rfl

/-- The next node leaves its place, and comes behind all that are done. -/
theorem step (h : Placing before behind done reached rest) (hn : n ∉ done) :
    ∃ reached' rest', Placing before behind (done ++ [n]) reached' rest' ∧
      moveTo (without done before ++ reached ++ rest) (before.length + done.length) n =
        without (done ++ [n]) before ++ reached' ++ rest' := by
  let front := without (done ++ [n]) before ++ reached.filter (· != n)
  let back := rest.filter (· != n)
  obtain ⟨k, hk⟩ : ∃ k, k = before.length + done.length - front.length := ⟨_, rfl⟩
  have hlength : front.length = (without (done ++ [n]) before).length + (reached.filter (· != n)).length :=
    List.length_append
  have hfront : front.length ≤ before.length + done.length := by
    have hbefore : (without (done ++ [n]) before).length ≤ (without done before).length := by
      rw [without_concat]
      exact List.length_filter_le ..
    have hreached : (reached.filter (· != n)).length ≤ reached.length := List.length_filter_le ..
    have hle := h.length_le
    omega
  have hsplit : (without done before ++ reached ++ rest).filter (· != n) = front ++ back := by
    rw [List.filter_append, List.filter_append, ← without_concat]
  -- what is not reached has none of the nodes that are done
  have hclear : ∀ c ∈ back.take k, c ∉ done ++ [n] := by
    intro c hc
    obtain ⟨hrest, hne⟩ := List.mem_filter.1 (List.mem_of_mem_take hc)
    have hbehind : c ∈ without done behind := h.others ▸ List.mem_append_right _ hrest
    have hdone : c ∉ done := by simpa using (List.mem_filter.1 hbehind).2
    simpa [hdone] using hne
  obtain ⟨htaken, hkept⟩ := without_of_clear hclear
  refine ⟨reached.filter (· != n) ++ back.take k ++ [n], back.drop k, ⟨?_, ?_, ?_, ?_, ?_⟩, ?_⟩
  · have hself : [n].filter (· ∈ done ++ [n]) = [n] := by simp
    rw [List.filter_append, List.filter_append, filter_mem_filter_ne hn, h.inOrder, htaken, hself,
      List.append_nil]
  · have hself : without (done ++ [n]) [n] = [] := by simp [without]
    rw [without_append, without_append, without_filter_ne, hkept, hself, List.append_nil, List.append_assoc,
      List.take_append_drop, without_concat, ← h.others, List.filter_append]
  · have hle : (back.take k).length ≤ k := List.length_take_le ..
    simp only [List.length_append, List.length_singleton]
    omega
  · intro hne
    have hlt : k < back.length := Nat.lt_of_not_le fun hle => hne (List.drop_eq_nil_of_le hle)
    have heq : (back.take k).length = k := List.length_take_of_le (Nat.le_of_lt hlt)
    simp only [List.length_append, List.length_singleton]
    omega
  · rw [List.getLast?_concat, List.getLast?_concat]
  · show List.insertIdx _ _ _ = _
    rw [hsplit, insertIdx_append hfront, ← hk]
    simp only [front, List.append_assoc, List.singleton_append]

/-- One node from behind is reached for each that has left the front, as long as there are any. -/
theorem length_others (h : Placing before behind done reached rest) :
    (without done reached).length = min (before.filter (· ∈ done)).length (without done behind).length := by
  have hbefore := length_without done before
  have hreached := length_without done reached
  have hbehind := congrArg List.length h.others
  have hle := h.length_le
  rw [h.inOrder] at hreached
  rw [List.length_append] at hbehind
  cases hrest : rest with
  | nil =>
    rw [hrest, List.length_nil] at hbehind
    omega
  | cons c tail =>
    have heq := h.length_eq (by rw [hrest]; exact List.cons_ne_nil c tail)
    omega

/-- The nodes that are done stand together just if nothing has been reached between them. -/
theorem others_nil (h : Placing before behind done reached rest)
    (heq : reached ++ rest = done ++ without done behind) : without done reached = [] := by
  have hlength := length_without done reached
  rw [h.inOrder] at hlength
  rcases List.append_eq_append_iff.1 heq with ⟨more, hdone, -⟩ | ⟨more, hreached, hbehind⟩
  · have hle := congrArg List.length hdone
    rw [List.length_append] at hle
    exact List.length_eq_zero_iff.1 (by omega)
  · -- the last node that is reached is done, so it does not come from behind
    cases hlast : more.getLast? with
    | none =>
      rw [List.getLast?_eq_none_iff.1 hlast, List.append_nil] at hreached
      rw [hreached] at hlength ⊢
      exact List.length_eq_zero_iff.1 (by omega)
    | some c =>
      have hdone : done.getLast? = some c := by
        rw [← h.last, hreached, List.getLast?_append, hlast]
        rfl
      have hmore : c ∈ without done behind :=
        hbehind ▸ List.mem_append_left _ (List.mem_of_getLast? hlast)
      have hnot : c ∉ done := by simpa using (List.mem_filter.1 hmore).2
      exact absurd (List.mem_of_getLast? hdone) hnot

/-- The nodes that are done stand together between the others just if none of them has been in front, or all
nodes from behind are among them. -/
theorem together_iff (h : Placing before behind done reached rest) :
    without done before ++ reached ++ rest = without done before ++ done ++ without done behind ↔
      (∀ c ∈ before, c ∉ done) ∨ ∀ c ∈ behind, c ∈ done := by
  have hpulled := h.length_others
  constructor
  · intro heq
    rw [List.append_assoc, List.append_assoc] at heq
    rw [h.others_nil (List.append_cancel_left heq), List.length_nil] at hpulled
    rcases Nat.le_total (before.filter (· ∈ done)).length (without done behind).length with hle | hle
    · have hnone : before.filter (· ∈ done) = [] := List.length_eq_zero_iff.1 (by omega)
      exact Or.inl fun c hc => by simpa using List.filter_eq_nil_iff.1 hnone c hc
    · have hnone : without done behind = [] := List.length_eq_zero_iff.1 (by omega)
      exact Or.inr fun c hc => by simpa using List.filter_eq_nil_iff.1 hnone c hc
  · intro hsides
    have hnone : without done reached = [] := by
      apply List.length_eq_zero_iff.1
      rcases hsides with hbefore | hbehind
      · rw [hpulled, (without_of_clear hbefore).1, List.length_nil, Nat.zero_min]
      · have hnil : without done behind = [] := List.filter_eq_nil_iff.2 fun c hc => by simpa using hbehind c hc
        rw [hpulled, hnil, List.length_nil, Nat.min_zero]
    have hreached : reached = done := by
      have hall : ∀ c ∈ reached, c ∈ done := fun c hc => by simpa using List.filter_eq_nil_iff.1 hnone c hc
      have hself : reached.filter (· ∈ done) = reached :=
        List.filter_eq_self.2 fun c hc => decide_eq_true (hall c hc)
      exact hself.symm.trans h.inOrder
    have hrest : rest = without done behind := by
      rw [← h.others, hnone, List.nil_append]
    rw [hreached, ← hrest]

end Placing

section Run
variable {d : Document} {p q : NodeId} {before behind done reached rest ns : List NodeId}

theorem placing_insertAll (h : d.Linked) (hp : p < d.size) (hns : ∀ n ∈ ns, n < d.size)
    (hnodup : (done ++ ns).Nodup) (hplacing : Placing before behind done reached rest)
    (hchildren : d.children p = without done before ++ reached ++ rest) :
    ∃ reached' rest', Placing before behind (done ++ ns) reached' rest' ∧
      (d.insertAll p (before.length + done.length) ns).children p =
        without (done ++ ns) before ++ reached' ++ rest' := by
  induction ns generalizing d done reached rest with
  | nil =>
    rw [List.append_nil]
    exact ⟨reached, rest, hplacing, hchildren⟩
  | cons n ns ih =>
    obtain ⟨hn, hns⟩ := List.forall_mem_cons.1 hns
    have hnew : n ∉ done := fun hmem => (List.nodup_append.1 hnodup).2.2 n hmem n (List.mem_cons_self ..) rfl
    obtain ⟨reached', rest', hplacing', hmove⟩ := hplacing.step hnew
    have hchildren' : (d.insertChild p (before.length + done.length) n).children p =
        without (done ++ [n]) before ++ reached' ++ rest' := by
      rw [children_insertChild h _ hp hn, hchildren, hmove]
    have hsize : (d.insertChild p (before.length + done.length) n).size = d.size := size_insertChild _
    have hlist : done ++ [n] ++ ns = done ++ n :: ns := by simp
    have hrun := ih (h.insertChild p _ n) (hsize ▸ hp) (hsize ▸ hns) (hlist ▸ hnodup) hplacing' hchildren'
    rw [hlist, List.length_append, List.length_singleton, ← Nat.add_assoc] at hrun
    exact hrun

theorem children_insertAll_of_ne (h : d.Linked) (index : Nat) (ns : List NodeId) (hq : q ≠ p) :
    (d.insertAll p index ns).children q = without ns (d.children q) := by
  induction ns generalizing d index with
  | nil => exact (without_nil _).symm
  | cons n ns ih =>
    have hrest := ih (h.insertChild p index n) (index + 1)
    rw [children_insertChild_of_ne h index hq] at hrest
    rw [insertAll, hrest, without, List.filter_filter]
    refine List.filter_congr fun c _ => ?_
    by_cases hc : c = n <;> simp [hc]

end Run

/-! ## Replacing a node -/

theorem index?_eq {d : Document} {n p : NodeId} {before behind : List NodeId} (hp : d.parent? n = some p)
    (hchildren : d.children p = before ++ n :: behind) (hn : n ∉ before) : d.index? n = some before.length := by
  rw [index?, hp, Option.bind_some, hchildren, List.idxOf?_eq_some_iff]
  refine ⟨by simp, by simp, fun j hj heq => hn ?_⟩
  rw [List.getElem_append_left hj] at heq
  exact heq ▸ List.getElem_mem hj

/-- After any operations, a node with a parent is replaced by nodes of the document, all different, which may
be its siblings, the node itself or nodes from anywhere. The children that stood in front of it and are no
replacements stay in front. Then come the replacements, in order, the last of them behind as many of the other
children from behind the node as there have been replacements in front of it, or behind all of them. So the
replacements stand where the node was just if none has been in front of it, or all children behind it are
replacements. No other node gets or loses other children than replacements. -/
theorem replaced_in_place_iff (operations : List Operation) (n : NodeId) {p : NodeId}
    (replacements : List NodeId) (hp : (empty.perform operations).parent? n = some p) (hnodup : replacements.Nodup)
    (hsize : ∀ r ∈ replacements, r < (empty.perform operations).size) :
    let d := empty.perform operations
    let d' := d.replaceWith n replacements
    ∃ before behind, d.children p = before ++ n :: behind ∧
      (d'.children p = without replacements before ++ replacements ++ without replacements behind ↔
        (∀ c ∈ before, c ∉ replacements) ∨ ∀ c ∈ behind, c ∈ replacements) ∧
      (∃ reached rest, d'.children p = without replacements before ++ reached ++ rest ∧
        reached.filter (· ∈ replacements) = replacements ∧ reached.getLast? = replacements.getLast? ∧
        without replacements reached ++ rest = without replacements behind ∧
        (without replacements reached).length =
          min (before.filter (· ∈ replacements)).length (without replacements behind).length) ∧
      ∀ q, q ≠ p → d'.children q = without replacements (d.children q) := by
  intro d d'
  have hlinked : d.Linked := Linked.empty.perform operations
  have hmem : n ∈ d.children p := (hlinked.mem_children p n).2 hp
  obtain ⟨before, behind, hchildren⟩ := List.mem_iff_append.1 hmem
  have hdistinct : (before ++ n :: behind).Nodup := hchildren ▸ hlinked.nodup p
  obtain ⟨hbefore, hbehind⟩ : n ∉ before ∧ n ∉ behind := by
    rw [List.nodup_middle, List.nodup_cons, List.mem_append, not_or] at hdistinct
    exact hdistinct.1
  have hreplace : d' = (d.detach n).insertAll p before.length replacements := by
    show d.replaceWith n replacements = _
    rw [replaceWith, hp, index?_eq hp hchildren hbefore]
  -- the node leaves its place
  have hdetached : (d.detach n).children p = without [] before ++ [] ++ behind := by
    have hkeep : ∀ s : List NodeId, n ∉ s → s.filter (· != n) = s := fun s hs =>
      List.filter_eq_self.2 fun c hc => by simpa using ne_of_mem_of_not_mem hc hs
    rw [children_detach hlinked, hchildren, List.filter_append, List.filter_cons, hkeep before hbefore,
      hkeep behind hbehind, without_nil, List.append_nil]
    simp
  have hpsize : p < (d.detach n).size := by
    rw [size_detach]
    refine Nat.lt_of_not_le fun hle => ?_
    rw [children_of_size_le hle] at hmem
    cases hmem
  have hdone : ([] ++ replacements).Nodup := hnodup
  obtain ⟨reached, rest, hplacing, hplaced⟩ :=
    placing_insertAll (hlinked.detach n) hpsize (fun r hr => size_detach.symm ▸ hsize r hr) hdone
      (.start before behind) hdetached
  have hresult : d'.children p = without replacements before ++ reached ++ rest := hreplace ▸ hplaced
  refine ⟨before, behind, hchildren, ?_, ?_, fun q hq => ?_⟩
  · rw [hresult]
    exact hplacing.together_iff
  · exact ⟨reached, rest, hresult, hplacing.inOrder, hplacing.last, hplacing.others, hplacing.length_others⟩
  · rw [hreplace, children_insertAll_of_ne (hlinked.detach n) _ _ hq, children_detach hlinked]
    refine congrArg (without replacements) (List.filter_eq_self.2 fun c hc => ?_)
    have hne : c ≠ n := fun heq => by
      rw [heq, hlinked.mem_children, hp] at hc
      exact hq (Option.some.inj hc).symm
    simpa using hne

/-- A node is replaced by itself, between the sibling behind it and the text of that one. -/
theorem replaced_in_place_iff_swapped :
    let operations : List Operation :=
      [.appendElement 0 "p", .appendElement 1 "a", .appendElement 1 "b", .appendElement 1 "c", .appendText 4 "t"]
    let d := empty.perform operations
    d.children 1 = [2, 3, 4] ∧ (d.replaceWith 3 [4, 3, 5]).children 1 = [2, 4, 3, 5] ∧
      (d.replaceWith 3 [4, 3, 5]).children 4 = [] := by
  intro operations d
  have hp : d.parent? 3 = some 1 := by decide
  have hchildren : d.children 1 = [2, 3, 4] := by decide
  obtain ⟨before, behind, hsplit, hplace, -, hothers⟩ :=
    replaced_in_place_iff operations 3 [4, 3, 5] hp (by decide) (by decide)
  obtain ⟨rfl, rfl⟩ : before = [2] ∧ behind = [4] := by
    have hlist : before ++ 3 :: behind = [2, 3, 4] := hsplit.symm.trans hchildren
    match before with
    | [] => cases hlist
    | [b] =>
      cases hlist
      exact ⟨rfl, rfl⟩
    | [b, c] => cases hlist
    | b :: c :: e :: before => simp at hlist
  exact ⟨hchildren, hplace.2 (Or.inl (by decide)), hothers 4 (by decide)⟩

/-- A sibling in front of a node that takes its place comes behind the next sibling. -/
theorem not_in_place_behind :
    let d := empty.perform
      [.appendElement 0 "p", .appendElement 1 "a", .appendElement 1 "b", .appendElement 1 "c"]
    d.parent? 3 = some 1 ∧ d.children 1 = [2] ++ 3 :: [4] ∧
      (d.replaceWith 3 [2]).children 1 ≠ without [2] [2] ++ [2] ++ without [2] [4] ∧
      (d.replaceWith 3 [2]).children 1 = [4, 2] := by
  decide

end Document
end Rubric
