import Mathlib.Data.List.Perm.Subperm
import Rubric.Proofs.Tree.Forest

/-!
# Visiting the nodes of a document

* `Document.Forest d` : the links of a document are consistent, and going to parents comes to an end;
* `Document.Visits d stack out` : with a stack of nodes, the top at its end, the loop that takes a node off and
  puts its children on comes to an end, after visiting the nodes of `out`;
* `Document.Preorder d ns out` : `out` lists some nodes, each followed by the nodes below it;
  `Preorder.unique` : there is one such list;
* `Document.Walking` : what holds while the nodes below a node are visited. `Walking.step` : one turn of the loop;
  `Walking.length_le` : so there are no more turns than nodes;
* `Forest.visits_descendants`, `Forest.preorder_iff`, `Forest.mem_descendants` : the nodes below a node are visited,
  each once, in order.
-/

namespace Rubric
namespace Document

/-- The links are consistent, and no node is below itself. -/
structure Forest (d : Document) : Prop where
  linked : d.Linked
  ends : ∀ n, d.Ends n

/-- The top of a stack is taken off and visited, and its children are put on, the last one first, until the
stack is empty. -/
inductive Visits (d : Document) : List NodeId → List NodeId → Prop where
  | done : Visits d [] []
  | next {n : NodeId} {stack out : List NodeId} (h : Visits d (stack ++ (d.children n).reverse) out) :
      Visits d (stack ++ [n]) (n :: out)

/-- A list of nodes and all nodes below them, each in front of what is below it. -/
inductive Preorder (d : Document) : List NodeId → List NodeId → Prop where
  | nil : Preorder d [] []
  | cons {n : NodeId} {rest below behind : List NodeId} (hbelow : Preorder d (d.children n) below)
      (hbehind : Preorder d rest behind) : Preorder d (n :: rest) (n :: below ++ behind)

variable {d : Document} {n m p top : NodeId} {ns ms out out' stack : List NodeId}

/-! ## Lists in order -/

namespace Preorder

theorem append (h : d.Preorder ns out) (h' : d.Preorder ms out') : d.Preorder (ns ++ ms) (out ++ out') := by
  induction h with
  | nil => exact h'
  | @cons n rest below behind hbelow _ _ ih =>
    rw [List.cons_append, List.append_assoc]
    exact .cons hbelow ih

theorem exists_append (h : d.Preorder (ns ++ ms) out) :
    ∃ front back, out = front ++ back ∧ d.Preorder ns front ∧ d.Preorder ms back := by
  induction ns generalizing out with
  | nil => exact ⟨[], out, rfl, .nil, h⟩
  | cons n ns ih =>
    cases h with
    | @cons _ _ below behind hbelow hbehind =>
      obtain ⟨front, back, rfl, hfront, hback⟩ := ih hbehind
      exact ⟨n :: below ++ front, back, by simp, .cons hbelow hfront, hback⟩

theorem unique (h : d.Preorder ns out) (h' : d.Preorder ns out') : out' = out := by
  induction h generalizing out' with
  | nil =>
    cases h'
    rfl
  | cons _ _ ihBelow ihBehind =>
    cases h' with
    | cons hbelow hbehind => rw [ihBelow hbelow, ihBehind hbehind]

theorem subset (h : d.Preorder ns out) : ns ⊆ out := by
  induction h with
  | nil => exact List.Subset.refl _
  | cons _ _ _ ih =>
    refine List.cons_subset_cons _ (List.Subset.trans ih (List.subset_append_right _ _))

theorem children_subset (h : d.Preorder ns out) (hn : n ∈ out) : d.children n ⊆ out := by
  induction h with
  | nil => cases hn
  | @cons m rest below behind hbelow _ ihBelow ihBehind =>
    rw [List.cons_append, List.mem_cons, List.mem_append] at hn
    rw [List.cons_append]
    refine List.subset_cons_of_subset _ ?_
    rcases hn with rfl | hn | hn
    · exact List.Subset.trans hbelow.subset (List.subset_append_left _ _)
    · exact List.Subset.trans (ihBelow hn) (List.subset_append_left _ _)
    · exact List.Subset.trans (ihBehind hn) (List.subset_append_right _ _)

end Preorder

/-- The loop visits the nodes of a stack from the top, each in front of what is below it. -/
theorem Visits.preorder (h : d.Visits stack out) : d.Preorder stack.reverse out := by
  induction h with
  | done => exact .nil
  | @next n stack out _ ih =>
    rw [List.reverse_append, List.reverse_reverse] at ih
    obtain ⟨below, behind, rfl, hbelow, hbehind⟩ := ih.exists_append
    rw [List.reverse_append, List.reverse_singleton, List.singleton_append, ← List.cons_append]
    exact .cons hbelow hbehind

/-! ## The loop -/

/-- The way up from a node does not lead back to it. -/
theorem Ends.not_above_parent (h : d.Ends n) (hp : d.parent? n = some p) : ¬d.Above n p := by
  induction h generalizing p with
  | top htop => cases htop.symm.trans hp
  | @up n p hup _ ih =>
    cases hup.symm.trans hp
    intro habove
    cases hq : d.parent? p with
    | none =>
      rw [above_of_top hq] at habove
      subst habove
      cases hq.symm.trans hp
    | some q =>
      refine ih hq ?_
      rcases (above_of_parent? hq).1 habove with rfl | habove
      · cases hq.symm.trans hp
        exact .refl
      · exact habove.trans (.single hp)

/-- While the nodes below a node are visited: what has been visited and what stands on the stack are different
nodes below it, and the parent of each has been visited. -/
structure Walking (d : Document) (top : NodeId) (out stack : List NodeId) : Prop where
  nodup : (out ++ stack).Nodup
  below : ∀ n ∈ out ++ stack, d.Above top n
  parent : ∀ n ∈ out ++ stack, ∃ p ∈ top :: out, d.parent? n = some p

namespace Walking

theorem of_children (h : d.Linked) (top : NodeId) : d.Walking top [] (d.children top) where
  nodup := h.nodup top
  below n hn := .single ((h.mem_children top n).1 hn)
  parent n hn := ⟨top, List.mem_cons_self .., (h.mem_children top n).1 hn⟩

theorem top_notMem (hends : d.Ends top) (h : d.Walking top out stack) : top ∉ out ++ stack := by
  intro hmem
  obtain ⟨p, hp, hparent⟩ := h.parent top hmem
  refine hends.not_above_parent hparent ?_
  rcases List.mem_cons.1 hp with rfl | hp
  · exact .refl
  · exact h.below p (List.mem_append_left _ hp)

/-- A node is taken off the stack, and its children are put on. -/
theorem step (hlinked : d.Linked) (hends : d.Ends top) (h : d.Walking top out (n :: stack)) :
    d.Walking top (out ++ [n]) (d.children n ++ stack) := by
  have hn : n ∈ out ++ n :: stack := List.mem_append_right _ (List.mem_cons_self ..)
  have hmem : ∀ c ∈ out ++ [n] ++ (d.children n ++ stack), c ∈ out ++ n :: stack ∨ c ∈ d.children n := by
    intro c hc
    simp only [List.mem_append, List.mem_cons, List.not_mem_nil, or_false] at hc ⊢
    tauto
  -- the parent of a node that is new on the stack has not been visited before
  have hnew : ∀ c ∈ d.children n, c ∉ out ++ n :: stack := by
    intro c hc hold
    obtain ⟨p, hp, hparent⟩ := h.parent c hold
    cases hparent.symm.trans ((hlinked.mem_children n c).1 hc)
    rcases List.mem_cons.1 hp with rfl | hp
    · exact h.top_notMem hends hn
    · exact (List.nodup_append.1 h.nodup).2.2 n hp n (List.mem_cons_self ..) rfl
  refine ⟨?_, fun c hc => ?_, fun c hc => ?_⟩
  · have hperm : (out ++ [n] ++ (d.children n ++ stack)).Perm (d.children n ++ (out ++ n :: stack)) := by
      rw [show out ++ n :: stack = out ++ [n] ++ stack by simp]
      exact List.perm_append_comm_assoc ..
    rw [hperm.nodup_iff]
    exact List.nodup_append.2 ⟨hlinked.nodup n, h.nodup, fun c hc c' hc' heq => hnew c hc (heq ▸ hc')⟩
  · rcases hmem c hc with hold | hc
    · exact h.below c hold
    · exact (h.below n hn).head ((hlinked.mem_children n c).1 hc)
  · rcases hmem c hc with hold | hc
    · obtain ⟨p, hp, hparent⟩ := h.parent c hold
      exact ⟨p, List.cons_subset_cons _ (List.subset_append_left _ _) hp, hparent⟩
    · exact ⟨n, by simp, (hlinked.mem_children n c).1 hc⟩

/-- There are no more nodes visited or on the stack than the document has. -/
theorem length_le (h : d.Walking top out stack) : out.length + stack.length ≤ d.size := by
  have hsub : out ++ stack ⊆ List.range d.size := by
    intro c hc
    obtain ⟨p, -, hparent⟩ := h.parent c hc
    refine List.mem_range.2 (Nat.lt_of_not_le fun hle => ?_)
    rw [parent?_of_size_le hle] at hparent
    cases hparent
  have hle := (h.nodup.subperm hsub).length_le
  rwa [List.length_append, List.length_range] at hle

end Walking

theorem visit_nil (k : Nat) : d.visit k [] = [] := by
  cases k <;> rfl

/-- With as many turns left as there are nodes that have not been visited, the loop comes to its end. -/
theorem visits_visit (hlinked : d.Linked) (hends : d.Ends top) (h : d.Walking top out stack) {k : Nat}
    (hk : d.size ≤ out.length + k) :
    d.Visits stack.reverse (d.visit k stack) ∧ d.Walking top (out ++ d.visit k stack) [] := by
  induction k generalizing out stack with
  | zero =>
    have hle := h.length_le
    obtain rfl : stack = [] := List.length_eq_zero_iff.1 (by omega)
    rw [visit, List.append_nil]
    exact ⟨.done, h⟩
  | succ k ih =>
    cases stack with
    | nil =>
      rw [visit_nil, List.append_nil]
      exact ⟨.done, h⟩
    | cons n stack =>
      have hlength : d.size ≤ (out ++ [n]).length + k := by
        rw [List.length_append, List.length_singleton]
        omega
      obtain ⟨hvisits, hwalking⟩ := ih (h.step hlinked hends) hlength
      rw [List.reverse_append] at hvisits
      rw [List.append_assoc] at hwalking
      rw [visit, List.reverse_cons]
      exact ⟨.next hvisits, hwalking⟩

namespace Forest

theorem visits_descendants (h : d.Forest) (n : NodeId) :
    d.Visits (d.children n).reverse (d.descendants n) ∧ d.Walking n (d.descendants n) [] :=
  visits_visit h.linked (h.ends n) (.of_children h.linked n) (by simp)

theorem preorder_descendants (h : d.Forest) (n : NodeId) : d.Preorder (d.children n) (d.descendants n) := by
  have hpreorder := (h.visits_descendants n).1.preorder
  rwa [List.reverse_reverse] at hpreorder

theorem preorder_iff (h : d.Forest) : d.Preorder (d.children n) out ↔ out = d.descendants n :=
  ⟨fun hout => (h.preorder_descendants n).unique hout, fun heq => heq ▸ h.preorder_descendants n⟩

theorem nodup_descendants (h : d.Forest) (n : NodeId) : (d.descendants n).Nodup := by
  have hnodup := (h.visits_descendants n).2.nodup
  rwa [List.append_nil] at hnodup

/-- The descendants of a node are the nodes below it. -/
theorem mem_descendants (h : d.Forest) : m ∈ d.descendants n ↔ d.Above n m ∧ m ≠ n := by
  constructor
  · intro hm
    have hwalking := (h.visits_descendants n).2
    rw [← List.append_nil (d.descendants n)] at hm
    refine ⟨hwalking.below m hm, ?_⟩
    rintro rfl
    exact hwalking.top_notMem (h.ends m) hm
  · rintro ⟨habove, hne⟩
    have hpreorder := h.preorder_descendants n
    induction habove using Relation.ReflTransGen.head_induction_on with
    | refl => exact absurd rfl hne
    | @head m p hparent _ ih =>
      have hm : m ∈ d.children p := (h.linked.mem_children p m).2 hparent
      by_cases hp : p = n
      · exact hpreorder.subset (hp ▸ hm)
      · exact hpreorder.children_subset (ih hp) hm

end Forest
end Document
end Rubric
