import Mathlib.Logic.Relation
import Rubric.Proofs.Tree.Links

/-!
# Forests

* `Document.Above d a n` : `a` is `n`, or a node that one comes to from `n` by going to parents;
* `Document.Ends d n` : going from `n` to parents comes to an end; `Ends.existsUnique_top` : at one node;
* `Operation.inserts` : the nodes that an operation puts below others; `Operation.Grounded` : none of them
  is put below itself or a node below it. `Document.Grounded` : so for operations in a row;
* `links_consistent` : after any operations the two ends of every link agree, and after grounded ones the
  nodes form a forest.
-/

namespace Rubric
namespace Document

/-- A node, or one that is reached from it by going to parents. -/
def Above (d : Document) (a n : NodeId) : Prop :=
  Relation.ReflTransGen (fun c p => d.parent? c = some p) n a

/-- Going to parents comes to an end. -/
inductive Ends (d : Document) : NodeId → Prop where
  | top {n : NodeId} (h : d.parent? n = none) : Ends d n
  | up {n p : NodeId} (h : d.parent? n = some p) (hp : Ends d p) : Ends d n

variable {d d' : Document} {a n p : NodeId}

/-! ## Nodes above a node -/

theorem above_of_parent? (h : d.parent? n = some p) : d.Above a n ↔ a = n ∨ d.Above a p := by
  rw [Above, Relation.ReflTransGen.cases_head_iff]
  refine or_congr eq_comm ⟨?_, fun ha => ⟨p, h, ha⟩⟩
  rintro ⟨q, hq, ha⟩
  cases h.symm.trans hq
  exact ha

theorem above_of_top (h : d.parent? n = none) : d.Above a n ↔ a = n := by
  rw [Above, Relation.ReflTransGen.cases_head_iff]
  refine ⟨?_, fun ha => Or.inl ha.symm⟩
  rintro (ha | ⟨q, hq, -⟩)
  · exact ha.symm
  · cases h.symm.trans hq

theorem Above.of_subset (h : d'.Above a n) (hsub : ∀ c p, d'.parent? c = some p → d.parent? c = some p) :
    d.Above a n := Relation.ReflTransGen.mono hsub _ _ h

theorem Ends.of_subset (h : d.Ends n) (hsub : ∀ c p, d'.parent? c = some p → d.parent? c = some p) :
    d'.Ends n := by
  induction h with
  | @top n hn =>
    refine .top ?_
    cases hp : d'.parent? n with
    | none => rfl
    | some p => cases hn.symm.trans (hsub n p hp)
  | @up n p hn _ ih =>
    cases hq : d'.parent? n with
    | none => exact .top hq
    | some q =>
      cases hn.symm.trans (hsub n q hq)
      exact .up hq ih

/-- There is one node at which going to parents ends. -/
theorem Ends.existsUnique_top (h : d.Ends n) : ∃! r, d.Above r n ∧ d.parent? r = none := by
  induction h with
  | @top n hn => exact ⟨n, ⟨.refl, hn⟩, fun r hr => (above_of_top hn).1 hr.1⟩
  | @up n p hn _ ih =>
    obtain ⟨r, ⟨habove, hr⟩, hunique⟩ := ih
    refine ⟨r, ⟨(above_of_parent? hn).2 (Or.inr habove), hr⟩, ?_⟩
    rintro r' ⟨habove', hr'⟩
    rcases (above_of_parent? hn).1 habove' with rfl | habove'
    · cases hn.symm.trans hr'
    · exact hunique r' ⟨habove', hr'⟩

/-! ## Links that are taken away and added -/

theorem parent?_of_detach {c q : NodeId} (h : (d.detach n).parent? c = some q) : d.parent? c = some q := by
  rw [parent?_detach] at h
  split at h
  · cases h
  · exact h

theorem Above.of_detach (h : (d.detach n).Above a p) : d.Above a p :=
  h.of_subset fun _ _ => parent?_of_detach

theorem ends_detach (h : ∀ m, d.Ends m) (m : NodeId) : (d.detach n).Ends m :=
  (h m).of_subset fun _ _ => parent?_of_detach

theorem parent?_insertChild_of_ne {m : NodeId} (index : Nat) (hm : m ≠ n) :
    (d.insertChild p index n).parent? m = d.parent? m := by
  rw [insertChild]
  by_cases hsize : p < (d.detach n).size ∧ n < (d.detach n).size
  · rw [parent?_link index hsize.1 hsize.2, if_neg hm, parent?_detach, if_neg hm]
  · rw [link_of_not index hsize, parent?_detach, if_neg hm]

theorem parent?_insertChild_self (index : Nat) :
    (d.insertChild p index n).parent? n = some p ∨ (d.insertChild p index n).parent? n = none := by
  rw [insertChild]
  by_cases hsize : p < (d.detach n).size ∧ n < (d.detach n).size
  · exact Or.inl (by rw [parent?_link index hsize.1 hsize.2, if_pos rfl])
  · exact Or.inr (by rw [link_of_not index hsize, parent?_detach, if_pos rfl])

/-- Nothing changes on the way up from a node that another one is not above, if that one is moved. -/
theorem Above.of_insertChild {q : NodeId} {index : Nat} (h : (d.insertChild p index n).Above a q)
    (hq : ¬d.Above n q) : d.Above a q := by
  induction h using Relation.ReflTransGen.head_induction_on with
  | refl => exact .refl
  | @head c r hc _ ih =>
    have hne : c ≠ n := fun heq => hq (heq ▸ .refl)
    rw [parent?_insertChild_of_ne index hne] at hc
    have hr := above_of_parent? (a := n) hc
    exact (above_of_parent? hc).2 (Or.inr (ih fun hr' => hq (hr.2 (Or.inr hr'))))

theorem ends_insertChild (h : ∀ m, d.Ends m) (index : Nat) (hn : ¬d.Above n p) (m : NodeId) :
    (d.insertChild p index n).Ends m := by
  -- the way up from `p` does not lead over the node that is moved
  have hplace : ∀ q, d.Ends q → ¬d.Above n q → (d.insertChild p index n).Ends q := by
    intro q hq hnq
    induction hq with
    | @top q htop =>
      have hne : q ≠ n := fun heq => hnq (heq ▸ .refl)
      exact .top ((parent?_insertChild_of_ne index hne).trans htop)
    | @up q r hup _ ih =>
      have hne : q ≠ n := fun heq => hnq (heq ▸ .refl)
      have hr : ¬d.Above n r := fun hr => hnq ((above_of_parent? hup).2 (Or.inr hr))
      exact .up ((parent?_insertChild_of_ne index hne).trans hup) (ih hr)
  have hself : (d.insertChild p index n).Ends n := by
    rcases parent?_insertChild_self (d := d) (p := p) (n := n) index with hp | htop
    · exact .up hp (hplace p (h p) hn)
    · exact .top htop
  have hm := h m
  induction hm with
  | @top q htop =>
    by_cases hq : q = n
    · exact hq ▸ hself
    · exact .top ((parent?_insertChild_of_ne index hq).trans htop)
  | @up q r hup _ ih =>
    by_cases hq : q = n
    · exact hq ▸ hself
    · exact .up ((parent?_insertChild_of_ne index hq).trans hup) ih

theorem ends_insertAll (h : ∀ m, d.Ends m) (index : Nat) {ns : List NodeId}
    (hns : ∀ n ∈ ns, ¬d.Above n p) (m : NodeId) : (d.insertAll p index ns).Ends m := by
  induction ns generalizing d index with
  | nil => exact h m
  | cons n rest ih =>
    obtain ⟨hn, hrest⟩ := List.forall_mem_cons.1 hns
    exact ih (ends_insertChild h index hn) (index + 1) fun r hr hr' =>
      hrest r hr (hr'.of_insertChild hn)

theorem ends_detachAll (h : ∀ m, d.Ends m) (ns : List NodeId) (m : NodeId) :
    (ns.foldl detach d).Ends m := by
  induction ns generalizing d with
  | nil => exact h m
  | cons n rest ih => exact ih (ends_detach h)

theorem Above.of_detachAll {ns : List NodeId} (h : (ns.foldl detach d).Above a n) : d.Above a n := by
  induction ns generalizing d with
  | nil => exact h
  | cons m rest ih => exact (ih h).of_detach

theorem size_detach : (d.detach n).size = d.size := by
  rw [detach]
  split <;> simp

theorem size_detachAll (ns : List NodeId) : (ns.foldl detach d).size = d.size := by
  induction ns generalizing d with
  | nil => rfl
  | cons n rest ih => exact ih.trans size_detach

theorem ends_appendCreated (h : ∀ m, d.Ends m) (kind : NodeKind) (hp : ¬d.Above d.size p) (m : NodeId) :
    ((d.create kind).2.appendChild p (d.create kind).1).Ends m := by
  refine ends_insertChild (fun q => (h q).of_subset ?_) _ (fun habove => hp (habove.of_subset ?_)) m <;>
    simp

/-! ## Grounded operations -/

/-- The nodes that an operation puts below others, each behind the one that it is put below. A new node
has the handle `d.size`. -/
def Operation.inserts (d : Document) : Operation → List (NodeId × NodeId)
  | create _ | detach _ | modifyAttrs .. => []
  | appendElement p _ => [(p, d.size)]
  | appendText p _ => if ((d.children p).getLast?.bind d.text?).isSome then [] else [(p, d.size)]
  | appendChild p n => [(p, n)]
  | insertChild p _ n => [(p, n)]
  | replaceWith n replacements => (d.parent? n).elim [] fun p => replacements.map (p, ·)
  | setText n _ => if (d.text? n).isSome then [] else [(n, d.size)]

def Operation.Grounded (d : Document) (operation : Operation) : Prop :=
  ∀ e ∈ operation.inserts d, ¬d.Above e.2 e.1

/-- No operation puts a node below itself or a node below it. -/
def Grounded : Document → List Operation → Prop
  | _, [] => True
  | d, operation :: rest => operation.Grounded d ∧ Grounded (operation.run d) rest

theorem ends_appendText (h : ∀ m, d.Ends m) {s : String} (hg : (Operation.appendText p s).Grounded d)
    (m : NodeId) : (d.appendText p s).2.Ends m := by
  rw [Operation.Grounded, Operation.inserts] at hg
  rw [appendText]
  cases hlast : (d.children p).getLast? with
  | none =>
    rw [hlast] at hg
    exact ends_appendCreated h _ (hg _ (List.mem_singleton_self _)) m
  | some last =>
    rw [hlast, Option.bind_some] at hg
    cases ht : d.text? last with
    | none =>
      rw [ht] at hg
      simp only [ht]
      exact ends_appendCreated h _ (hg _ (List.mem_singleton_self _)) m
    | some t =>
      simp only [ht]
      exact (h m).of_subset fun c q hc => by rwa [parent?_modify (by simp)] at hc

theorem ends_replaceWith (h : ∀ m, d.Ends m) {ns : List NodeId}
    (hg : (Operation.replaceWith n ns).Grounded d) (m : NodeId) : (d.replaceWith n ns).Ends m := by
  rw [Operation.Grounded, Operation.inserts] at hg
  rw [replaceWith]
  split
  · rename_i p index hp _
    rw [hp, Option.elim_some] at hg
    refine ends_insertAll (ends_detach h) index (fun r hr habove => ?_) m
    exact hg (p, r) (List.mem_map_of_mem hr) habove.of_detach
  · exact h m

theorem ends_setText (h : ∀ m, d.Ends m) {s : String} (hg : (Operation.setText n s).Grounded d)
    (m : NodeId) : (d.setText n s).Ends m := by
  rw [Operation.Grounded, Operation.inserts] at hg
  rw [setText]
  cases ht : d.text? n with
  | some t => exact (h m).of_subset fun c q hc => by rwa [parent?_modify (by simp)] at hc
  | none =>
    rw [ht] at hg
    refine ends_appendCreated (ends_detachAll h _) _ (fun habove => ?_) m
    rw [size_detachAll] at habove
    exact hg _ (List.mem_singleton_self _) habove.of_detachAll

/-- A grounded operation keeps a forest. -/
theorem ends_run (h : ∀ m, d.Ends m) (operation : Operation) (hg : operation.Grounded d) (m : NodeId) :
    (operation.run d).Ends m := by
  cases operation with
  | create kind => exact (h m).of_subset fun c q hc => by rwa [Operation.run, parent?_create] at hc
  | appendElement p tag => exact ends_appendCreated h _ (hg _ (List.mem_singleton_self _)) m
  | appendText p s => exact ends_appendText h hg m
  | appendChild p n => exact ends_insertChild h _ (hg _ (List.mem_singleton_self _)) m
  | insertChild p index n => exact ends_insertChild h index (hg _ (List.mem_singleton_self _)) m
  | detach n => exact ends_detach h m
  | replaceWith n ns => exact ends_replaceWith h hg m
  | setText n s => exact ends_setText h hg m
  | modifyAttrs n f =>
    refine (h m).of_subset fun c q hc => ?_
    rwa [Operation.run, modifyAttrs, parent?_modify fun e => by cases e.kind <;> rfl] at hc

theorem ends_perform (h : ∀ m, d.Ends m) {operations : List Operation} (hg : d.Grounded operations)
    (m : NodeId) : (d.perform operations).Ends m := by
  induction operations generalizing d with
  | nil => exact h m
  | cons operation rest ih => exact ih (ends_run h operation hg.1) hg.2

theorem ends_empty (m : NodeId) : empty.Ends m := by
  refine .top ?_
  cases m with
  | zero => rfl
  | succ m => exact parent?_of_size_le (Nat.le_add_left 1 m)

/-- After any operations, with any handles and places, a node is among the children of its parent and of
no other node, no node is there twice, and the nodes with a parent are those that have a place. If no
operation puts a node below itself or a node below it, then going to parents comes to an end from every
node, at the one root of its tree. -/
theorem links_consistent (operations : List Operation) :
    let d := empty.perform operations
    (∀ p c, c ∈ d.children p ↔ d.parent? c = some p) ∧ (∀ p, (d.children p).Nodup) ∧
      (∀ n, (d.index? n).isSome ↔ (d.parent? n).isSome) ∧
      (empty.Grounded operations → ∀ n, d.Ends n ∧ ∃! r, d.Above r n ∧ d.parent? r = none) := by
  intro d
  have hlinked : d.Linked := Linked.empty.perform operations
  refine ⟨hlinked.mem_children, hlinked.nodup, hlinked.index?_isSome, fun hg n => ?_⟩
  have hends := ends_perform ends_empty hg n
  exact ⟨hends, hends.existsUnique_top⟩

/-- A node takes the place of its neighbour, given twice and beside that neighbour itself. -/
theorem links_consistent_replaced :
    let operations : List Operation :=
      [.appendElement 0 "p", .appendText 1 "a", .appendElement 1 "em", .replaceWith 3 [2, 3, 2]]
    empty.Grounded operations ∧ ∀ n, (empty.perform operations).Ends n ∧
      ∃! r, (empty.perform operations).Above r n ∧ (empty.perform operations).parent? r = none := by
  intro operations
  have hroot : ∀ {d : Document} {a : NodeId}, d.parent? 0 = none → a ≠ 0 → ¬d.Above a 0 :=
    fun htop hne habove => hne ((above_of_top htop).1 habove)
  have hbelow : ∀ {d : Document} {a : NodeId}, d.parent? 1 = some 0 → d.parent? 0 = none → a ≠ 0 →
      a ≠ 1 → ¬d.Above a 1 := fun hp htop hne hne' habove =>
    ((above_of_parent? hp).1 habove).elim hne' (hroot htop hne)
  have hgrounded : empty.Grounded operations := by
    refine ⟨?_, ?_, ?_, ?_, trivial⟩ <;> intro e he
    · rw [List.mem_singleton.1 he]
      exact hroot rfl (by decide)
    · rw [List.mem_singleton.1 he]
      exact hbelow rfl rfl (by decide) (by decide)
    · rw [List.mem_singleton.1 he]
      exact hbelow rfl rfl (by decide) (by decide)
    · have hmem : e ∈ [(1, 2), (1, 3), (1, 2)] := he
      simp only [List.mem_cons, List.not_mem_nil, or_false] at hmem
      rcases hmem with rfl | rfl | rfl <;> exact hbelow rfl rfl (by decide) (by decide)
  exact ⟨hgrounded, (links_consistent operations).2.2.2 hgrounded⟩

end Document
end Rubric
