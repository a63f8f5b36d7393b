import Rubric.Proofs.Tree.Replacement
import Rubric.Proofs.Tree.Traversal

/-!
# The text of a tree

* `Document.texts d ns` : the texts of the text nodes of a list, joined; `Document.allText d n` : those of the
  text nodes at and below a node, in document order;
* `Document.inPlace t rs ns` : a list with other nodes in the place of one. `children_replaceWith` : so are the
  children of all nodes when a node is replaced by nodes that are in no tree;
* `Preorder.inPlace` : where nodes with the same text take the place of a node, the text at and below the nodes
  of a list remains the same. `Forest.textContent_replaceWith`, `Forest.textContent_wrap` : so the text of all
  nodes remains when a node is replaced by pieces, or put into an element;
* `traversal_in_order` : the loop over a stack lists the nodes below a node in document order, what their text is
  and what leaves it as it is.
-/

namespace Rubric
namespace Document

def texts (d : Document) (ns : List NodeId) : String := String.join (ns.filterMap d.text?)

/-- The texts of the text nodes at and below a node, joined in document order. -/
def allText (d : Document) (n : NodeId) : String := d.texts (n :: d.descendants n)

def inPlace (t : NodeId) (rs ns : List NodeId) : List NodeId := ns.flatMap fun n => if n = t then rs else [n]

variable {d d' : Document} {e m n p t : NodeId} {ns out rs ors before behind : List NodeId} {s : String}

/-! ## Texts of lists -/

theorem texts_append (ns ms : List NodeId) : d.texts (ns ++ ms) = d.texts ns ++ d.texts ms := by
  rw [texts, List.filterMap_append, String.join_append, texts, texts]

theorem texts_cons (n : NodeId) (ns : List NodeId) : d.texts (n :: ns) = d.texts [n] ++ d.texts ns :=
  texts_append [n] ns

theorem texts_congr (h : ∀ m, d'.text? m = d.text? m) (ns : List NodeId) : d'.texts ns = d.texts ns := by
  rw [texts, funext h, texts]

theorem texts_flatMap (ns : List NodeId) (f : NodeId → List NodeId) :
    d.texts (ns.flatMap f) = String.join (ns.map fun n => d.texts (f n)) := by
  induction ns with
  | nil => rfl
  | cons n ns ih => rw [List.flatMap_cons, texts_append, ih, List.map_cons, String.join_cons]

theorem texts_cons_of_text (ht : d.text? n = some s) (ns : List NodeId) : d.texts (n :: ns) = s ++ d.texts ns := by
  rw [texts, List.filterMap_cons_some ht, String.join_cons, texts]

theorem texts_cons_of_element (ht : d.text? n = none) (ns : List NodeId) : d.texts (n :: ns) = d.texts ns := by
  rw [texts, List.filterMap_cons_none ht, texts]

/-- The text of a text node is its own, and that of an element is all text below it. -/
theorem textContent_of_text (ht : d.text? n = some s) : d.textContent n = s := by
  rw [textContent, ht]

theorem textContent_of_element (ht : d.text? n = none) : d.textContent n = d.texts (d.descendants n) := by
  rw [textContent, ht, texts]

/-- Text below a text node is left out. -/
theorem textContent_eq_allText_iff :
    d.textContent n = d.allText n ↔ ∀ s, d.text? n = some s → d.texts (d.descendants n) = "" := by
  cases ht : d.text? n with
  | none =>
    rw [textContent_of_element ht, allText, texts_cons_of_element ht]
    simp
  | some s =>
    rw [textContent_of_text ht, allText, texts_cons_of_text ht, eq_comm, String.append_eq_left_iff]
    simp

/-! ## Kinds of nodes -/

theorem text?_congr (h : (d'.get? n).map Entry.kind = (d.get? n).map Entry.kind) : d'.text? n = d.text? n := by
  rw [text?, h, text?]

theorem text?_of_tag? (h : (d.tag? n).isSome) : d.text? n = none := by
  rw [tag?] at h
  rw [text?]
  split
  · rename_i hkind
    rw [hkind] at h
    cases h
  · rfl

theorem text?_modify {f : Entry → Entry} (hf : ∀ e, (f e).kind = e.kind) (n m : NodeId) :
    (d.modify n f).text? m = d.text? m := by
  refine text?_congr ?_
  rw [get?_modify]
  split
  · rw [Option.map_map]
    exact congrArg (Option.map · _) (funext hf)
  · rfl

theorem text?_detach (n m : NodeId) : (d.detach n).text? m = d.text? m := by
  rw [detach]
  split
  · rfl
  · rw [text?_modify (by simp), text?_modify (by simp)]

theorem text?_insertChild (p : NodeId) (index : Nat) (n m : NodeId) :
    (d.insertChild p index n).text? m = d.text? m := by
  rw [insertChild, link]
  split
  · rw [text?_modify (by simp), text?_modify (by simp), text?_detach]
  · exact text?_detach n m

theorem text?_insertAll (p : NodeId) (index : Nat) (ns : List NodeId) (m : NodeId) :
    (d.insertAll p index ns).text? m = d.text? m := by
  induction ns generalizing d index with
  | nil => rfl
  | cons n ns ih => rw [insertAll, ih, text?_insertChild]

theorem text?_replaceWith (n : NodeId) (rs : List NodeId) (m : NodeId) :
    (d.replaceWith n rs).text? m = d.text? m := by
  rw [replaceWith]
  split
  · rw [text?_insertAll, text?_detach]
  · rfl

/-! ## Nodes in the place of another -/

theorem mem_inPlace : n ∈ inPlace t rs ns ↔ n ∈ ns ∧ n ≠ t ∨ t ∈ ns ∧ n ∈ rs := by
  rw [inPlace, List.mem_flatMap]
  constructor
  · rintro ⟨c, hc, hn⟩
    split at hn
    · rename_i heq
      exact Or.inr ⟨heq ▸ hc, hn⟩
    · rename_i hne
      obtain rfl := List.mem_singleton.1 hn
      exact Or.inl ⟨hc, hne⟩
  · rintro (⟨hn, hne⟩ | ⟨ht, hn⟩)
    · exact ⟨n, hn, by rw [if_neg hne]; exact List.mem_singleton_self n⟩
    · exact ⟨t, ht, by rwa [if_pos rfl]⟩

theorem inPlace_of_notMem (rs : List NodeId) (ht : t ∉ ns) : inPlace t rs ns = ns := by
  induction ns with
  | nil => rfl
  | cons n ns ih =>
    rw [List.mem_cons, not_or] at ht
    rw [inPlace, List.flatMap_cons, if_neg (Ne.symm ht.1), List.singleton_append]
    exact congrArg _ (ih ht.2)

theorem inPlace_cons_self (t : NodeId) (rs ns : List NodeId) : inPlace t rs (t :: ns) = rs ++ inPlace t rs ns := by
  rw [inPlace, List.flatMap_cons, if_pos rfl, inPlace]

theorem inPlace_cons_of_ne (hn : n ≠ t) (rs ns : List NodeId) : inPlace t rs (n :: ns) = n :: inPlace t rs ns := by
  rw [inPlace, List.flatMap_cons, if_neg hn, inPlace, List.singleton_append]

theorem inPlace_middle (rs : List NodeId) (hbefore : t ∉ before) (hbehind : t ∉ behind) :
    inPlace t rs (before ++ t :: behind) = before ++ rs ++ behind := by
  rw [inPlace, List.flatMap_append, ← inPlace, ← inPlace, inPlace_of_notMem rs hbefore, inPlace_cons_self,
    inPlace_of_notMem rs hbehind, List.append_assoc]

/-! ## Children of nodes that others are moved to -/

theorem filter_ne_of_notMem (hn : n ∉ ns) : ns.filter (· != n) = ns :=
  List.filter_eq_self.2 fun c hc => by simpa using ne_of_mem_of_not_mem hc hn

theorem Linked.notMem_children (h : d.Linked) (htop : d.parent? n = none) (q : NodeId) : n ∉ d.children q := by
  rw [h.mem_children, htop]
  exact Option.some_ne_none q ∘ Eq.symm

theorem children_insertChild_between (h : d.Linked) (hp : p < d.size) (hn : n < d.size)
    (htop : d.parent? n = none) (hchildren : d.children p = before ++ behind) :
    (d.insertChild p before.length n).children p = before ++ n :: behind := by
  rw [children_insertChild h _ hp hn, moveTo, filter_ne_of_notMem (h.notMem_children htop p), hchildren,
    Nat.min_eq_left (by simp), insertIdx_middle]

theorem children_insertChild_of_top (h : d.Linked) (htop : d.parent? n = none) (index : Nat) {q : NodeId}
    (hq : q ≠ p) : (d.insertChild p index n).children q = d.children q := by
  rw [children_insertChild_of_ne h index hq, filter_ne_of_notMem (h.notMem_children htop q)]

theorem children_insertAll_between (h : d.Linked) (hp : p < d.size) (hnodup : rs.Nodup)
    (hrs : ∀ r ∈ rs, r < d.size ∧ d.parent? r = none) (hchildren : d.children p = before ++ behind) :
    (d.insertAll p before.length rs).children p = before ++ rs ++ behind := by
  induction rs generalizing d before with
  | nil => rw [insertAll, List.append_nil, hchildren]
  | cons r rs ih =>
    obtain ⟨⟨hsize, htop⟩, hrest⟩ := List.forall_mem_cons.1 hrs
    obtain ⟨hnew, hnodup⟩ := List.nodup_cons.1 hnodup
    have hinsert : (d.insertChild p before.length r).children p = before ++ [r] ++ behind := by
      rw [children_insertChild_between h hp hsize htop hchildren, List.append_assoc, List.singleton_append]
    have hothers : ∀ r' ∈ rs, r' < (d.insertChild p before.length r).size ∧
        (d.insertChild p before.length r).parent? r' = none := by
      intro r' hr'
      rw [size_insertChild, parent?_insertChild_of_ne _ (ne_of_mem_of_not_mem hr' hnew)]
      exact hrest r' hr'
    have hlist := ih (h.insertChild p _ r) (by rwa [size_insertChild]) hnodup hothers hinsert
    rw [List.length_append, List.length_singleton] at hlist
    rw [insertAll, hlist]
    simp

theorem lt_size_of_mem_children (h : n ∈ d.children p) : p < d.size := by
  refine Nat.lt_of_not_le fun hle => ?_
  rw [children_of_size_le hle] at h
  cases h

theorem Linked.split_children (h : d.Linked) (hp : d.parent? t = some p) :
    ∃ before behind, d.children p = before ++ t :: behind ∧ t ∉ before ∧ t ∉ behind := by
  obtain ⟨before, behind, hchildren⟩ := List.mem_iff_append.1 ((h.mem_children p t).2 hp)
  have hdistinct : (before ++ t :: behind).Nodup := hchildren ▸ h.nodup p
  rw [List.nodup_middle, List.nodup_cons, List.mem_append, not_or] at hdistinct
  exact ⟨before, behind, hchildren, hdistinct.1.1, hdistinct.1.2⟩

theorem children_detach_middle (h : d.Linked) (hchildren : d.children p = before ++ t :: behind)
    (hbefore : t ∉ before) (hbehind : t ∉ behind) : (d.detach t).children p = before ++ behind := by
  rw [children_detach h, hchildren, List.filter_append, List.filter_cons, filter_ne_of_notMem hbefore,
    filter_ne_of_notMem hbehind]
  simp

/-- A node that is replaced by nodes in no tree: they are in its place in all lists of children. -/
theorem children_replaceWith (h : d.Linked) (hnodup : rs.Nodup)
    (hrs : ∀ r ∈ rs, r < d.size ∧ d.parent? r = none) (q : NodeId) :
    (d.replaceWith t rs).children q = inPlace t rs (d.children q) := by
  cases hp : d.parent? t with
  | none => rw [replaceWith, hp, inPlace_of_notMem rs (h.notMem_children hp q)]
  | some p =>
    obtain ⟨before, behind, hchildren, hbefore, hbehind⟩ := h.split_children hp
    have hreplace : d.replaceWith t rs = (d.detach t).insertAll p before.length rs := by
      rw [replaceWith, hp, index?_eq hp hchildren hbefore]
    have hsize : (d.detach t).size = d.size := size_detach
    have hdetached : ∀ r ∈ rs, r < (d.detach t).size ∧ (d.detach t).parent? r = none := by
      intro r hr
      rw [hsize, parent?_detach, (hrs r hr).2, ite_self]
      exact ⟨(hrs r hr).1, rfl⟩
    rw [hreplace]
    by_cases hq : q = p
    · have hgap := children_detach_middle h hchildren hbefore hbehind
      have hpsize : p < d.size := lt_size_of_mem_children ((h.mem_children p t).2 hp)
      rw [hq, children_insertAll_between (h.detach t) (hsize ▸ hpsize) hnodup hdetached hgap, hchildren,
        inPlace_middle rs hbefore hbehind]
    · have hnot : t ∉ d.children q := by
        rw [h.mem_children, hp]
        exact fun heq => hq (Option.some.inj heq).symm
      have hnone : ∀ c ∈ d.children q, c ∉ rs := fun c hc hr => h.notMem_children (hrs c hr).2 q hc
      rw [children_insertAll_of_ne (h.detach t) _ _ hq, children_detach h, filter_ne_of_notMem hnot,
        (without_of_clear hnone).2, inPlace_of_notMem rs hnot]

theorem size_insertAll (p : NodeId) (index : Nat) (ns : List NodeId) : (d.insertAll p index ns).size = d.size := by
  induction ns generalizing d index with
  | nil => rfl
  | cons n ns ih => rw [insertAll, ih, size_insertChild]

theorem size_replaceWith (t : NodeId) (rs : List NodeId) : (d.replaceWith t rs).size = d.size := by
  rw [replaceWith]
  split
  · rw [size_insertAll, size_detach]
  · rfl

/-! ## The text that remains -/

theorem Preorder.singleton (h : d.Preorder (d.children n) out) : d.Preorder [n] (n :: out) := by
  have hcons := Preorder.cons h .nil
  rwa [List.append_nil] at hcons

/-- In a list of nodes with everything below them, nodes with the same text are in the place of one. -/
theorem Preorder.inPlace (h : d.Preorder ns out)
    (hchildren : ∀ n ∈ out, d'.children n = inPlace t rs (d.children n)) (hrs : d'.Preorder rs ors)
    (htexts : ∀ below, d.Preorder (d.children t) below → d.texts ors = d.texts (t :: below)) :
    ∃ out', d'.Preorder (inPlace t rs ns) out' ∧ d.texts out' = d.texts out := by
  induction h with
  | nil => exact ⟨[], .nil, rfl⟩
  | @cons n rest below behind hbelow _ ihBelow ihBehind =>
    have hhere := hchildren n (by simp)
    obtain ⟨below', hbelow', htextBelow⟩ := ihBelow fun m hm => hchildren m (by simp [hm])
    obtain ⟨behind', hbehind', htextBehind⟩ := ihBehind fun m hm => hchildren m (by simp [hm])
    by_cases hn : n = t
    · subst hn
      -- what stood below the node need not be found any more
      refine ⟨ors ++ behind', ?_, ?_⟩
      · rw [inPlace_cons_self]
        exact hrs.append hbehind'
      · rw [texts_append, texts_append, htexts below hbelow, htextBehind]
    · refine ⟨n :: below' ++ behind', ?_, ?_⟩
      · rw [inPlace_cons_of_ne hn]
        rw [← hhere] at hbelow'
        exact .cons hbelow' hbehind'
      · rw [List.cons_append, texts_cons, texts_append, htextBelow, htextBehind, ← texts_append, ← texts_cons,
          List.cons_append]

theorem Preorder.congr (h : d.Preorder ns out) (hchildren : ∀ n ∈ out, d'.children n = d.children n) :
    d'.Preorder ns out := by
  induction h with
  | nil => exact .nil
  | @cons n rest below behind _ _ ihBelow ihBehind =>
    refine .cons ?_ (ihBehind fun m hm => hchildren m (by simp [hm]))
    rw [hchildren n (by simp)]
    exact ihBelow fun m hm => hchildren m (by simp [hm])

theorem Linked.above_leaf (h : d.Linked) (he : d.children e = []) (habove : d.Above e n) : n = e := by
  induction habove using Relation.ReflTransGen.head_induction_on with
  | refl => rfl
  | @head c p hparent _ ih =>
    have hc := (h.mem_children p c).2 hparent
    rw [ih, he] at hc
    cases hc

namespace Forest

theorem preorder_flatMap (h : d.Forest) (ns : List NodeId) :
    d.Preorder ns (ns.flatMap fun n => n :: d.descendants n) := by
  induction ns with
  | nil => exact .nil
  | cons n ns ih => exact .cons (h.preorder_descendants n) ih

theorem mem_cons_descendants (h : d.Forest) : m ∈ n :: d.descendants n ↔ d.Above n m := by
  rw [List.mem_cons, h.mem_descendants]
  refine ⟨?_, fun habove => (em (m = n)).imp id fun hne => ⟨habove, hne⟩⟩
  rintro (rfl | ⟨habove, -⟩)
  · exact .refl
  · exact habove

theorem notMem_children_below (h : d.Forest) (hn : d.Above t n) : t ∉ d.children n := by
  intro hmem
  exact (h.ends t).not_above_parent ((h.linked.mem_children n t).1 hmem) hn

theorem replaceWith (h : d.Forest) (hrs : ∀ r ∈ rs, ¬d.Above r t) : (d.replaceWith t rs).Forest := by
  refine ⟨h.linked.replaceWith t rs, ends_replaceWith h.ends ?_⟩
  intro link hlink
  rw [Operation.inserts] at hlink
  cases hp : d.parent? t with
  | none =>
    rw [hp] at hlink
    cases hlink
  | some p =>
    rw [hp, Option.elim_some] at hlink
    obtain ⟨r, hr, rfl⟩ := List.mem_map.1 hlink
    exact fun habove => hrs r hr ((above_of_parent? hp).2 (Or.inr habove))

/-- The text of a node remains if the nodes below it, in order, have the same text as before. -/
theorem textContent_congr (h : d'.Forest) (htext : ∀ m, d'.text? m = d.text? m)
    (hout : d'.Preorder (d'.children m) out) (hsame : d.texts out = d.texts (d.descendants m)) :
    d'.textContent m = d.textContent m := by
  cases ht : d.text? m with
  | some s => rw [textContent_of_text ht, textContent_of_text ((htext m).trans ht)]
  | none =>
    rw [textContent_of_element ht, textContent_of_element ((htext m).trans ht), ← h.preorder_iff.1 hout,
      texts_congr htext, hsame]

/-- Nodes that have the text of another, in pieces or in elements, take its place. -/
theorem textContent_replaceWith (h : d.Forest) (hnodup : rs.Nodup)
    (hrs : ∀ r ∈ rs, r < d.size ∧ d.parent? r = none ∧ ¬d.Above r t)
    (hsame : String.join (rs.map d.allText) = d.allText t) (m : NodeId) :
    (d.replaceWith t rs).textContent m = d.textContent m := by
  have hchildren : ∀ q, (d.replaceWith t rs).children q = Document.inPlace t rs (d.children q) :=
    children_replaceWith h.linked hnodup fun r hr => ⟨(hrs r hr).1, (hrs r hr).2.1⟩
  -- the trees of the replacements remain what they are
  have hpieces : (d.replaceWith t rs).Preorder rs (rs.flatMap fun r => r :: d.descendants r) := by
    refine (h.preorder_flatMap rs).congr fun n hn => ?_
    obtain ⟨r, hr, hn⟩ := List.mem_flatMap.1 hn
    have hbelow : d.Above r n := h.mem_cons_descendants.1 hn
    rw [hchildren, inPlace_of_notMem]
    intro ht
    exact (hrs r hr).2.2 (hbelow.head ((h.linked.mem_children n t).1 ht))
  have htexts : ∀ below, d.Preorder (d.children t) below →
      d.texts (rs.flatMap fun r => r :: d.descendants r) = d.texts (t :: below) := by
    intro below hbelow
    rw [h.preorder_iff.1 hbelow, texts_flatMap]
    exact hsame
  obtain ⟨out, hout, htextOut⟩ := (h.preorder_descendants m).inPlace (fun n _ => hchildren n) hpieces htexts
  rw [← hchildren] at hout
  exact (h.replaceWith fun r hr => (hrs r hr).2.2).textContent_congr (text?_replaceWith t rs) hout htextOut

/-- A node with others in its place comes to be above no other nodes. -/
theorem above_of_replaced (h : d.Forest) (hchildren : ∀ q, d'.children q = Document.inPlace t rs (d.children q))
    (hlinked : d'.Linked) (habove : d'.Above t n) : d.Above t n := by
  induction habove using Relation.ReflTransGen.head_induction_on with
  | refl => exact .refl
  | @head c p hparent _ ih =>
    have hc : c ∈ Document.inPlace t rs (d.children p) := hchildren p ▸ (hlinked.mem_children p c).2 hparent
    rcases mem_inPlace.1 hc with ⟨hc, -⟩ | ⟨ht, -⟩
    · exact ih.head ((h.linked.mem_children p c).1 hc)
    · exact absurd ih ((h.ends t).not_above_parent ((h.linked.mem_children p t).1 ht))

/-- Where a new element has taken the place of a node and is the one that the node is below, text remains. -/
theorem textContent_of_wrapped (h : d.Forest) (h' : d'.Forest) (htext : ∀ m, d'.text? m = d.text? m)
    (hwrapped : d'.children e = [t])
    (hchildren : ∀ q, q ≠ e → d'.children q = Document.inPlace t [e] (d.children q)) (htag : d.text? e = none) (htop : d.parent? e = none) (hne : t ≠ e) (hm : m ≠ e) :
    d'.textContent m = d.textContent m := by
  have hbelow : ∀ a n, a ≠ e → d.Above a n → n ≠ e := by
    rintro a n ha habove rfl
    exact ha ((above_of_top htop).1 habove)
  have hinside : d'.Preorder [t] (t :: d.descendants t) := by
    refine (h.preorder_descendants t).singleton.congr fun n hn => ?_
    have habove : d.Above t n := h.mem_cons_descendants.1 hn
    rw [hchildren n (hbelow t n hne habove), inPlace_of_notMem _ (h.notMem_children_below habove)]
  have helement : d'.Preorder [e] (e :: t :: d.descendants t) := (hwrapped.symm ▸ hinside).singleton
  have htexts : ∀ below, d.Preorder (d.children t) below →
      d.texts (e :: t :: d.descendants t) = d.texts (t :: below) := by
    intro below hbelow
    rw [h.preorder_iff.1 hbelow, texts_cons_of_element htag]
  obtain ⟨out, hout, htextOut⟩ := (h.preorder_descendants m).inPlace
    (fun n hn => hchildren n (hbelow m n hm (h.mem_descendants.1 hn).1)) helement htexts
  rw [← hchildren m hm] at hout
  exact h'.textContent_congr htext hout htextOut

/-- An element takes the place of a node, and the node goes into the element. -/
theorem textContent_wrap (h : d.Forest) (ht : t < d.size) (hne : t ≠ e) (htag : (d.tag? e).isSome)
    (htop : d.parent? e = none) (hleaf : d.children e = []) (hm : m ≠ e) :
    ((d.replaceWith t [e]).appendChild e t).textContent m = d.textContent m := by
  have he : e < d.size := by
    refine Nat.lt_of_not_le fun hle => ?_
    rw [tag?, get?_eq_none.2 hle] at htag
    cases htag
  have hnot : ∀ r ∈ [e], ¬d.Above r t := fun r hr habove =>
    hne (h.linked.above_leaf hleaf (List.mem_singleton.1 hr ▸ habove))
  have hreplaced : (d.replaceWith t [e]).Forest := h.replaceWith hnot
  have hsize : (d.replaceWith t [e]).size = d.size := size_replaceWith t [e]
  have hplace : ∀ q, (d.replaceWith t [e]).children q = Document.inPlace t [e] (d.children q) :=
    children_replaceWith h.linked (List.nodup_singleton e) (by simpa using ⟨he, htop⟩)
  have hout : (d.replaceWith t [e]).parent? t = none := by
    refine Option.eq_none_iff_forall_ne_some.2 fun q hq => ?_
    rw [← hreplaced.linked.mem_children, hplace, mem_inPlace, List.mem_singleton] at hq
    exact hq.elim (fun hq => hq.2 rfl) fun hq => hne hq.2
  have hempty : (d.replaceWith t [e]).children e = [] ++ [] := by
    rw [hplace, hleaf]
    rfl
  refine h.textContent_of_wrapped ⟨hreplaced.linked.appendChild e t, ?_⟩ (fun q => ?_) ?_ (fun q hq => ?_)
    (text?_of_tag? htag) htop hne hm
  · refine ends_insertChild hreplaced.ends _ fun habove => hne ?_
    exact (above_of_top htop).1 (h.above_of_replaced hplace hreplaced.linked habove)
  · rw [appendChild, text?_insertChild, text?_replaceWith]
  · rw [appendChild, hempty]
    exact children_insertChild_between hreplaced.linked (hsize ▸ he) (hsize ▸ ht) hout hempty
  · rw [appendChild, children_insertChild_of_top hreplaced.linked hout _ hq, hplace]

theorem perform {operations : List Operation} (hg : empty.Grounded operations) : (empty.perform operations).Forest :=
  ⟨Linked.empty.perform operations, ends_perform ends_empty hg⟩

end Forest

/-- After operations of which none puts a node below itself or a node below it, the loop over a stack comes to an
end with the nodes below a node, each once, in the only order in which each node is followed by what is below it.
The text of a node is that of the text nodes at and below it, in this order, unless the node is a text node with
text below it, which is left out. It remains when nodes that have been in no tree and have the same text, as
pieces or in elements, take the place of a node, or when an element takes it and the node goes into the element. -/
theorem traversal_in_order (operations : List Operation) (hg : empty.Grounded operations) :
    let d := empty.perform operations
    (∀ n, d.Visits (d.children n).reverse (d.descendants n) ∧
      (∀ out, d.Preorder (d.children n) out ↔ out = d.descendants n) ∧ (d.descendants n).Nodup ∧
      ∀ m, m ∈ d.descendants n ↔ d.Above n m ∧ m ≠ n) ∧
    (∀ n, d.textContent n = d.allText n ↔ ∀ s, d.text? n = some s → d.texts (d.descendants n) = "") ∧
    (∀ t rs, rs.Nodup → (∀ r ∈ rs, r < d.size ∧ d.parent? r = none ∧ ¬d.Above r t) →
      String.join (rs.map d.allText) = d.allText t → ∀ m, (d.replaceWith t rs).textContent m = d.textContent m) ∧
    ∀ t e, t < d.size → t ≠ e → (d.tag? e).isSome → d.parent? e = none → d.children e = [] →
      ∀ m, m ≠ e → ((d.replaceWith t [e]).appendChild e t).textContent m = d.textContent m := by
  intro d
  have hforest : d.Forest := .perform hg
  refine ⟨fun n => ?_, fun n => textContent_eq_allText_iff, fun t rs hnodup hrs hsame m => ?_,
    fun t e ht hne htag htop hleaf m hm => ?_⟩
  · exact ⟨(hforest.visits_descendants n).1, fun out => hforest.preorder_iff, hforest.nodup_descendants n,
      fun m => hforest.mem_descendants⟩
  · exact hforest.textContent_replaceWith hnodup hrs hsame m
  · exact hforest.textContent_wrap ht hne htag htop hleaf hm

/-- The text of a paragraph is replaced by its first letter and, in an element, its second. -/
theorem traversal_in_order_pieces :
    let operations : List Operation := [.appendElement 0 "p", .appendText 1 "ab", .create (.text "a"),
      .create (.element "em" []), .appendText 4 "b"]
    let d := empty.perform operations
    let d' := d.replaceWith 2 [3, 4]
    empty.Grounded operations ∧ d.textContent 0 = "ab" ∧ d'.textContent 0 = "ab" ∧ d'.children 1 = [3, 4] := by
  intro operations d d'
  have hroot : ∀ {d : Document} {a b : NodeId}, d.parent? b = none → a ≠ b → ¬d.Above a b :=
    fun htop hne habove => hne ((above_of_top htop).1 habove)
  have hbelow : ∀ {d : Document} {a b c : NodeId}, d.parent? c = some b → a ≠ c → ¬d.Above a b →
      ¬d.Above a c := fun hp hne hb habove => ((above_of_parent? hp).1 habove).elim hne hb
  have hgrounded : empty.Grounded operations := by
    refine ⟨?_, ?_, ?_, ?_, ?_, trivial⟩ <;> intro link hlink
    · rw [List.mem_singleton.1 hlink]
      exact hroot rfl (by decide)
    · rw [List.mem_singleton.1 hlink]
      exact hbelow (b := 0) rfl (by decide) (hroot rfl (by decide))
    · cases hlink
    · cases hlink
    · rw [List.mem_singleton.1 hlink]
      exact hroot rfl (by decide)
  have hpieces : ∀ r ∈ [3, 4], r < d.size ∧ d.parent? r = none ∧ ¬d.Above r 2 := by
    intro r hr
    have hnot : r ≠ 2 ∧ r ≠ 1 ∧ r ≠ 0 := by revert r; decide
    refine ⟨by revert r; decide, by revert r; decide, ?_⟩
    exact hbelow (b := 1) rfl hnot.1 (hbelow (b := 0) rfl hnot.2.1 (hroot rfl hnot.2.2))
  have hkept := (traversal_in_order operations hgrounded).2.2.1 2 [3, 4] (by decide) hpieces (by decide) 0
  have htext : d.textContent 0 = "ab" := by decide
  exact ⟨hgrounded, htext, hkept.trans htext, by decide⟩

/-- Text below a text node. It is left out of the text of that node, and not of the text of the root. -/
theorem text_left_out :
    let operations : List Operation := [.appendText 0 "a", .appendText 1 "b"]
    let d := empty.perform operations
    empty.Grounded operations ∧ d.descendants 1 = [2] ∧ d.allText 1 = "ab" ∧ d.textContent 1 = "a" ∧
      d.textContent 0 = "ab" := by
  intro operations d
  have hgrounded : empty.Grounded operations := by
    refine ⟨?_, ?_, trivial⟩ <;> intro link hlink
    · rw [List.mem_singleton.1 hlink]
      exact fun habove => absurd ((above_of_top rfl).1 habove) (by decide)
    · rw [List.mem_singleton.1 hlink]
      intro habove
      rcases (above_of_parent? (p := 0) rfl).1 habove with heq | habove
      · exact absurd heq (by decide)
      · exact absurd ((above_of_top rfl).1 habove) (by decide)
  exact ⟨hgrounded, by decide⟩

end Document
end Rubric
