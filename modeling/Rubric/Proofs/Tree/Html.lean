import Mathlib.Data.List.TakeWhile
import Rubric.Tree.Document

/-!
# Trees are told by their serialisation

* `Html.decode` : the first character of a text with entities, and what follows it;
* `Html.IsName` : what can be a tag or the name of an attribute;
* `Node.Normal` : a node with such names in which void elements have no children, and texts are neither
  empty nor side by side;
* `Html.Closing` : what can follow the children of an element: nothing, or an end tag;
* `htmlAll_append_inj` : nodes are told by the beginning of a text that consists of their serialisation
  and of something that can follow them;
* `Document.html_injective` : documents are told by their serialisation.
-/

namespace Rubric
namespace Html

/-! ## Entities -/

/-- The first character of a text with entities, and what follows it. -/
def decode : List Char → Option (Char × List Char)
  | '&' :: 'a' :: 'm' :: 'p' :: ';' :: r => some ('&', r)
  | '&' :: 'l' :: 't' :: ';' :: r => some ('<', r)
  | '&' :: 'g' :: 't' :: ';' :: r => some ('>', r)
  | '&' :: 'q' :: 'u' :: 'o' :: 't' :: ';' :: r => some ('\x22', r)
  | c :: r => some (c, r)
  | [] => none

theorem decode_of_ne {c : Char} (h : c ≠ '&') (r : List Char) : decode (c :: r) = some (c, r) := by
  rw [decode]
  all_goals
    intros
    contradiction

theorem encodeChar_cases (c : Char) :
    (c = '&' ∧ encodeChar c = "&amp;".toList) ∨ (c = '<' ∧ encodeChar c = "&lt;".toList) ∨
      (c = '>' ∧ encodeChar c = "&gt;".toList) ∨ (c ≠ '&' ∧ c ≠ '<' ∧ encodeChar c = [c]) := by
  unfold encodeChar
  by_cases hamp : c = '&'
  · exact Or.inl ⟨hamp, if_pos hamp⟩
  · rw [if_neg hamp]
    by_cases hlt : c = '<'
    · exact Or.inr (Or.inl ⟨hlt, if_pos hlt⟩)
    · rw [if_neg hlt]
      by_cases hgt : c = '>'
      · exact Or.inr (Or.inr (Or.inl ⟨hgt, if_pos hgt⟩))
      · exact Or.inr (Or.inr (Or.inr ⟨hamp, hlt, if_neg hgt⟩))

theorem decode_encodeChar (c : Char) (r : List Char) : decode (encodeChar c ++ r) = some (c, r) := by
  rcases encodeChar_cases c with ⟨rfl, h⟩ | ⟨rfl, h⟩ | ⟨rfl, h⟩ | ⟨hamp, -, h⟩ <;> rw [h]
  · rfl
  · rfl
  · rfl
  · exact decode_of_ne hamp r

theorem decode_encodeValueChar (c : Char) (r : List Char) :
    decode (encodeValueChar c ++ r) = some (c, r) := by
  rw [encodeValueChar]
  split
  · rename_i h
    rw [h]
    rfl
  · exact decode_encodeChar c r

theorem head?_encodeChar (c : Char) : ∃ h, (encodeChar c).head? = some h ∧ h ≠ '<' := by
  rcases encodeChar_cases c with ⟨-, h⟩ | ⟨-, h⟩ | ⟨-, h⟩ | ⟨-, hlt, h⟩ <;> rw [h]
  · exact ⟨'&', rfl, by decide⟩
  · exact ⟨'&', rfl, by decide⟩
  · exact ⟨'&', rfl, by decide⟩
  · exact ⟨c, rfl, hlt⟩

theorem head?_encodeValueChar (c : Char) : ∃ h, (encodeValueChar c).head? = some h ∧ h ≠ '\x22' := by
  rw [encodeValueChar]
  split
  · exact ⟨'&', rfl, by decide⟩
  · rename_i hquote
    rcases encodeChar_cases c with ⟨-, h⟩ | ⟨-, h⟩ | ⟨-, h⟩ | ⟨-, -, h⟩ <;> rw [h]
    · exact ⟨'&', rfl, by decide⟩
    · exact ⟨'&', rfl, by decide⟩
    · exact ⟨'&', rfl, by decide⟩
    · exact ⟨c, rfl, hquote⟩

/-- Encoded text is told by what stands in front of a character that ends it. -/
theorem flatMap_append_inj {encode : Char → List Char} {stop : Char}
    (hdecode : ∀ c r, decode (encode c ++ r) = some (c, r))
    (hhead : ∀ c, ∃ h, (encode c).head? = some h ∧ h ≠ stop) {xs ys r r' : List Char}
    (hr : ∀ c ∈ r.head?, c = stop) (hr' : ∀ c ∈ r'.head?, c = stop)
    (h : xs.flatMap encode ++ r = ys.flatMap encode ++ r') : xs = ys ∧ r = r' := by
  have hnot : ∀ (c : Char) (x s : List Char), (∀ c ∈ s.head?, c = stop) → encode c ++ x ≠ s := by
    intro c x s hs heq
    obtain ⟨first, hfirst, hne⟩ := hhead c
    refine hne (hs first ?_)
    rw [← heq, List.head?_append, hfirst]
    rfl
  induction xs generalizing ys with
  | nil =>
    cases ys with
    | nil => exact ⟨rfl, h⟩
    | cons y ys =>
      rw [List.flatMap_nil, List.nil_append, List.flatMap_cons, List.append_assoc] at h
      exact absurd h.symm (hnot y _ r hr)
  | cons x xs ih =>
    cases ys with
    | nil =>
      rw [List.flatMap_nil, List.nil_append, List.flatMap_cons, List.append_assoc] at h
      exact absurd h (hnot x _ r' hr')
    | cons y ys =>
      rw [List.flatMap_cons, List.flatMap_cons, List.append_assoc, List.append_assoc] at h
      have hread := congrArg decode h
      rw [hdecode, hdecode] at hread
      obtain ⟨rfl, hrest⟩ := Prod.mk.inj (Option.some.inj hread)
      obtain ⟨rfl, heq⟩ := ih hrest
      exact ⟨rfl, heq⟩

/-! ## Names -/

def isNameChar (c : Char) : Bool := c.isAlphanum || c == '-'

def IsName (s : String) : Prop := s.toList ≠ [] ∧ ∀ c ∈ s.toList, isNameChar c

instance (s : String) : Decidable (IsName s) :=
  -- not by a search through all characters
  have : Decidable (∀ c ∈ s.toList, isNameChar c) := List.decidableBAll _ _
  inferInstanceAs (Decidable (_ ∧ _))

theorem name_append_inj {s t : String} (hs : IsName s) (ht : IsName t) {r r' : List Char}
    (hr : ∀ c ∈ r.head?, ¬isNameChar c) (hr' : ∀ c ∈ r'.head?, ¬isNameChar c)
    (h : s.toList ++ r = t.toList ++ r') : s = t ∧ r = r' := by
  have htake : ∀ {u : String} {z : List Char}, IsName u → (∀ c ∈ z.head?, ¬isNameChar c) →
      (u.toList ++ z).takeWhile isNameChar = u.toList := by
    intro u z hu hz
    rw [List.takeWhile_append_of_pos hu.2]
    cases z with
    | nil => simp
    | cons c z => rw [List.takeWhile_cons_of_neg (hz c rfl), List.append_nil]
  have heq : s.toList = t.toList := by rw [← htake hs hr, h, htake ht hr']
  exact ⟨String.toList_inj.1 heq, List.append_cancel_left (heq ▸ h)⟩

/-! ## Start tags -/

def attrChars (entry : String × String) : List Char :=
  ' ' :: (entry.1.toList ++ '=' :: '\x22' :: (entry.2.toList.flatMap encodeValueChar ++ ['\x22']))

theorem toList_attrsHtml (attrs : Attrs) : (attrsHtml attrs).toList = attrs.flatMap attrChars := by
  rw [attrsHtml, String.toList_join]
  induction attrs with
  | nil => rfl
  | cons entry rest ih =>
    rw [List.map_cons, List.flatMap_cons, List.flatMap_cons, ih]
    simp [attrChars, encodeValue]

theorem head?_attrs (attrs : Attrs) (r : List Char) :
    ∀ c ∈ (attrs.flatMap attrChars ++ '>' :: r).head?, ¬isNameChar c := by
  intro c hc
  cases attrs <;> cases hc <;> decide

theorem attrs_append_inj {attrs attrs' : Attrs} (h : ∀ e ∈ attrs, IsName e.1)
    (h' : ∀ e ∈ attrs', IsName e.1) {r r' : List Char}
    (heq : attrs.flatMap attrChars ++ '>' :: r = attrs'.flatMap attrChars ++ '>' :: r') :
    attrs = attrs' ∧ r = r' := by
  induction attrs generalizing attrs' with
  | nil =>
    cases attrs' with
    | nil => exact ⟨rfl, (List.cons.inj heq).2⟩
    | cons => cases (List.cons.inj heq).1
  | cons entry rest ih =>
    cases attrs' with
    | nil => cases (List.cons.inj heq).1
    | cons entry' rest' =>
      obtain ⟨name, value⟩ := entry
      obtain ⟨name', value'⟩ := entry'
      obtain ⟨hname, hrest⟩ := List.forall_mem_cons.1 h
      obtain ⟨hname', hrest'⟩ := List.forall_mem_cons.1 h'
      simp only [List.flatMap_cons, attrChars, List.cons_append, List.append_assoc, List.cons.injEq,
        true_and] at heq
      have hequals : ∀ z : List Char, ∀ c ∈ ('=' :: z).head?, ¬isNameChar c := fun z c hc => by
        cases hc
        decide
      obtain ⟨rfl, hvalue⟩ := name_append_inj hname hname' (hequals _) (hequals _) heq
      simp only [List.cons.injEq, true_and, List.nil_append] at hvalue
      obtain ⟨hsame, hbehind⟩ := flatMap_append_inj decode_encodeValueChar head?_encodeValueChar
        (by simp) (by simp) hvalue
      obtain rfl := String.toList_inj.1 hsame
      obtain ⟨rfl, hr⟩ := ih hrest hrest' (List.cons.inj hbehind).2
      exact ⟨rfl, hr⟩

/-- What can follow the children of an element. -/
def Closing (r : List Char) : Prop := r = [] ∨ ∃ t, r = '<' :: '/' :: t

theorem Closing.head? {r : List Char} (h : Closing r) : ∀ c ∈ r.head?, c = '<' := by
  rcases h with rfl | ⟨t, rfl⟩ <;> simp

end Html

namespace Node
open Html

/-! ## Normal trees -/

def isText : Node → Bool
  | text _ => true
  | element .. => false

mutual
/-- Tags and attributes have names, void elements have no children, and texts are neither empty nor side
by side. -/
def Normal : Node → Prop
  | text content => content ≠ ""
  | element tag attrs children =>
    IsName tag ∧ (∀ e ∈ attrs, IsName e.1) ∧ (voidTags.contains tag → children.isEmpty) ∧
      NormalAll children

def NormalAll : List Node → Prop
  | [] => True
  | n :: rest => n.Normal ∧ ¬(n.isText ∧ rest.head?.any isText) ∧ NormalAll rest
end

mutual
instance decidableNormal : (n : Node) → Decidable n.Normal
  | text content => inferInstanceAs (Decidable (content ≠ ""))
  | element _ _ children =>
    have := decidableNormalAll children
    inferInstanceAs (Decidable (_ ∧ (∀ _ ∈ _, _) ∧ (_ → children.isEmpty) ∧ _))

instance decidableNormalAll : (ns : List Node) → Decidable (NormalAll ns)
  | [] => inferInstanceAs (Decidable True)
  | n :: rest =>
    have := decidableNormal n
    have := decidableNormalAll rest
    inferInstanceAs (Decidable (_ ∧ ¬_ ∧ _))
end

/-! ## Serialisations -/

theorem toList_html_text (s : String) : (text s).html.toList = s.toList.flatMap encodeChar := by
  rw [html, encodeText, String.toList_ofList]

theorem toList_html_element {tag : String} (h : IsName tag) (attrs : Attrs) (children : List Node) :
    (element tag attrs children).html.toList =
      '<' :: (tag.toList ++ (attrs.flatMap attrChars ++ '>' ::
        if voidTags.contains tag then []
        else (htmlAll children).toList ++ '<' :: '/' :: (tag.toList ++ ['>']))) := by
  have hroot : tag ≠ rootTag := fun heq => by
    rw [heq] at h
    exact absurd h (by decide)
  rw [html, if_neg hroot]
  split <;> simp [toList_attrsHtml]

theorem exists_html_text {s : String} (h : (text s).Normal) :
    ∃ c r, (text s).html.toList = c :: r ∧ c ≠ '<' := by
  have hs : s.toList ≠ [] := fun heq => by
    rw [Normal] at h
    exact h (String.toList_eq_nil_iff.1 heq)
  obtain ⟨c, rest, hcons⟩ := List.exists_cons_of_ne_nil hs
  obtain ⟨first, hfirst, hne⟩ := head?_encodeChar c
  obtain ⟨r, hr⟩ := List.head?_eq_some_iff.1 hfirst
  exact ⟨first, r ++ rest.flatMap encodeChar,
    by rw [toList_html_text, hcons, List.flatMap_cons, hr, List.cons_append], hne⟩

theorem Normal.not_closing {n : Node} (h : n.Normal) (r : List Char) : ¬Closing (n.html.toList ++ r) := by
  cases n with
  | text s =>
    obtain ⟨c, rest, hcons, hne⟩ := exists_html_text h
    exact fun hclosing => hne (hclosing.head? c (by rw [hcons]; rfl))
  | element tag attrs children =>
    rw [Normal] at h
    obtain ⟨c, rest, hcons⟩ := List.exists_cons_of_ne_nil h.1.1
    have hc : isNameChar c := h.1.2 c (hcons ▸ List.mem_cons_self ..)
    rw [toList_html_element h.1, hcons]
    rintro (heq | ⟨t, heq⟩)
    · cases heq
    · have hslash : c = '/' := (List.cons.inj (List.cons.inj heq).2).1
      rw [hslash] at hc
      exact absurd hc (by decide)

theorem head?_behind {n : Node} {rest : List Node} (h : NormalAll (n :: rest)) {r : List Char}
    (hr : Closing r) (hn : n.isText) : ∀ c ∈ ((htmlAll rest).toList ++ r).head?, c = '<' := by
  rw [NormalAll] at h
  obtain ⟨-, hapart, hrest⟩ := h
  cases rest with
  | nil => exact hr.head?
  | cons m rest =>
    cases m with
    | text => exact absurd ⟨hn, rfl⟩ hapart
    | element tag attrs children =>
      rw [NormalAll, Normal] at hrest
      intro c hc
      rw [htmlAll, String.toList_append, toList_html_element hrest.1.1] at hc
      exact (Option.some.inj hc).symm

mutual
/-- A node is told by its serialisation in front of what can follow it. -/
theorem html_append_inj (n m : Node) (hn : n.Normal) (hm : m.Normal) {r r' : List Char}
    (hr : n.isText → ∀ c ∈ r.head?, c = '<') (hr' : m.isText → ∀ c ∈ r'.head?, c = '<')
    (h : n.html.toList ++ r = m.html.toList ++ r') : n = m ∧ r = r' := by
  cases n with
  | text s =>
    cases m with
    | text t =>
      rw [toList_html_text, toList_html_text] at h
      obtain ⟨hsame, heq⟩ :=
        flatMap_append_inj decode_encodeChar head?_encodeChar (hr rfl) (hr' rfl) h
      exact ⟨congrArg text (String.toList_inj.1 hsame), heq⟩
    | element tag attrs children =>
      obtain ⟨c, rest, hcons, hne⟩ := exists_html_text hn
      rw [Normal] at hm
      rw [hcons, toList_html_element hm.1] at h
      exact absurd (List.cons.inj h).1 hne
  | element tag attrs children =>
    rw [Normal] at hn
    obtain ⟨hname, hattrs, hvoid, hchildren⟩ := hn
    cases m with
    | text s =>
      obtain ⟨c, rest, hcons, hne⟩ := exists_html_text hm
      rw [hcons, toList_html_element hname] at h
      exact absurd (List.cons.inj h).1.symm hne
    | element tag' attrs' children' =>
      rw [Normal] at hm
      obtain ⟨hname', hattrs', hvoid', hchildren'⟩ := hm
      rw [toList_html_element hname, toList_html_element hname'] at h
      simp only [List.cons_append, List.append_assoc, List.cons.injEq, true_and] at h
      obtain ⟨rfl, hbehind⟩ := name_append_inj hname hname' (head?_attrs _ _) (head?_attrs _ _) h
      obtain ⟨rfl, hinside⟩ := attrs_append_inj hattrs hattrs' hbehind
      by_cases hv : voidTags.contains tag
      · rw [if_pos hv, if_pos hv] at hinside
        rw [List.isEmpty_iff.1 (hvoid hv), List.isEmpty_iff.1 (hvoid' hv)]
        exact ⟨rfl, hinside⟩
      · rw [if_neg hv, if_neg hv, List.append_assoc, List.append_assoc] at hinside
        obtain ⟨rfl, hend⟩ := htmlAll_append_inj children children' hchildren hchildren'
          (Or.inr ⟨_, rfl⟩) (Or.inr ⟨_, rfl⟩) hinside
        have htail : (tag.toList ++ ['>']) ++ r = (tag.toList ++ ['>']) ++ r' :=
          (List.cons.inj (List.cons.inj hend).2).2
        exact ⟨rfl, List.append_cancel_left htail⟩

/-- Nodes in a row are told by their serialisation in front of what can follow them. -/
theorem htmlAll_append_inj (ns ms : List Node) (hns : NormalAll ns) (hms : NormalAll ms) {r r' : List Char}
    (hr : Closing r) (hr' : Closing r')
    (h : (htmlAll ns).toList ++ r = (htmlAll ms).toList ++ r') : ns = ms ∧ r = r' := by
  cases ns with
  | nil =>
    cases ms with
    | nil => exact ⟨rfl, h⟩
    | cons m ms =>
      rw [NormalAll] at hms
      rw [htmlAll, htmlAll, String.toList_append, List.append_assoc] at h
      have heq : r = m.html.toList ++ ((htmlAll ms).toList ++ r') := h
      exact absurd (heq ▸ hr) (hms.1.not_closing _)
  | cons n ns =>
    cases ms with
    | nil =>
      rw [NormalAll] at hns
      rw [htmlAll, htmlAll, String.toList_append, List.append_assoc] at h
      have heq : r' = n.html.toList ++ ((htmlAll ns).toList ++ r) := h.symm
      exact absurd (heq ▸ hr') (hns.1.not_closing _)
    | cons m ms =>
      have hnext := head?_behind hns hr
      have hnext' := head?_behind hms hr'
      rw [NormalAll] at hns hms
      rw [htmlAll, htmlAll, String.toList_append, String.toList_append, List.append_assoc,
        List.append_assoc] at h
      obtain ⟨rfl, hrest⟩ := html_append_inj n m hns.1 hms.1 hnext hnext' h
      obtain ⟨rfl, heq⟩ := htmlAll_append_inj ns ms hns.2.2 hms.2.2 hr hr' hrest
      exact ⟨rfl, heq⟩
end

theorem htmlAll_injective {ns ms : List Node} (hns : NormalAll ns) (hms : NormalAll ms)
    (h : htmlAll ns = htmlAll ms) : ns = ms :=
  (htmlAll_append_inj ns ms hns hms (Or.inl rfl) (Or.inl rfl) (by rw [h])).1

end Node

namespace Document
open Node

/-- The root is the root of a tree, and all below it is normal. -/
structure Normal (d : Document) : Prop where
  root : d.tag? root = some rootTag
  below : NormalAll (d.subtree Document.root).children

theorem exists_subtree {d : Document} {n : NodeId} {tag : String} (h : d.tag? n = some tag) :
    ∃ attrs children, d.subtree n = element tag attrs children := by
  rw [tag?] at h
  cases he : d.get? n with
  | none =>
    rw [he] at h
    cases h
  | some e =>
    rw [he, Option.map_some] at h
    cases hk : e.kind with
    | text s =>
      rw [hk] at h
      cases h
    | element tag' attrs =>
      rw [hk] at h
      cases h
      rw [subtree]
      cases d.size with
      | zero => exact ⟨attrs, [], by simp only [subtreeTo, he, hk]⟩
      | succ k => exact ⟨attrs, e.children.map (d.subtreeTo k), by simp only [subtreeTo, he, hk]⟩

theorem Normal.html {d : Document} (h : d.Normal) :
    d.html Document.root = htmlAll (d.subtree Document.root).children := by
  obtain ⟨attrs, children, heq⟩ := exists_subtree h.root
  rw [Document.html, heq, Node.html.eq_def]
  exact if_pos rfl

/-- Documents with the same serialisation are the same trees below their roots. What a store has below a text
is in neither of the trees, and it is not written. -/
theorem html_injective {d e : Document} (hd : d.Normal) (he : e.Normal)
    (h : d.html root = e.html root) : (d.subtree root).children = (e.subtree root).children := by
  rw [hd.html, he.html] at h
  exact htmlAll_injective hd.below he.below h

/-- Two stores that hold the same tree. In one of them the nodes have been made in another order, and one
of them is no longer in the tree. -/
theorem html_injective_reordered :
    let d : Document := .ofNodes [.element "p" [("title", "\x22<br>&")] [.text "a</p>"], .element "br" [] []]
    let e : Document := ((Document.ofNodes [.element "br" [] [], .text "", .element "p"
      [("title", "\x22<br>&")] [.text "a</p>"]]).appendChild root 1).detach 2
    d.Normal ∧ e.Normal ∧ d.html root = e.html root ∧
      (d.subtree root).children = (e.subtree root).children := by
  intro d e
  have hd : d.Normal := ⟨by decide +kernel, by decide +kernel⟩
  have he : e.Normal := ⟨by decide +kernel, by decide +kernel⟩
  have h : d.html root = e.html root := by decide +kernel
  exact ⟨hd, he, h, html_injective hd he h⟩

end Document
end Rubric
