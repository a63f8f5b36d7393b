import Rubric.Proofs.Labelling.Failures
import Rubric.Proofs.Reference.Markers

/-!
# References inside links

* `Node.texts` : the texts of a document with the elements around each; `Node.withTexts` : a document with other
  nodes in place of its texts;
* `LinksTo` : an element that is a link to an id, and `localTarget?_eq_some_iff` : the id that is found in it;
* `reachable` : the elements around a text up to the first finished reference; `outermost?` : the id that the
  outermost of these refers to that is a link;
* `Draft.cut` : the pieces that a text is split into; `Draft.inPlaceOf` : the nodes that these become;
* `Draft.toNodes_markRefs`, `Draft.refKeys_markRefs` : what becomes of a document, and what is recorded;
* `Draft.markRefs_of_unmarked` : a document is left as it is if nothing inside its links is to be split;
* `Draft.markRefs_unescaped` : just the markers inside links that are not escaped become references.
-/

namespace Rubric

/-! ## Texts and the elements around them -/

namespace Node

/-- An element around a text: its tag and attributes. -/
abbrev Outer := String × Attrs

mutual
/-- The texts at and below a node, each with the elements around it, the innermost first. -/
def texts (above : List Outer) : Node → List (List Outer × String)
  | text content => [(above, content)]
  | element tag attrs children => textsAll ((tag, attrs) :: above) children

def textsAll (above : List Outer) : List Node → List (List Outer × String)
  | [] => []
  | n :: rest => texts above n ++ textsAll above rest
end

mutual
/-- A node with other nodes in place of its texts. Its elements stay. -/
def withTexts (f : List Outer → String → List Node) (above : List Outer) : Node → List Node
  | text content => f above content
  | element tag attrs children => [element tag attrs (withTextsAll f ((tag, attrs) :: above) children)]

def withTextsAll (f : List Outer → String → List Node) (above : List Outer) : List Node → List Node
  | [] => []
  | n :: rest => withTexts f above n ++ withTextsAll f above rest
end

theorem mem_textsAll {above : List Outer} {ns : List Node} {p : List Outer × String} :
    p ∈ textsAll above ns ↔ ∃ n ∈ ns, p ∈ n.texts above := by
  induction ns with
  | nil => simp [textsAll]
  | cons n rest ih => simp [textsAll, ih]

theorem textsAll_append (above : List Outer) (ns ms : List Node) :
    textsAll above (ns ++ ms) = textsAll above ns ++ textsAll above ms := by
  induction ns with
  | nil => rfl
  | cons n rest ih => rw [List.cons_append, textsAll, ih, textsAll, List.append_assoc]

section WithTexts
variable {f : List Outer → String → List Node}

mutual
theorem textContent_withTexts (h : ∀ above content, textContentAll (f above content) = content)
    (above : List Outer) (n : Node) : textContentAll (n.withTexts f above) = n.textContent := by
  cases n with
  | text content => exact h above content
  | element tag attrs children =>
    rw [withTexts, textContentAll, textContentAll, textContent, textContentAll_withTextsAll h, String.append_empty,
      textContent]

theorem textContentAll_withTextsAll (h : ∀ above content, textContentAll (f above content) = content)
    (above : List Outer) (ns : List Node) : textContentAll (withTextsAll f above ns) = textContentAll ns := by
  cases ns with
  | nil => rfl
  | cons n rest =>
    rw [withTextsAll, textContentAll_append, textContent_withTexts h, textContentAll_withTextsAll h, textContentAll]
end

mutual
theorem texts_withTexts (above : List Outer) (n : Node) :
    textsAll above (n.withTexts f above) = (n.texts above).flatMap fun q => textsAll q.1 (f q.1 q.2) := by
  cases n with
  | text content =>
    rw [withTexts, texts, List.flatMap_singleton]
  | element tag attrs children =>
    rw [withTexts, textsAll, textsAll, List.append_nil, texts, texts, textsAll_withTextsAll]

theorem textsAll_withTextsAll (above : List Outer) (ns : List Node) :
    textsAll above (withTextsAll f above ns) = (textsAll above ns).flatMap fun q => textsAll q.1 (f q.1 q.2) := by
  cases ns with
  | nil => rfl
  | cons n rest =>
    rw [withTextsAll, textsAll_append, texts_withTexts, textsAll_withTextsAll, textsAll, List.flatMap_append]
end

end WithTexts
end Node

/-! ## Links and finished references -/

open Node

/-- The elements around a text up to the first one that is a finished reference, the innermost first. -/
def reachable : List Outer → List Outer
  | [] => []
  | e :: above => e :: if e.2.hasClass Css.refClass then [] else reachable above

/-- An element that is a link to an id of the document. -/
def LinksTo (e : Outer) (id : String) : Prop := e.1 = "a" ∧ e.2.get? "href" = some ("#" ++ id) ∧ id ≠ ""

theorem localTarget?_eq_some_iff {e : Outer} {id : String} : Draft.localTarget? e.1 e.2 = some id ↔ LinksTo e id := by
  rw [Draft.localTarget?, LinksTo]
  by_cases htag : e.1 = "a"
  · rw [if_pos htag, and_iff_right htag]
    cases hhref : e.2.get? "href" with
    | none => simp
    | some href =>
      rw [Option.map_some, Option.some_inj, ← String.toList_inj, String.toList_append]
      constructor
      · intro h
        split at h
        · rename_i c rest heq
          cases h
          rw [Option.some.inj heq]
          exact ⟨(congrArg ('#' :: ·) String.toList_ofList).symm, fun hnil => by
            simpa using congrArg String.toList hnil⟩
        · cases h
      · rintro ⟨heq, hne⟩
        cases hid : id.toList with
        | nil => exact absurd (String.toList_eq_nil_iff.1 hid) hne
        | cons c rest =>
          rw [heq, hid]
          exact congrArg some (String.toList_inj.1 (by rw [String.toList_ofList, hid]))
  · rw [if_neg htag]
    simp [htag]

theorem localTarget?_eq_none_iff {e : Outer} : Draft.localTarget? e.1 e.2 = none ↔ ∀ id, ¬LinksTo e id := by
  rw [Option.eq_none_iff_forall_ne_some]
  exact forall_congr' fun id => not_congr localTarget?_eq_some_iff

/-- The id that the outermost link refers to of those that are reachable. -/
def outermost? (above : List Outer) : Option String :=
  (reachable above).reverse.findSome? fun e => Draft.localTarget? e.1 e.2

theorem outermost?_cons (tag : String) (attrs : Attrs) (above : List Outer) :
    outermost? ((tag, attrs) :: above) = Draft.targetInside (outermost? above) tag attrs := by
  rw [outermost?, reachable, List.reverse_cons, List.findSome?_append, Draft.targetInside]
  by_cases href : attrs.hasClass Css.refClass
  · rw [if_pos href, if_pos href]
    cases h : Draft.localTarget? tag attrs <;> simp [h]
  · rw [if_neg href, if_neg href]
    cases h : Draft.localTarget? tag attrs <;> simp [h, outermost?]

/-- The outermost link is the last of those that are reachable. -/
theorem outermost?_eq_some_iff {above : List Outer} {id : String} :
    outermost? above = some id ↔ ∃ inner e outer, reachable above = inner ++ e :: outer ∧ LinksTo e id ∧
      ∀ e' ∈ outer, ∀ id', ¬LinksTo e' id' := by
  rw [outermost?, List.findSome?_eq_some_iff]
  constructor
  · rintro ⟨outer, e, inner, hsplit, hid, hnone⟩
    refine ⟨inner.reverse, e, outer.reverse, ?_, localTarget?_eq_some_iff.1 hid, fun e' he' => ?_⟩
    · rw [← List.reverse_reverse (reachable above), hsplit]
      simp
    · exact localTarget?_eq_none_iff.1 (hnone e' (List.mem_reverse.1 he'))
  · rintro ⟨inner, e, outer, hsplit, hid, hnone⟩
    refine ⟨outer.reverse, e, inner.reverse, ?_, localTarget?_eq_some_iff.2 hid, fun e' he' => ?_⟩
    · rw [hsplit]
      simp
    · exact localTarget?_eq_none_iff.2 (hnone e' (List.mem_reverse.1 he'))

theorem isSome_outermost? (above : List Outer) :
    (outermost? above).isSome ↔ ∃ e ∈ reachable above, ∃ id, LinksTo e id := by
  rw [outermost?, List.findSome?_isSome_iff]
  simp only [List.mem_reverse, Option.isSome_iff_exists, localTarget?_eq_some_iff]

def Piece.placed : Piece → Node
  | literal s => .text (String.ofList s)
  | marker s _ => Draft.refSpan Draft.plainText s none

theorem textContentAll_placed (ps : List Piece) :
    textContentAll (ps.map Piece.placed) = String.ofList (ps.flatMap Piece.text) := by
  have hplaced (p : Piece) : p.placed.textContent = String.ofList p.text := by
    cases p with
    | literal s => rfl
    | marker s selector => exact String.append_empty
  induction ps with
  | nil => rfl
  | cons p ps ih => rw [List.map_cons, textContentAll, hplaced, ih, List.flatMap_cons, String.ofList_append]

theorem outermost?_refSpan (above : List Outer) : outermost? (("span", [("class", Css.refClass)]) :: above) = none := by
  have hclass : Attrs.hasClass [("class", Css.refClass)] Css.refClass := by decide
  rw [outermost?_cons, Draft.targetInside, if_pos hclass]
  rfl

namespace Draft

/-- The pieces of a text: they are cut out only inside of a link. -/
def cut (above : List Outer) (content : String) : List Piece :=
  if (outermost? above).isSome ∧ (Piece.scan content).any Piece.isMarker then Piece.scan content
  else [.literal content.toList]

def inPlaceOf (above : List Outer) (content : String) : List Node := (cut above content).map Piece.placed

section Cut
variable {above : List Outer} {content : String}

theorem cuts_cut (above : List Outer) (content : String) : Piece.Cuts content.toList (cut above content) := by
  rw [cut]
  split
  · exact Piece.cuts_scan content
  · exact Piece.cuts_literal content.toList

theorem textContentAll_inPlaceOf (above : List Outer) (content : String) :
    textContentAll (inPlaceOf above content) = content := by
  rw [inPlaceOf, textContentAll_placed, (cuts_cut above content).text, String.ofList_toList]

theorem unmarked_of_mem_cut (hlink : (outermost? above).isSome) {t : List Char}
    (h : .literal t ∈ cut above content) : Piece.Unmarked t := by
  rw [cut] at h
  split at h
  · exact Piece.unmarked_of_mem_scan h
  · rename_i hnot
    cases List.mem_singleton.1 h
    by_contra hmarked
    exact hnot ⟨hlink, (Piece.any_isMarker_scan content).2 hmarked⟩

end Cut

/-! ## What becomes of a document -/

theorem pieceNode_placed (target : String) (p : Piece) : pieceNode plainText {} target p = p.placed := by
  cases p with
  | literal s => rfl
  | marker s selector => cases selector <;> rfl

/-- A text is split inside of a link if there is a marker in it, and left as it is if not. -/
theorem markRefs_text (above : List Outer) (content : String) :
    (∃ target, outermost? above = some target ∧ cut above content = Piece.scan content ∧
        markRefs (outermost? above) (text content) = split target (Piece.scan content)) ∨
      cut above content = [.literal content.toList] ∧ markRefs (outermost? above) (text content) = text content := by
  rw [cut, markRefs]
  cases outermost? above with
  | none => exact Or.inr ⟨if_neg (by simp), rfl⟩
  | some target =>
    by_cases hany : (Piece.scan content).any Piece.isMarker
    · exact Or.inl ⟨target, rfl, if_pos ⟨rfl, hany⟩, if_pos hany⟩
    · exact Or.inr ⟨if_neg fun h => hany h.2, if_neg hany⟩

mutual
/-- Only the texts of a document are replaced, each by the nodes for its pieces. -/
theorem toNodes_markRefs (above : List Outer) (n : Node) :
    (markRefs (outermost? above) (ofNode n)).toNodes plainText {} =
      n.withTexts inPlaceOf above := by
  cases n with
  | text content =>
    rw [ofNode, withTexts, inPlaceOf]
    rcases markRefs_text above content with ⟨target, -, hcut, hmarked⟩ | ⟨hcut, hmarked⟩
    · rw [hcut, hmarked, toNodes]
      exact List.map_congr_left fun p _ => pieceNode_placed target p
    · rw [hcut, hmarked, List.map_singleton, Piece.placed, String.ofList_toList, toNodes]
  | element tag attrs children =>
    rw [ofNode, markRefs, toNodes, withTexts, ← outermost?_cons, toNodesAll_markRefsAll]
    rfl

theorem toNodesAll_markRefsAll (above : List Outer) (ns : List Node) :
    toNodesAll plainText {} (markRefsAll (outermost? above) (ofNodes ns)) =
      withTextsAll inPlaceOf above ns := by
  cases ns with
  | nil => rfl
  | cons n rest =>
    rw [ofNodes, markRefsAll, toNodesAll, withTextsAll, toNodes_markRefs, toNodesAll_markRefsAll]
end

theorem toNode_markRefs (doc : Node) :
    [((ofNode doc).markRefs none).toNode plainText {}] =
      doc.withTexts inPlaceOf [] := by
  obtain ⟨n, hn⟩ : ∃ n, ((ofNode doc).markRefs none).toNodes plainText {} = [n] := by
    cases doc with
    | text content => exact ⟨_, rfl⟩
    | element tag attrs children => exact ⟨_, rfl⟩
  rw [toNode, hn, ← hn]
  exact toNodes_markRefs [] doc

/-- Afterwards all texts inside of links are unmarked: those that have become markers are finished. -/
theorem unmarked_of_mem_texts {n : Node} {above : List Outer} {p : List Outer × String}
    (hp : p ∈ textsAll above (n.withTexts inPlaceOf above))
    (hlink : (outermost? p.1).isSome) : Piece.Unmarked p.2.toList := by
  rw [texts_withTexts] at hp
  obtain ⟨q, -, hp⟩ := List.mem_flatMap.1 hp
  obtain ⟨m, hm, hp⟩ := mem_textsAll.1 hp
  obtain ⟨piece, hpiece, rfl⟩ := List.mem_map.1 hm
  cases piece with
  | literal t =>
    cases List.mem_singleton.1 hp
    rw [String.toList_ofList]
    exact unmarked_of_mem_cut hlink hpiece
  | marker t selector =>
    cases List.mem_singleton.1 hp
    rw [outermost?_refSpan] at hlink
    cases hlink

mutual
/-- Each marker that asks for something is recorded once, with the id of the outermost link. -/
theorem refKeys_markRefs (above : List Outer) (n : Node) :
    (markRefs (outermost? above) (ofNode n)).refKeys =
      (n.texts above).flatMap fun p => (cut p.1 p.2).filterMap fun piece =>
        piece.selector?.bind fun selector => (outermost? p.1).map (⟨·, selector⟩) := by
  cases n with
  | text content =>
    rw [ofNode, texts, List.flatMap_singleton]
    rcases markRefs_text above content with ⟨target, htarget, hcut, hmarked⟩ | ⟨hcut, hmarked⟩
    · rw [hcut, hmarked, htarget, refKeys, pieceKeys]
      refine List.filterMap_congr fun p _ => ?_
      cases p.selector? <;> rfl
    · rw [hcut, hmarked]
      rfl
  | element tag attrs children =>
    rw [ofNode, markRefs, refKeys, texts, ← outermost?_cons, refKeysAll_markRefsAll]

theorem refKeysAll_markRefsAll (above : List Outer) (ns : List Node) :
    refKeysAll (markRefsAll (outermost? above) (ofNodes ns)) =
      (textsAll above ns).flatMap fun p => (cut p.1 p.2).filterMap fun piece =>
        piece.selector?.bind fun selector => (outermost? p.1).map (⟨·, selector⟩) := by
  cases ns with
  | nil => rfl
  | cons n rest =>
    rw [ofNodes, markRefsAll, refKeysAll, textsAll, List.flatMap_append, refKeys_markRefs, refKeysAll_markRefsAll]
end

mutual
/-- A document is left as it is if all texts inside its links are unmarked. -/
theorem markRefs_of_unmarked (above : List Outer) (n : Node)
    (h : ∀ p ∈ n.texts above, (outermost? p.1).isSome → Piece.Unmarked p.2.toList) :
    markRefs (outermost? above) (ofNode n) = ofNode n := by
  cases n with
  | text content =>
    rw [ofNode, markRefs]
    cases hlink : outermost? above with
    | none => rfl
    | some target =>
      have hunmarked : Piece.Unmarked content.toList := by
        refine h (above, content) (List.mem_singleton.2 rfl) ?_
        rw [hlink]
        rfl
      have hnone : ¬(Piece.scan content).any Piece.isMarker := fun hany =>
        (Piece.any_isMarker_scan content).1 hany hunmarked
      rw [Option.elim_some, markText]
      exact if_neg hnone
  | element tag attrs children =>
    rw [ofNode, markRefs, ← outermost?_cons, markRefsAll_of_unmarked _ _ h]

theorem markRefsAll_of_unmarked (above : List Outer) (ns : List Node)
    (h : ∀ p ∈ textsAll above ns, (outermost? p.1).isSome → Piece.Unmarked p.2.toList) :
    markRefsAll (outermost? above) (ofNodes ns) = ofNodes ns := by
  cases ns with
  | nil => rfl
  | cons n rest =>
    rw [ofNodes, markRefsAll, markRefs_of_unmarked _ _ fun p hp => h p (List.mem_append_left _ hp),
      markRefsAll_of_unmarked _ _ fun p hp => h p (List.mem_append_right _ hp)]
end

mutual
theorem refKeys_ofNode (n : Node) : (ofNode n).refKeys = [] := by
  cases n with
  | text content => rfl
  | element tag attrs children =>
    rw [ofNode, refKeys, refKeysAll_ofNodes]

theorem refKeysAll_ofNodes (ns : List Node) : refKeysAll (ofNodes ns) = [] := by
  cases ns with
  | nil => rfl
  | cons n rest =>
    rw [ofNodes, refKeysAll, refKeys_ofNode, refKeysAll_ofNodes]
    rfl
end

end Draft

/-- Among the references that wait, each kind is there once. -/
theorem RefTable.pending_awaitAll (keys : List RefKey) (t : RefTable) (hfilled : t.filled = [])
    (hnodup : t.pending.Nodup) :
    (t.awaitAll keys).pending.Nodup ∧ ∀ key, key ∈ (t.awaitAll keys).pending ↔ key ∈ t.pending ∨ key ∈ keys := by
  induction keys generalizing t with
  | nil => exact ⟨hnodup, fun key => by simp [awaitAll]⟩
  | cons k rest ih =>
    have hknows : t.knows k = true ↔ k ∈ t.pending := by
      simp [knows, label?, hfilled]
    rw [awaitAll, List.foldl_cons, ← awaitAll, await]
    by_cases hk : k ∈ t.pending
    · rw [if_pos (hknows.2 hk)]
      obtain ⟨hrest, hmem⟩ := ih t hfilled hnodup
      refine ⟨hrest, fun key => ?_⟩
      rw [hmem, List.mem_cons]
      constructor
      · rintro (h | h)
        · exact Or.inl h
        · exact Or.inr (Or.inr h)
      · rintro (h | rfl | h)
        · exact Or.inl h
        · exact Or.inl hk
        · exact Or.inr h
    · have hnodup' : (t.pending ++ [k]).Nodup := List.nodup_append.2 ⟨hnodup, List.nodup_singleton k, by
        rintro a ha b hb rfl
        exact hk (List.mem_singleton.1 hb ▸ ha)⟩
      rw [if_neg fun h => hk (hknows.1 h)]
      obtain ⟨hrest, hmem⟩ := ih { t with pending := t.pending ++ [k] } hfilled hnodup'
      refine ⟨hrest, fun key => ?_⟩
      rw [hmem, List.mem_append, List.mem_singleton, List.mem_cons, or_assoc]

/-- In any document only texts inside of links are split, at the longest of the markers that are not escaped: the
elements keep their tags, attributes and texts, and there is nothing left to split. What each marker asks for is
recorded once, with the id of the outermost link, and all of it waits. -/
theorem Draft.markRefs_unescaped (doc : Node) :
    let marked := (ofNode doc).markRefs none
    let found := marked.toNode plainText {}
    let again := (ofNode found).markRefs none
    [found] = doc.withTexts inPlaceOf [] ∧
      (∀ above content, Piece.Cuts content.toList (cut above content) ∧
        (outermost? above = none → cut above content = [.literal content.toList])) ∧
      (∀ above tag attrs children, ∃ children',
        (Node.element tag attrs children).withTexts inPlaceOf above = [.element tag attrs children'] ∧
          textContentAll children' = textContentAll children) ∧
      (∀ p ∈ found.texts [], ∀ e ∈ reachable p.1, ∀ id, LinksTo e id → Piece.Unmarked p.2.toList) ∧
      (∀ above id, outermost? above = some id ↔ ∃ inner e outer, reachable above = inner ++ e :: outer ∧
        LinksTo e id ∧ ∀ e' ∈ outer, ∀ id', ¬LinksTo e' id') ∧
      (marked.refKeys = (doc.texts []).flatMap fun p => (cut p.1 p.2).filterMap fun piece =>
        piece.selector?.bind fun selector => (outermost? p.1).map (⟨·, selector⟩)) ∧
      (∀ key, (RefTable.awaitAll {} marked.refKeys).pending.count key = if key ∈ marked.refKeys then 1 else 0) ∧
      again.toNode plainText {} = found ∧ again.refKeys = [] := by
  intro marked found again
  have hfound : [found] = doc.withTexts inPlaceOf [] := toNode_markRefs doc
  have hunmarked : ∀ p ∈ found.texts [], (outermost? p.1).isSome → Piece.Unmarked p.2.toList := by
    intro p hp hlink
    have htexts : textsAll [] [found] = found.texts [] := List.append_nil _
    rw [← htexts, hfound] at hp
    exact unmarked_of_mem_texts hp hlink
  have hagain : again = ofNode found := markRefs_of_unmarked [] found hunmarked
  refine ⟨hfound, fun above content => ⟨cuts_cut above content, fun hnone => ?_⟩, ?_, ?_,
    fun above id => outermost?_eq_some_iff, refKeys_markRefs [] doc, fun key => ?_, ?_, ?_⟩
  · rw [cut, hnone]
    exact if_neg (by simp)
  · exact fun above tag attrs children =>
      ⟨_, rfl, textContentAll_withTextsAll textContentAll_inPlaceOf ((tag, attrs) :: above) children⟩
  · exact fun p hp e he id hlink => hunmarked p hp ((isSome_outermost? p.1).2 ⟨e, he, id, hlink⟩)
  · obtain ⟨hnodup, hmem⟩ := RefTable.pending_awaitAll marked.refKeys {} rfl List.nodup_nil
    rw [hnodup.count]
    simp [hmem]
  · rw [hagain, toNode_ofNode]
  · rw [hagain, refKeys_ofNode]

end Rubric
