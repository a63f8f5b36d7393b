import Mathlib.Data.List.Perm.Basic
import Rubric.Proofs.Labelling.OwnLabels

/-!
# What becomes of references

* `RefTable.Distinct` : no reference waits or has its label twice;
* `Draft.outerIds`, `targets_cases` : a walk to its end comes to the elements outside of headings, each once and
  in document order;
* `Draft.shape`, `shape_cases` : a walk changes attributes and labels alone;
* `Node.Resolved` : a node whose references show what they are to show;
* `Draft.resolved_of_shape` : so do those of a finished draft, if they show what their table has for them;
* `Labelling.label?_history` : that is what the first moment which has a label for them gives, from there on;
* `Labelling.references_resolved` : so the references of a document show it at the end of a run.
-/

namespace Rubric

/-! ## The table of references -/

namespace RefTable
variable {t : RefTable}

/-- No reference waits or has its label twice. -/
def Distinct (t : RefTable) : Prop := (t.pending ++ t.filled.map Prod.fst).Nodup

theorem not_mem_filled {key : RefKey} (h : t.label? key = none) : key ∉ t.filled.map Prod.fst := by
  intro hmem
  obtain ⟨entry, hentry, rfl⟩ := List.mem_map.1 hmem
  simpa using List.lookup_eq_none_iff.1 h entry hentry

theorem Distinct.await (h : t.Distinct) (key : RefKey) : (t.await key).Distinct := by
  rw [RefTable.await]
  split
  · exact h
  · rename_i hknown
    simp only [knows, Bool.or_eq_true, List.contains_iff_mem, not_or, Bool.not_eq_true, Option.isSome_eq_false_iff,
      Option.isNone_iff_eq_none] at hknown
    have hnew : key ∉ t.pending ++ t.filled.map Prod.fst := by
      rw [List.mem_append, not_or]
      exact ⟨hknown.1, not_mem_filled hknown.2⟩
    show (t.pending ++ [key] ++ t.filled.map Prod.fst).Nodup
    rw [List.append_assoc]
    exact List.perm_middle.nodup_iff.2 (List.nodup_cons.2 ⟨hnew, h⟩)

theorem Distinct.awaitAll (h : t.Distinct) (keys : List RefKey) : (t.awaitAll keys).Distinct := by
  induction keys generalizing t with
  | nil => exact h
  | cons key rest ih => exact ih (h.await key)

theorem Distinct.resolve (h : t.Distinct) (target : String) (label? : Selector → Option String) :
    (t.resolve target label?).Distinct := by
  let ready (key : RefKey) := if key.target = target then label? key.selector else none
  have hready : (t.pending.filterMap fun key => (ready key).map (key, ·)).map Prod.fst =
      t.pending.filter fun key => !(ready key).isNone := by
    rw [List.map_filterMap, ← List.filterMap_eq_filter]
    refine List.filterMap_congr fun key _ => ?_
    cases hkey : ready key <;> simp [Option.guard, hkey]
  have hsplit := List.filter_append_perm (fun key => (ready key).isNone) t.pending
  show (t.pending.filter (fun key => (ready key).isNone) ++
    (t.filled ++ t.pending.filterMap fun key => (ready key).map (key, ·)).map Prod.fst).Nodup
  rw [List.map_append, hready]
  refine h.perm ((hsplit.symm.append_right _).trans ?_)
  rw [List.append_assoc]
  exact List.perm_append_comm.append_left _

theorem Distinct.resolve? (h : t.Distinct) (target : Option String) (label? : Selector → Option String) :
    (t.resolve? target label?).Distinct := by
  cases target with
  | none => exact h
  | some target => exact h.resolve target label?

theorem filled_resolve? (t : RefTable) (target : Option String) (label? : Selector → Option String) :
    t.filled <+: (t.resolve? target label?).filled := by
  cases target with
  | none => exact List.prefix_refl _
  | some target => exact List.prefix_append _ _

end RefTable

/-- An event takes no label from a reference, and gives none a second one. -/
theorem Moment.filled_after (m : Moment) :
    m.before.refs.filled <+: m.after.refs.filled ∧ (m.before.refs.Distinct → m.after.refs.Distinct) := by
  rcases m.event.refs_cases (d := m.defaults) m.before with ⟨_, -, hrefs⟩ | hrefs
  · rw [show m.after.refs = m.before.refs from hrefs]
    exact ⟨List.prefix_refl _, id⟩
  · rw [show m.after.refs = m.before.refs.resolve? m.target? m.after.scope.label? from hrefs]
    exact ⟨RefTable.filled_resolve? .., fun h => h.resolve? ..⟩

/-! ## The elements that a walk comes to -/

namespace Draft
open Walk State

mutual
/-- The ids of the elements outside of headings, in document order. -/
def outerIds : Draft → List String
  | element tag attrs _ children =>
    (attrs.get? "id").toList ++
      match ElementKind.ofTag? tag with
      | some (.heading _) => []
      | _ => outerIdsAll children
  | text _ | split _ _ => []

def outerIdsAll : List Draft → List String
  | [] => []
  | n :: rest => outerIds n ++ outerIdsAll rest
end

section Cases
variable {kind : ElementKind} {tag : String} {attrs : Attrs} {label : Option String} {children : List Draft}

theorem outerIds_leaf {n : Draft} (hn : n.Leaf) : n.outerIds = [] := by
  cases n with
  | text => rfl
  | split => rfl
  | element => exact (hn _ _ _ _ rfl).elim

theorem outerIds_heading {level : HeadingLevel} (hk : ElementKind.ofTag? tag = some (.heading level)) :
    (element tag attrs label children).outerIds = (attrs.get? "id").toList := by
  rw [outerIds, hk, List.append_nil]

theorem outerIds_other (hk : ∀ level, ElementKind.ofTag? tag ≠ some (.heading level)) :
    (element tag attrs label children).outerIds = (attrs.get? "id").toList ++ outerIdsAll children := by
  rw [outerIds]
  split
  · rename_i level hlevel
    exact absurd hlevel (hk level)
  · rfl

theorem outerIds_list (hk : ElementKind.ofTag? tag = some kind) (hlist : kind.isList) :
    (element tag attrs label children).outerIds = (attrs.get? "id").toList ++ outerIdsAll children :=
  outerIds_other (not_heading_of_list hk hlist)

end Cases

mutual
theorem outerIds_markRefs (target : Option String) (n : Draft) : (markRefs target n).outerIds = n.outerIds := by
  cases n with
  | text content =>
    cases target with
    | none => rfl
    | some target =>
      rw [markRefs, Option.elim_some, markText]
      split <;> rfl
  | split target pieces => rfl
  | element tag attrs label children => rw [markRefs, outerIds, outerIds, outerIdsAll_markRefsAll]

theorem outerIdsAll_markRefsAll (target : Option String) (ns : List Draft) :
    outerIdsAll (markRefsAll target ns) = outerIdsAll ns := by
  cases ns with
  | nil => rfl
  | cons n rest =>
    rw [markRefsAll, outerIdsAll, outerIdsAll, outerIds_markRefs target n, outerIdsAll_markRefsAll target rest]
end

/-- A walk to its end comes to the elements outside of headings, each once and in document order. -/
theorem targets_cases (d : Defaults) :
    WalkCases d
      (fun n s => (walk d n s).2.failure = none → (moments d n s).filterMap Moment.target? = n.outerIds)
      (fun ns s => (walkAll d ns s).2.failure = none →
        (momentsAll d ns s).filterMap Moment.target? = outerIdsAll ns)
      (fun kind ns l s => (walkItems d kind ns l s).2.2.failure = none →
        (momentsItems d kind ns l s).filterMap Moment.target? = outerIdsAll ns) where
  stopped n s h hend := absurd (running_of_walk d hend) fun hrun => not_isStopped_iff.2 hrun h
  leaf n s h hn _ := by
    rw [moments_leaf hn, outerIds_leaf hn]
    rfl
  heading level tag attrs label children s h hk _ := by
    rw [moments_heading h hk, filterMap_target?_cons, outerIds_heading hk]
    exact List.append_nil _
  other tag attrs label children s h hk hchildren hend := by
    rw [walk_other h hk] at hend
    rw [moments_other h hk, filterMap_target?_cons, hchildren hend, outerIds_other (by simp [hk])]
    rfl
  bareList kind tag attrs attrs' label children s s' h hk hlist he hchildren hend := by
    rw [walk_bareList h hk hlist he] at hend
    rw [moments_bareList h hk hlist he, filterMap_target?_cons, hchildren hend,
      outerIds_list hk hlist]
    rfl
  list kind tag attrs attrs' label children l s s' h hk hlist he hchildren hend := by
    rw [walk_list h hk hlist he, failure_leaveList] at hend
    rw [moments_list h hk hlist he, filterMap_target?_cons, hchildren hend,
      outerIds_list hk hlist]
    rfl
  nil s _ := by rw [momentsAll]; rfl
  cons n rest s hn hrest hend := by
    rw [walkAll_cons] at hend
    rw [momentsAll, List.filterMap_append, hn (running_of_walkAll d hend), hrest hend, outerIdsAll]
  itemsStopped kind ns l s h hend := absurd (running_of_walkItems d hend) fun hrun => not_isStopped_iff.2 hrun h
  itemsNil kind l s h _ := by
    rw [momentsItems, (filterMap_target?_comesTo d s l).2]
    rfl
  itemsLeaf kind n rest l s h hn hrest hend := by
    rw [walkItems_leaf hn] at hend
    rw [momentsItems_leaf hn, hrest hend, outerIdsAll, outerIds_leaf hn]
    rfl
  item kind attrs label content rest l s h hcontent hrest hend := by
    rw [walkItems_item h] at hend
    have hafter := (failure_leaveItem _ _).symm.trans (running_of_walkItems d hend)
    rw [momentsItems_item h, filterMap_target?_cons, List.filterMap_append, List.filterMap_append,
      (filterMap_target?_comesTo d _ _).1, List.nil_append, hcontent hafter, hrest hend, outerIdsAll,
      outerIds_other not_heading_li, List.append_assoc]
    rfl
  itemsOther kind tag attrs label content rest l s h hli hn hrest hend := by
    rw [walkItems_other h hli] at hend
    rw [momentsItems_other h hli, List.filterMap_append, hn (running_of_walkItems d hend), hrest hend, outerIdsAll]

/-! ## What a walk leaves alone -/

mutual
/-- A draft without attributes and labels. -/
def shape : Draft → Draft
  | text content => text content
  | split target pieces => split target pieces
  | element tag _ _ children => element tag [] none (shapeAll children)

def shapeAll : List Draft → List Draft
  | [] => []
  | n :: rest => shape n :: shapeAll rest
end

/-- A walk changes attributes and labels alone. -/
theorem shape_cases (d : Defaults) :
    WalkCases d (fun n s => (walk d n s).1.shape = n.shape) (fun ns s => shapeAll (walkAll d ns s).1 = shapeAll ns)
      (fun kind ns l s => shapeAll (walkItems d kind ns l s).1 = shapeAll ns) where
  stopped n s h := by rw [walk_stopped h]
  leaf n s h hn := by rw [walk_leaf hn]
  heading level tag attrs label children s h hk := by rw [walk_heading h hk, shape, shape]
  other tag attrs label children s h hk hchildren := by rw [walk_other h hk, shape, shape, hchildren]
  bareList kind tag attrs attrs' label children s s' h hk hlist he hchildren := by
    rw [walk_bareList h hk hlist he, shape, shape, hchildren]
  list kind tag attrs attrs' label children l s s' h hk hlist he hchildren := by
    rw [walk_list h hk hlist he, shape, shape, hchildren]
  nil s := by rw [walkAll_nil]
  cons n rest s hn hrest := by rw [walkAll_cons, shapeAll, shapeAll, hn, hrest]
  itemsStopped kind ns l s h := by rw [walkItems_stopped h]
  itemsNil kind l s h := by rw [walkItems_nil]
  itemsLeaf kind n rest l s h hn hrest := by rw [walkItems_leaf hn, shapeAll, shapeAll, hrest]
  item kind attrs label content rest l s h hcontent hrest := by
    rw [walkItems_item h, shapeAll, shapeAll, hrest, shape, shape, hcontent]
  itemsOther kind tag attrs label content rest l s h hli hn hrest := by
    rw [walkItems_other h hli, shapeAll, shapeAll, hn, hrest]

mutual
theorem refKeys_shape (n : Draft) : n.shape.refKeys = n.refKeys := by
  cases n with
  | text content => rfl
  | split target pieces => rfl
  | element tag attrs label children => rw [shape, refKeys, refKeys, refKeysAll_shapeAll children]

theorem refKeysAll_shapeAll (ns : List Draft) : refKeysAll (shapeAll ns) = refKeysAll ns := by
  cases ns with
  | nil => rfl
  | cons n rest => rw [shapeAll, refKeysAll, refKeysAll, refKeys_shape n, refKeysAll_shapeAll rest]
end

end Draft

/-! ## Finished documents -/

namespace Node
open Draft

/-- What stands for a piece of text inside a link to an id: a reference has the text that is shown for it, or
else that of its marker. -/
def ofPiece (shown : RefKey → Option String) (target : String) : Piece → Node
  | .literal s => text (String.ofList s)
  | .marker s selector =>
    element "span" [("class", Css.refClass)]
      [text ((selector.bind fun selector => shown ⟨target, selector⟩).getD (String.ofList s))]

mutual
/-- What becomes of a node inside a link to an id, or outside of links. Text inside a link is split at the
markers in it. An element may get other attributes, and a label in front of its content. -/
inductive Resolved (shown : RefKey → Option String) : Option String → Node → List Node → Prop
  | text (s : String) : Resolved shown none (text s) [text s]
  | literal {target s : String} (h : ¬(Piece.scan s).any Piece.isMarker) :
      Resolved shown (some target) (text s) [text s]
  | split {target s : String} (h : (Piece.scan s).any Piece.isMarker) :
      Resolved shown (some target) (text s) ((Piece.scan s).map (ofPiece shown target))
  | element {target : Option String} {tag : String} {attrs : Attrs} (attrs' : Attrs) (label : Option String)
      {children ns : List Node} (h : ResolvedAll shown (targetInside target tag attrs) children ns) :
      Resolved shown target (element tag attrs children)
        [element tag attrs' ((label.map (labelSpan plainText)).toList ++ ns)]

/-- What becomes of nodes in a row. -/
inductive ResolvedAll (shown : RefKey → Option String) : Option String → List Node → List Node → Prop
  | nil {target : Option String} : ResolvedAll shown target [] []
  | cons {target : Option String} {n : Node} {rest ns ms : List Node} (h : Resolved shown target n ns)
      (hrest : ResolvedAll shown target rest ms) : ResolvedAll shown target (n :: rest) (ns ++ ms)
end

end Node

theorem Node.Resolved.exists_singleton {shown : RefKey → Option String} {n : Node} {ns : List Node}
    (h : n.Resolved shown none ns) : ∃ m, ns = [m] := by
  cases h with
  | text s => exact ⟨_, rfl⟩
  | element attrs' label h => exact ⟨_, rfl⟩

namespace Draft
open Node
variable {table : RefTable} {shown : RefKey → Option String}

theorem pieceNode_eq {target : String} {pieces : List Piece}
    (h : ∀ key ∈ pieceKeys target pieces, table.label? key = shown key) :
    pieces.map (pieceNode plainText table target) = pieces.map (ofPiece shown target) := by
  refine List.map_congr_left fun piece hpiece => ?_
  cases piece with
  | literal s => rfl
  | marker s selector =>
    have hshown : (selector.bind fun selector => table.label? ⟨target, selector⟩) =
        selector.bind fun selector => shown ⟨target, selector⟩ := by
      cases selector with
      | none => rfl
      | some selector => exact h _ (List.mem_filterMap.2 ⟨_, hpiece, rfl⟩)
    rw [pieceNode, ofPiece, hshown, refSpan]
    cases selector.bind fun selector => shown ⟨target, selector⟩ <;> rfl

mutual
/-- The nodes of a draft that has the shape of a document show what its table has for its references. -/
theorem resolved_of_shape (n : Node) (target : Option String) {m : Draft}
    (hm : m.shape = ((ofNode n).markRefs target).shape)
    (hshown : ∀ key ∈ m.refKeys, table.label? key = shown key) :
    n.Resolved shown target (m.toNodes plainText table) := by
  cases n with
  | text s =>
    cases target with
    | none =>
      cases m with
      | text content =>
        cases hm
        exact .text s
      | split | element => cases hm
    | some target =>
      rw [ofNode, markRefs, Option.elim_some, markText] at hm
      split at hm
      · rename_i hmarker
        cases m with
        | split target' pieces =>
          cases hm
          rw [toNodes, pieceNode_eq hshown]
          exact .split hmarker
        | text | element => cases hm
      · rename_i hmarker
        cases m with
        | text content =>
          cases hm
          exact .literal hmarker
        | split | element => cases hm
  | element tag attrs children =>
    rw [ofNode, markRefs, shape] at hm
    cases m with
    | text | split => cases hm
    | element tag' attrs' label ms =>
      rw [shape] at hm
      injection hm with htag _ _ hchildren
      subst htag
      exact .element attrs' label (resolved_of_shapeAll children _ hchildren hshown)

theorem resolved_of_shapeAll (ns : List Node) (target : Option String) {ms : List Draft}
    (hms : shapeAll ms = shapeAll ((markRefsAll target (ofNodes ns))))
    (hshown : ∀ key ∈ refKeysAll ms, table.label? key = shown key) :
    ResolvedAll shown target ns (toNodesAll plainText table ms) := by
  cases ns with
  | nil =>
    cases ms with
    | nil => exact .nil
    | cons => cases hms
  | cons n rest =>
    cases ms with
    | nil => cases hms
    | cons m ms =>
      rw [shapeAll, ofNodes, markRefsAll, shapeAll] at hms
      injection hms with hm hms
      rw [refKeysAll, List.forall_mem_append] at hshown
      exact .cons (resolved_of_shape n target hm hshown.1) (resolved_of_shapeAll rest target hms hshown.2)
end

end Draft

/-! ## Runs -/

namespace Labelling
open State Draft
variable {l : Labelling} {c : Template.Context} {doc : Node}

/-- What is shown for a reference: the label that it gets at the first moment that has one for it. -/
def shown (l : Labelling) (c : Template.Context) (doc : Node) (key : RefKey) : Option String :=
  (l.moments c doc).findSome? (·.reference? key)

/-- That is the label which its selector finds behind the first element with the id at which it finds one. -/
theorem shown_eq_some_iff {key : RefKey} {label : String} :
    l.shown c doc key = some label ↔
      ∃ past m rest, l.moments c doc = past ++ m :: rest ∧ m.target? = some key.target ∧
        m.after.scope.label? key.selector = some label ∧
        ∀ m' ∈ past, m'.target? = some key.target → m'.after.scope.label? key.selector = none := by
  rw [shown, List.findSome?_eq_some_iff]
  have hsome : ∀ m : Moment, m.reference? key = some label ↔
      m.target? = some key.target ∧ m.after.scope.label? key.selector = some label := by
    intro m
    rw [Moment.reference?, Option.ite_none_right_eq_some]
  have hnone : ∀ m : Moment, m.reference? key = none ↔
      (m.target? = some key.target → m.after.scope.label? key.selector = none) := by
    intro m
    rw [Moment.reference?]
    split <;> simp_all
  simp only [hsome, hnone, and_assoc]

/-- A reference has at each moment what the moments so far have had for it first. -/
theorem label?_history (hend : (l.draft c (.ofNode doc)).state.failure = none) {key : RefKey}
    (hkey : key ∈ references doc) {past rest : List Moment} {m : Moment}
    (hm : l.moments c doc = past ++ m :: rest) :
    m.before.refs.label? key = past.findSome? (·.reference? key) ∧
      m.after.refs.label? key = (past ++ [m]).findSome? (·.reference? key) := by
  have hhistory := l.moments_history c doc (P := fun past s =>
    s.refs.label? key = past.findSome? (·.reference? key) ∧ (s.refs.label? key = none → s.refs.Waits key))
    (fun c' => ?_) (fun past m hmem _ ih => ?_) hm
  · exact ⟨hhistory.1.1, hhistory.2.1⟩
  · have hwaits := (RefTable.waits_awaitAll (t := {}) (references doc) rfl).2 key hkey
    exact ⟨hwaits.unlabelled, fun _ => hwaits⟩
  · obtain ⟨hlabelled, hwaiting⟩ := Moment.label?_after (l.moments_running_after c doc hend m hmem) key
    rw [List.findSome?_append, ← ih.1, List.findSome?_singleton]
    cases hbefore : m.before.refs.label? key with
    | some label =>
      rw [hlabelled label hbefore]
      exact ⟨rfl, nofun⟩
    | none =>
      obtain ⟨hlabel, hstill⟩ := hwaiting (ih.2 hbefore)
      rw [Option.none_or]
      exact ⟨hlabel, fun hnone => hstill (hlabel.symm.trans hnone)⟩

theorem distinct_moments (l : Labelling) (c : Template.Context) (doc : Node) :
    ∀ m ∈ l.moments c doc, m.after.refs.Distinct := by
  have hempty : RefTable.Distinct {} := List.nodup_nil
  have hpreserve := l.moments_preserve c doc (P := fun s => s.refs.Distinct)
    (fun c' => hempty.awaitAll _) fun m _ _ => m.filled_after.2
  exact fun m hm => (hpreserve m hm).2

/-- A run to its end comes to the elements outside of headings, each once and in document order. -/
theorem targets_eq (hend : (l.draft c (.ofNode doc)).state.failure = none) :
    (l.moments c doc).filterMap Moment.target? = (Draft.ofNode doc).outerIds := by
  rw [draft] at hend
  rw [moments]
  rcases hread : Defaults.ofSettings c l.settings with ⟨e | d, c'⟩ <;> rw [hread] at hend
  · cases hend
  · exact ((targets_cases d).walk _ _ hend).trans (outerIds_markRefs none _)

theorem shape_draft (l : Labelling) (c : Template.Context) (doc : Node)
    (hend : (l.draft c (.ofNode doc)).state.failure = none) :
    (l.draft c (.ofNode doc)).draft.shape = ((Draft.ofNode doc).markRefs none).shape := by
  rw [draft] at hend ⊢
  rcases hread : Defaults.ofSettings c l.settings with ⟨e | d, c'⟩ <;> rw [hread] at hend
  · cases hend
  · exact (shape_cases d).walk _ _

/-- In the document of a run to its end the references show what they are to show. -/
theorem resolved_document (hend : (l.draft c (.ofNode doc)).state.failure = none) (hplain : l.typeset = plainText) :
    doc.Resolved (l.shown c doc) none [(l.apply c doc).document] := by
  have hshape := l.shape_draft c doc hend
  have hkeys : (l.draft c (.ofNode doc)).draft.refKeys = references doc := by
    rw [← refKeys_shape, hshape, refKeys_shape, references]
  have hresolved : doc.Resolved (l.shown c doc) none
      ((l.draft c (.ofNode doc)).draft.toNodes plainText (l.draft c (.ofNode doc)).state.refs) :=
    resolved_of_shape doc none hshape fun key hkey => label?_references hend (hkeys ▸ hkey)
  obtain ⟨n, hn⟩ := hresolved.exists_singleton
  have hdocument : (l.apply c doc).document = n := by
    rw [apply, hplain]
    dsimp only
    rw [toNode, hn]
  rwa [hdocument, ← hn]

/-- In a run that succeeds, every reference ends with the label that its selector finds behind the first element,
in the order of the walk, that has its id and behind which the selector finds one. It keeps the text of its marker
if there is no such element. The walk comes to the elements outside of headings, each once and in document order.
At each of them a reference has what the elements so far have had for it first: it gets its label once, at
whatever place it stands itself, and keeps it. -/
theorem references_resolved (settings : Settings) (c : Template.Context) (doc : Node) {report : LabelReport}
    (h : (Labelling.apply { settings } c doc).result = .ok report) :
    let l : Labelling := { settings }
    doc.Resolved (l.shown c doc) none [(l.apply c doc).document] ∧
      (∀ key label, l.shown c doc key = some label ↔
        ∃ past m rest, l.moments c doc = past ++ m :: rest ∧ m.target? = some key.target ∧
          m.after.scope.label? key.selector = some label ∧
          ∀ m' ∈ past, m'.target? = some key.target → m'.after.scope.label? key.selector = none) ∧
      (l.moments c doc).filterMap Moment.target? = (Draft.ofNode doc).outerIds ∧
      ∀ past m rest, l.moments c doc = past ++ m :: rest →
        m.before.refs.filled <+: m.after.refs.filled ∧ (m.after.refs.filled.map Prod.fst).Nodup ∧
          ∀ key ∈ references doc, m.before.refs.label? key = past.findSome? (·.reference? key) ∧
            m.after.refs.label? key = (past ++ [m]).findSome? (·.reference? key) := by
  intro l
  have hend : (l.draft c (.ofNode doc)).state.failure = none := running_of_result h
  refine ⟨resolved_document hend rfl, fun key label => shown_eq_some_iff, targets_eq hend, fun past m rest hm => ?_⟩
  have hmem : m ∈ l.moments c doc := hm ▸ List.mem_append_right _ (List.mem_cons_self ..)
  have hdistinct := l.distinct_moments c doc m hmem
  exact ⟨m.filled_after.1, (List.nodup_append.1 hdistinct).2.1, fun key hkey => label?_history hend hkey hm⟩

/-- A heading and an item with one id, and references before, inside and behind them: as any series the heading
counts, as a list the item, and there is no section of the second level. -/
theorem references_resolved_shared_id :
    let settings : Settings := { headingLabels := some "1", orderedLabels := some "1" }
    let l : Labelling := { settings }
    let doc : Node := .root [.element "a" [("href", "#x")] [.text "## ##l"], .element "h1" [("id", "x")] [],
      .element "ol" [] [.element "li" [] [], .element "li" [("id", "x")]
        [.element "a" [("href", "#x")] [.text "##l"]]], .element "a" [("href", "#x")] [.text "##h2"]]
    l.shown {} doc ⟨"x", .any⟩ = some "1" ∧ l.shown {} doc ⟨"x", .list⟩ = some "2" ∧
      l.shown {} doc ⟨"x", .level ⟨2, by decide, by decide⟩⟩ = none ∧
      doc.Resolved (l.shown {} doc) none [(l.apply {} doc).document] ∧
      (l.moments {} doc).filterMap Moment.target? = ["x", "x"] := by
  intro settings l doc
  have hok : (l.apply {} doc).result.toOption.isSome = true := by decide +kernel
  have hids : (Draft.ofNode doc).outerIds = ["x", "x"] := by decide
  cases hresult : (l.apply {} doc).result with
  | error e =>
    rw [hresult] at hok
    cases hok
  | ok report =>
    obtain ⟨hresolved, -, htargets, -⟩ := references_resolved settings {} doc hresult
    exact ⟨by decide +kernel, by decide +kernel, by decide +kernel, hresolved, htargets.trans hids⟩

end Labelling
end Rubric
