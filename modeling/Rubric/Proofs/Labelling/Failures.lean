import Rubric.Proofs.Labelling.Reports

/-!
# When a run fails, and what it leaves

* `Settings.error?` : the error in the settings; `ofSettings_cases` : with it they cannot be read;
* `Draft.toNode_ofNode` : a document is not changed by a run that does not begin;
* `Treated.failed` : the element at which a run is stopped is the last that it comes to. It has lost its directives
  and has no label;
* `Labelling.failure_eq` : a run is stopped by the error in its settings, or else by the first error of an element;
* `Labelling.left_of_failure` : what a run leaves that is stopped at an element;
* `Labelling.fails_iff` : both, of the result of a run.
-/

namespace Rubric
open Walk

/-! ## Settings -/

/-- The error in the settings: a level that there is not, or else the first error in their templates. -/
def Settings.error? (s : Settings) : Option LabelError :=
  if 1 ≤ s.headingLevel ∧ s.headingLevel ≤ 6 then
    s.headingLabels.bind TemplateOrigin.headingSetting.error? <|>
      s.orderedLabels.bind TemplateOrigin.orderedSetting.error? <|>
      s.unorderedLabels.bind TemplateOrigin.unorderedSetting.error?
  else some (.headingLevel s.headingLevel)

/-- Settings can be read just if there is no error in them. -/
theorem Defaults.ofSettings_cases (c : Template.Context) (s : Settings) :
    (∃ d c', s.error? = none ∧ ofSettings c s = (.ok d, c')) ∨
      ∃ e c', s.error? = some e ∧ ofSettings c s = (.error e, c') := by
  by_cases hlevel : 1 ≤ s.headingLevel ∧ s.headingLevel ≤ 6
  · have hof : HeadingLevel.ofNat? s.headingLevel = some ⟨s.headingLevel, hlevel.1, hlevel.2⟩ := dif_pos hlevel
    rw [Settings.error?, if_pos hlevel, ofSettings, hof]
    dsimp only
    rcases c.read_cases .headingSetting s.headingLabels with ⟨heading, c₁, hh, hread⟩ | ⟨e, c₁, hh, hread⟩ <;>
      rw [hh, hread] <;> dsimp only
    · rcases c₁.read_cases .orderedSetting s.orderedLabels with ⟨ordered, c₂, ho, hread⟩ | ⟨e, c₂, ho, hread⟩ <;>
        rw [ho, hread] <;> dsimp only
      · rcases c₂.read_cases .unorderedSetting s.unorderedLabels with
          ⟨unordered, c₃, hu, hread⟩ | ⟨e, c₃, hu, hread⟩ <;> rw [hu, hread]
        · exact Or.inl ⟨_, _, rfl, rfl⟩
        · exact Or.inr ⟨_, _, rfl, rfl⟩
      · exact Or.inr ⟨_, _, rfl, rfl⟩
    · exact Or.inr ⟨_, _, rfl, rfl⟩
  · have hof : HeadingLevel.ofNat? s.headingLevel = none := dif_neg hlevel
    rw [Settings.error?, if_neg hlevel, ofSettings, hof]
    exact Or.inr ⟨_, c, rfl, rfl⟩

/-! ## Documents that are left alone -/

namespace Draft
variable (typeset : Typesetting) (table : RefTable)

mutual
theorem toNodes_ofNode (n : Node) : (ofNode n).toNodes typeset table = [n] := by
  cases n with
  | text s => rfl
  | element tag attrs children =>
    rw [ofNode, toNodes, toNodesAll_ofNodes children]
    rfl

theorem toNodesAll_ofNodes (ns : List Node) : toNodesAll typeset table (ofNodes ns) = ns := by
  cases ns with
  | nil => rfl
  | cons n rest =>
    rw [ofNodes, toNodesAll, toNodes_ofNode n, toNodesAll_ofNodes rest]
    rfl
end

/-- The document of the draft of a document. -/
theorem toNode_ofNode (n : Node) : (ofNode n).toNode typeset table = n := by
  rw [toNode, toNodes_ofNode]

end Draft

/-! ## The element at which a run is stopped -/

section
variable {got : Nat → Bool} {d : Defaults} {s t : State} {ms : List Moment} {es es' : List OuterElement}

/-- Where the moments end with an error, the last of the elements has it. -/
theorem Treated.failed (h : Treated got ms es es') (htrace : Trace d s ms t) (hs : s.failure = none)
    (hlabels : ∀ e ∈ es, e.label = none) {err : LabelError} (herr : t.failure = some err) :
    ∃ before before' e, es = before ++ [e] ∧
      es' = before' ++ [{ e with attrs := (takeBoth e.tag e.attrs).attrs }] ∧ before'.length = before.length ∧
      (∀ x ∈ before, x.error? got = none) ∧ e.error? got = some err := by
  induction h generalizing s with
  | nil =>
    cases htrace
    cases hs.symm.trans herr
  | @leave m ms es es' hm _ ih =>
    cases htrace with
    | cons _ htrace => exact ih htrace ((Moment.quiet_of_not_stop hm).failure.trans hs) hlabels
  | @stop m ms e e' es es' hm hes ih =>
    obtain ⟨hlabel, hlabels⟩ := List.forall_mem_cons.1 hlabels
    cases htrace with
    | cons _ htrace =>
      have hfirst := hm.reports hs
      cases hfailure : e.error? got with
      | none =>
        rw [hfailure] at hfirst
        obtain ⟨before, before', x, rfl, rfl, hlength, hbefore, hx⟩ := ih htrace hfirst.failure hlabels
        exact ⟨e :: before, e' :: before', x, rfl, rfl, congrArg (· + 1) hlength,
          List.forall_mem_cons.2 ⟨hfailure, hbefore⟩, hx⟩
      | some err' =>
        rw [hfailure] at hfirst
        cases htrace with
        | cons hrun => cases hrun.symm.trans hfirst.failure
        | nil =>
          cases hes
          obtain rfl : err' = err := Option.some.inj (hfirst.failure.symm.trans herr)
          exact ⟨[], [], e, rfl, by rw [hm.failed hs hlabel (by simp [hfailure])]; rfl, rfl, by simp, hfailure⟩

/-- What a walk has not come to because of an error does not matter for what it says. -/
theorem Ledger.failure_eq (h : Ledger got ms es es' t) (htrace : Trace d s ms t) (hs : s.failure = none) :
    t.failure = es.findSome? (OuterElement.error? got) := by
  obtain ⟨front, front', back, rfl, rfl, htreated, hback⟩ := h
  have hfailure := (htreated.reports htrace hs).failure
  rw [List.findSome?_append, ← hfailure]
  cases ht : t.failure with
  | none => rw [hback ht]; rfl
  | some err => rfl

end

/-! ## Runs -/

namespace Draft

mutual
theorem label_outerElements (n : Node) (next : Nat) (list : Option Nat) :
    ∀ e ∈ (ofNode n).outerElements next list, e.label = none := by
  cases n with
  | text s => simp [ofNode, outerElements]
  | element tag attrs children =>
    have hbelow := fun next list => label_outerElementsAll children next list
    rw [ofNode, outerElements]
    refine List.forall_mem_cons.2 ⟨rfl, ?_⟩
    split
    · simp
    · exact hbelow _ _
    · exact hbelow _ _

theorem label_outerElementsAll (ns : List Node) (next : Nat) (list : Option Nat) :
    ∀ e ∈ outerElementsAll next list (ofNodes ns), e.label = none := by
  cases ns with
  | nil => simp [ofNodes, outerElementsAll]
  | cons n rest =>
    rw [ofNodes, outerElementsAll]
    exact List.forall_mem_append.2 ⟨label_outerElements n next list, label_outerElementsAll rest _ list⟩
end

end Draft

theorem State.result_eq_error_iff {s : State} {err : LabelError} :
    s.result = .error err ↔ s.failure = some err := by
  rw [result]
  cases s.failure with
  | none => simp
  | some e => simp

namespace Labelling
variable (l : Labelling) (c : Template.Context) (doc : Node)

/-- A run is stopped by the error in its settings, or else by the first error of an element. -/
theorem failure_eq :
    (l.draft c (.ofNode doc)).state.failure =
      (l.settings.error? <|> doc.outerElements.findSome? (OuterElement.error? (l.gotTemplate c doc))) := by
  rcases Defaults.ofSettings_cases c l.settings with ⟨d, c', hnone, hread⟩ | ⟨e, c', hsome, hread⟩
  · rw [hnone]
    exact (l.ledger c doc).failure_eq (trace_of_read hread doc) rfl
  · rw [hsome, draft, hread]
    rfl

theorem document_of_error {err : LabelError} (h : l.settings.error? = some err) :
    (l.apply c doc).document = doc := by
  rcases Defaults.ofSettings_cases c l.settings with ⟨d, c', hnone, -⟩ | ⟨e, c', -, hread⟩
  · cases hnone.symm.trans h
  · rw [apply, draft, hread]
    exact Draft.toNode_ofNode ..

/-- A run that is stopped at an element has taken off its directives and has not labelled it, and it has left alone
all elements behind it. -/
theorem left_of_failure (h : l.settings.error? = none) {err : LabelError}
    (herr : (l.draft c (.ofNode doc)).state.failure = some err) :
    ∃ before before' e after, doc.outerElements = before ++ e :: after ∧ before'.length = before.length ∧
      (∀ x ∈ before, x.error? (l.gotTemplate c doc) = none) ∧ e.error? (l.gotTemplate c doc) = some err ∧
      doc.Relabelled l.typeset (before' ++ ⟨e.tag, e.attrs.undirected, none, e.list⟩ :: after)
        [(l.apply c doc).document] := by
  rcases Defaults.ofSettings_cases c l.settings with ⟨d, c', -, hread⟩ | ⟨e, c', hsome, -⟩
  · have hrelabelled := l.relabelled c doc hread
    have hlabels : ∀ e ∈ doc.outerElements, e.label = none := Draft.label_outerElements doc 0 none
    obtain ⟨front, front', back, hfront, hfront', htreated, -⟩ := l.ledger c doc
    rw [hfront] at hlabels
    obtain ⟨before, before', e, rfl, rfl, hlength, hbefore, he⟩ := htreated.failed (trace_of_read hread doc) rfl
      (fun e he => hlabels e (List.mem_append_left _ he)) herr
    have hlabel : e.label = none := hlabels e (by simp)
    rw [hfront', List.append_assoc, hlabel] at hrelabelled
    rw [List.append_assoc] at hfront
    exact ⟨before, before', e, back, hfront, hlength, hbefore, he, hrelabelled⟩
  · cases h.symm.trans hsome

/-- A run comes to the elements outside of the content of headings one after the other. -/
theorem stops_at_elements :
    ∃ front back, doc.outerElements = front ++ back ∧
      List.Forall₂ (fun e m => m.event.element? = some (e.tag, e.attrs)) front (l.stops c doc) := by
  obtain ⟨front, front', back, hfront, -, htreated, -⟩ := l.ledger c doc
  exact ⟨front, back, hfront, htreated.forall₂_stops fun m _ e e' hm => hm.element?_eq⟩

/-- A run fails just if there is an error in its settings, or else in a template that is read outside of the content
of headings: that of a heading that may have a label, of a list, or of such an item of a list that has got a
template. The first error in document order is the one reported. Settings with an error leave the document as it is.
A run that is stopped at an element has taken off the directives of the element and has not labelled it, and it has
left alone all elements behind it, of which text alone is split. The lists that have got a template are told by the
moments of the run, which come to one element after the other. -/
theorem fails_iff :
    (∀ err, (l.apply c doc).result = .error err ↔
      (l.settings.error? <|> doc.outerElements.findSome? (OuterElement.error? (l.gotTemplate c doc))) = some err) ∧
    (∀ err, l.settings.error? = some err → (l.apply c doc).document = doc) ∧
    (∀ err, l.settings.error? = none → (l.apply c doc).result = .error err →
      ∃ before before' e after, doc.outerElements = before ++ e :: after ∧ before'.length = before.length ∧
        (∀ x ∈ before, x.error? (l.gotTemplate c doc) = none) ∧ e.error? (l.gotTemplate c doc) = some err ∧
        doc.Relabelled l.typeset (before' ++ ⟨e.tag, e.attrs.undirected, none, e.list⟩ :: after)
          [(l.apply c doc).document]) ∧
    ∃ front back, doc.outerElements = front ++ back ∧
      List.Forall₂ (fun e m => m.event.element? = some (e.tag, e.attrs)) front (l.stops c doc) := by
  have hresult : ∀ err, (l.apply c doc).result = .error err ↔
      (l.draft c (.ofNode doc)).state.failure = some err := fun err => State.result_eq_error_iff
  refine ⟨fun err => ?_, fun err => l.document_of_error c doc, fun err hnone herr => ?_,
    l.stops_at_elements c doc⟩
  · rw [hresult, failure_eq]
  · exact l.left_of_failure c doc hnone ((hresult err).1 herr)

/-- A template that cannot be read stops the run at an item, and not at a heading that shall have no label. What
comes behind the item keeps its directive. -/
theorem fails_iff_item :
    let l : Labelling := { settings := { orderedLabels := some "1" } }
    let doc : Node := .root [.element "h1" [("-label", "?1?1"), ("-no-label", "")] [],
      .element "ol" [] [.element "li" [("-label", "?1?1")] []], .element "p" [("-label", "?1?1")] []]
    ∃ err before before' e after, (l.apply {} doc).result = .error err ∧
      doc.outerElements = before ++ e :: after ∧ e.error? (l.gotTemplate {} doc) = some err ∧
      doc.Relabelled l.typeset (before' ++ ⟨e.tag, e.attrs.undirected, none, e.list⟩ :: after)
        [(l.apply {} doc).document] ∧
      (l.apply {} doc).document.outerElements.map OuterElement.attrs =
        [[], [], [], [], [("-label", "?1?1")]] := by
  intro l doc
  have hsettings : l.settings.error? = none := by decide +kernel
  have hattrs : (l.apply {} doc).document.outerElements.map OuterElement.attrs =
      [[], [], [], [], [("-label", "?1?1")]] := by decide +kernel
  have hfails : (l.apply {} doc).result.toOption.isNone = true := by decide +kernel
  cases hresult : (l.apply {} doc).result with
  | ok report =>
    rw [hresult] at hfails
    cases hfails
  | error err =>
    obtain ⟨before, before', e, after, hdoc, -, -, herr, hleft⟩ :=
      (fails_iff l {} doc).2.2.1 err hsettings hresult
    exact ⟨err, before, before', e, after, rfl, hdoc, herr, hleft, hattrs⟩

end Labelling
end Rubric
