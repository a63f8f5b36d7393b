import Rubric.Proofs.Scope.Start

/-!
# What the numbers of series depend on

* `Series.Recasts f` : the change `f` of series leaves alone what numbers, labels and the stack depend on;
* `Roster.recast f r`, `Scope.recast f s` : all series changed, and no keys;
* `recast_*` : every change of a scope is one of the recast scope, and every look-up and label is that of the
  recast scope;
* `recast_created`, `recast_started`, `recast_replaced` : new series in scopes that are recast alike.
-/

namespace Rubric

/-- The change leaves alone what numbers, labels and the stack depend on. -/
structure Series.Recasts (f : Series → Series) : Prop where
  kind (s : Series) : (f s).kind = s.kind
  segment (s : Series) : (f s).segment = s.segment
  parent (s : Series) : (f s).parent = s.parent
  count (s : Series) : (f s).count = s.count
  children (s : Series) : (f s).children = s.children
  recount (s : Series) (n : Nat) : f { s with count := n } = { f s with count := n }
  relink (s : Series) (ids : List SeriesId) : f { s with children := ids } = { f s with children := ids }

variable {f : Series → Series}

namespace Roster

/-- A roster with all series changed, and no keys. -/
def recast (f : Series → Series) (r : Roster) : Roster := ⟨r.series.map f, []⟩

theorem get?_recast (f : Series → Series) (r : Roster) (id : SeriesId) :
    (r.recast f).get? id = (r.get? id).map f := by
  simp [get?, recast]

@[simp] theorem size_recast (f : Series → Series) (r : Roster) :
    (r.recast f).series.size = r.series.size := by
  simp [recast]

theorem size_congr {r r' : Roster} (h : r.recast f = r'.recast f) : r.series.size = r'.series.size := by
  rw [← size_recast f r, h, size_recast]

theorem children_recast (hf : Series.Recasts f) (r : Roster) (id : SeriesId) :
    (r.recast f).children id = r.children id := by
  rw [children, get?_recast, children]
  cases r.get? id with
  | none => rfl
  | some s => exact hf.children s

theorem view?_recast (hf : Series.Recasts f) (r : Roster) (id : SeriesId) :
    (r.recast f).view? id = (r.view? id).map f := by
  rw [view?, get?_recast, view?]
  cases r.get? id with
  | none => rfl
  | some s => exact congrArg some (hf.relink s []).symm

/-! ## Labels -/

theorem bareText_recast (hf : Series.Recasts f) (r : Roster) (id : SeriesId) :
    (r.recast f).bareText id = r.bareText id := by
  induction id using Nat.strongRecOn with
  | ind id ih =>
    rw [bareText_eq, bareText_eq, view?_recast hf]
    cases r.view? id with
    | none => rfl
    | some s =>
      simp only [Option.map_some, hf.segment, hf.parent, hf.count]
      cases s.segment.style with
      | none => rfl
      | some style =>
        cases s.parent with
        | none => rfl
        | some p =>
          dsimp only
          by_cases hlt : p < id
          · rw [if_pos hlt, if_pos hlt, ih p hlt]
          · rw [if_neg hlt, if_neg hlt]

theorem text_recast (hf : Series.Recasts f) (r : Roster) (id : SeriesId) :
    (r.recast f).text id = r.text id := by
  rw [text, text, get?_recast, bareText_recast hf]
  cases r.get? id with
  | none => rfl
  | some s =>
    show (f s).segment.before ++ _ ++ (f s).segment.after = _
    rw [hf.segment]

/-! ## Changes -/

/-- A change of one series that can be made before or after all are changed. -/
theorem recast_modify (r : Roster) (id : SeriesId) {g : Series → Series} (hg : ∀ s, f (g s) = g (f s)) :
    recast f { r with series := r.series.modify id g } =
      { r.recast f with series := (r.recast f).series.modify id g } := by
  refine congrArg (Roster.mk · []) (Array.ext_getElem? fun j => ?_)
  have h := get?_modify r id j g
  have h' := get?_modify (r.recast f) id j g
  rw [get?] at h h'
  rw [h', get?_recast, Array.getElem?_map, h]
  by_cases hj : id = j
  · rw [if_pos hj, if_pos hj]
    cases r.get? j with
    | none => rfl
    | some s => exact congrArg some (hg s)
  · rw [if_neg hj, if_neg hj]

theorem recast_increment (hf : Series.Recasts f) (r : Roster) (id : SeriesId) :
    (r.increment id).recast f = (r.recast f).increment id :=
  recast_modify r id fun s => by rw [hf.recount, hf.count]

theorem recast_clearChildren (hf : Series.Recasts f) (r : Roster) (id : SeriesId) :
    (r.clearChildren id).recast f = (r.recast f).clearChildren id :=
  recast_modify r id fun s => hf.relink s []

theorem recast_addChild (hf : Series.Recasts f) (r : Roster) (parent id : SeriesId) :
    (r.addChild parent id).recast f = (r.recast f).addChild parent id :=
  recast_modify r parent fun s => by rw [hf.relink, hf.children]

theorem recast_pushed (r : Roster) (kind : ElementKind) (template : Template.Instance)
    (parent : Option SeriesId) (styled : Bool) :
    (r.pushed kind template parent styled).recast f =
      ⟨(r.recast f).series.push (f (r.newSeries kind template parent styled)), []⟩ := by
  simp [pushed, recast]

/-- Two rosters that are recast alike still are after a new series in each of them, if these are. -/
theorem recast_created (hf : Series.Recasts f) {r r' : Roster} (h : r.recast f = r'.recast f)
    {kind : ElementKind} {template template' : Template.Instance} {parent : Option SeriesId}
    {styled styled' : Bool}
    (hnew : f (r.newSeries kind template parent styled) = f (r'.newSeries kind template' parent styled')) :
    (r.create kind template parent styled).2.recast f =
      (r'.create kind template' parent styled').2.recast f := by
  rw [create_eq, create_eq]
  cases parent with
  | none => simp only [Option.elim_none, recast_pushed, h, hnew]
  | some p => simp only [Option.elim_some, recast_addChild hf, recast_pushed, h, hnew, size_congr h]

end Roster

namespace Scope

def recast (f : Series → Series) (s : Scope) : Scope := ⟨s.roster.recast f, s.stack⟩

theorem roster_congr {s t : Scope} (h : s.recast f = t.recast f) :
    s.roster.recast f = t.roster.recast f := (Scope.mk.inj h).1

theorem stack_congr {s t : Scope} (h : s.recast f = t.recast f) : s.stack = t.stack := (Scope.mk.inj h).2

/-! ## Look-up -/

theorem find?_recast (hf : Series.Recasts f) (s : Scope) (selector : Selector) :
    (s.recast f).find? selector = s.find? selector := by
  refine congrArg (List.find? · s.stack) (funext fun id => ?_)
  rw [selects, selects, recast, Roster.get?_recast]
  cases s.roster.get? id with
  | none => rfl
  | some series => simp only [Option.map_some, Option.any_some, Series.isNumbered, hf.kind, hf.segment]

theorem findKind?_recast (hf : Series.Recasts f) (s : Scope) (kind : ElementKind) :
    (s.recast f).findKind? kind = s.findKind? kind := by
  refine congrArg (List.find? · s.stack) (funext fun id => ?_)
  rw [recast, Roster.get?_recast]
  cases s.roster.get? id with
  | none => rfl
  | some series => simp only [Option.map_some, Option.any_some, hf.kind]

theorem isDeeper_recast (hf : Series.Recasts f) (s : Scope) (level : HeadingLevel) :
    (s.recast f).isDeeper level = s.isDeeper level := by
  funext id
  rw [isDeeper, isDeeper, recast, Roster.get?_recast]
  cases s.roster.get? id with
  | none => rfl
  | some series => simp only [Option.map_some, Option.any_some, hf.kind]

theorem label?_recast (hf : Series.Recasts f) (s : Scope) (selector : Selector) :
    (s.recast f).label? selector = s.label? selector := by
  rw [label?, find?_recast hf, label?]
  exact congrArg (Option.map · (s.find? selector)) (funext (Roster.bareText_recast hf s.roster))

theorem parent_recast (hf : Series.Recasts f) (s : Scope) (id : SeriesId) :
    ((s.recast f).roster.get? id).bind Series.parent = (s.roster.get? id).bind Series.parent := by
  rw [recast, Roster.get?_recast]
  cases s.roster.get? id with
  | none => rfl
  | some series => exact hf.parent series

/-! ## Changes -/

theorem recast_increment (hf : Series.Recasts f) (s : Scope) (id : SeriesId) :
    (s.increment id).recast f = (s.recast f).increment id :=
  congrArg (Scope.mk · s.stack) (Roster.recast_increment hf s.roster id)

theorem recast_remove (s : Scope) (id : SeriesId) : (s.remove id).recast f = (s.recast f).remove id := rfl

theorem recast_forget (hf : Series.Recasts f) (s : Scope) (id : SeriesId) :
    (s.forget id).recast f = (s.recast f).forget id :=
  congrArg (Scope.mk · s.stack) (Roster.recast_clearChildren hf s.roster id)

theorem recast_evict (hf : Series.Recasts f) (s : Scope) (ids : List SeriesId) :
    (s.evict ids).recast f = (s.recast f).evict ids := by
  fun_induction evict s ids with
  | case1 s => rw [evict]
  | case2 s id rest ih =>
    rw [ih, evict, recast_forget hf, recast_remove]
    exact congrArg (fun ids => (((s.recast f).remove id).forget id).evict (ids ++ rest))
      (Roster.children_recast hf s.roster id).symm

theorem recast_endBelow (hf : Series.Recasts f) (s : Scope) (id : SeriesId) :
    (s.endBelow id).recast f = (s.recast f).endBelow id := by
  rw [endBelow, recast_evict hf, recast_forget hf, endBelow]
  exact congrArg ((s.recast f).forget id).evict (Roster.children_recast hf s.roster id).symm

theorem recast_closeBelow (hf : Series.Recasts f) (s : Scope) (level : HeadingLevel) :
    (s.closeBelow level).recast f = (s.recast f).closeBelow level := by
  have hfold : ∀ (ids : List SeriesId) (s : Scope),
      (ids.foldl (fun s id => (s.remove id).endBelow id) s).recast f =
        ids.foldl (fun s id => (s.remove id).endBelow id) (s.recast f) := by
    intro ids
    induction ids with
    | nil => exact fun _ => rfl
    | cons id rest ih =>
      intro s
      rw [List.foldl_cons, List.foldl_cons, ih, recast_endBelow hf, recast_remove]
  rw [closeBelow, closeBelow, hfold, isDeeper_recast hf]
  rfl

section New
variable {s t : Scope} {kind : ElementKind} {template template' : Template.Instance}
  {parent : Option SeriesId} {styled styled' : Bool}

theorem recast_started (hf : Series.Recasts f) (h : s.recast f = t.recast f)
    (hnew : f (s.roster.newSeries kind template parent styled) =
      f (t.roster.newSeries kind template' parent styled')) :
    (s.started kind template parent styled).recast f = (t.started kind template' parent styled').recast f := by
  have hroster := roster_congr h
  have hstack : s.stack = t.stack := stack_congr h
  have hcreate := Roster.recast_created hf hroster hnew
  simp only [recast, started, create, push, hcreate, Roster.size_congr hroster, hstack]

theorem recast_replaced (hf : Series.Recasts f) (h : s.recast f = t.recast f) (old : SeriesId)
    (hnew : f (s.roster.newSeries kind template ((s.roster.get? old).bind Series.parent) styled) =
      f (t.roster.newSeries kind template' ((s.roster.get? old).bind Series.parent) styled')) :
    (s.replaced old kind template styled).recast f = (t.replaced old kind template' styled').recast f := by
  have hroster := roster_congr h
  have hstack : s.stack = t.stack := stack_congr h
  have hparent : (s.roster.get? old).bind Series.parent = (t.roster.get? old).bind Series.parent := by
    rw [← parent_recast hf, h, parent_recast hf]
  have hcreate := Roster.recast_created hf hroster hnew
  rw [hparent] at hcreate
  rw [replaced, replaced, hparent, Roster.size_congr hroster, replace, replace, recast_endBelow hf,
    recast_endBelow hf]
  refine congrArg (Scope.endBelow · old) ?_
  simp only [recast, create, hcreate, hstack]
  rfl

end New

end Scope
end Rubric
