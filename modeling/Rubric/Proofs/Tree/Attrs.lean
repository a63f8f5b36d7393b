import Mathlib.Data.List.TakeWhile
import Rubric.Proofs.Css.Selectors
import Rubric.Tree.Attrs

/-!
# Classes and inline styles

* `get?_addClass_of_ne`, `erase_addClass`, `get?_addStyle_of_ne`, `erase_addStyle` : other attributes stay;
* `Css.IsLabelClass`, `Css.IsOwn` : the classes that labels give, and labelling;
* `classes_addClass`, `hasClass_addClass`, `classes_addStyle` : the class list after a change;
* `Attrs.declarations` : the declarations of an inline style; `mem_declarations_addStyle`,
  `declarations_addClass` : these after a change;
* `Attrs.Dressed` : what labels make of the attributes of an element.
-/

namespace Rubric

/-! ## Other attributes -/

namespace Attrs

theorem erase_set_self (attrs : Attrs) (name value : String) :
    (attrs.set name value).erase name = attrs.erase name := by
  induction attrs with
  | nil => simp [set, erase]
  | cons entry rest ih =>
    simp only [set]
    split
    · simp [erase]
    · split
      · rename_i heq
        simp [erase, heq]
      · simp only [erase, List.filter_cons] at ih ⊢
        rw [ih]

theorem erase_comm (attrs : Attrs) (name other : String) :
    (attrs.erase name).erase other = (attrs.erase other).erase name := by
  simp only [erase, List.filter_filter, Bool.and_comm]

theorem erase_erase (attrs : Attrs) (name : String) : (attrs.erase name).erase name = attrs.erase name := by
  simp only [erase, List.filter_filter, Bool.and_self]

theorem get?_addClass_of_ne (attrs : Attrs) {name other : String} (h : other ≠ "class") :
    (attrs.addClass name).get? other = attrs.get? other := by
  rw [addClass]
  split
  · rfl
  · split
    · split <;> rw [get?_set_of_ne _ _ h]
    · rw [get?_set_of_ne _ _ h]

theorem erase_addClass (attrs : Attrs) (name : String) :
    (attrs.addClass name).erase "class" = attrs.erase "class" := by
  rw [addClass]
  split
  · rfl
  · split
    · split <;> rw [erase_set_self]
    · rw [erase_set_self]

theorem get?_addStyle_of_ne (attrs : Attrs) {declaration other : String} (h : other ≠ "style") :
    (attrs.addStyle declaration).get? other = attrs.get? other := by
  rw [addStyle]
  split
  · split <;> rw [get?_set_of_ne _ _ h]
  · rw [get?_set_of_ne _ _ h]

theorem erase_addStyle (attrs : Attrs) (declaration : String) :
    (attrs.addStyle declaration).erase "style" = attrs.erase "style" := by
  rw [addStyle]
  split
  · split <;> rw [erase_set_self]
  · rw [erase_set_self]

end Attrs

/-! ## Words -/

namespace Text

theorem wordsFrom_append_blank (s : List Char) (word t : List Char) :
    wordsFrom word (s ++ ' ' :: t) = wordsFrom word s ++ words t := by
  have hblank : isBlank ' ' = true := by decide
  induction s generalizing word with
  | nil =>
    simp only [List.nil_append, wordsFrom, hblank, if_true]
    split <;> rfl
  | cons c r ih =>
    rw [List.cons_append, wordsFrom, wordsFrom]
    split
    · split
      · exact ih []
      · rw [ih [], List.cons_append]
    · exact ih _

theorem wordsFrom_word (s : List Char) (word : List Char) (hs : s.any isBlank = false)
    (hne : word ++ s ≠ []) : wordsFrom word s = [word ++ s] := by
  induction s generalizing word with
  | nil =>
    rw [List.append_nil] at hne
    rw [wordsFrom, if_neg (by simpa using hne), List.append_nil]
  | cons c r ih =>
    rw [List.any_cons, Bool.or_eq_false_iff] at hs
    rw [wordsFrom, if_neg (by simp [hs.1]), ih (word ++ [c]) hs.2 (by simp)]
    simp

theorem words_of_word {s : List Char} (hs : s.any isBlank = false) (hne : s ≠ []) :
    words s = [s] := wordsFrom_word s [] hs (by simpa using hne)

theorem words_of_allBlank {s : List Char} (h : allBlank s = true) : words s = [] := by
  have hs : ∀ c ∈ s, isBlank c = true := List.all_eq_true.1 h
  clear h
  unfold words
  induction s with
  | nil => rfl
  | cons c r ih =>
    rw [wordsFrom_blank (hs c (List.mem_cons_self ..))]
    exact ih fun d hd => hs d (List.mem_cons_of_mem _ hd)

theorem isBlank_of_isDigit {c : Char} (h : c.isDigit = true) : isBlank c = false := by
  cases hblank : isBlank c with
  | false => rfl
  | true =>
    simp only [Char.isDigit, Bool.and_eq_true, decide_eq_true_eq] at h
    have h1 : 48 ≤ c.toNat := h.1
    have h2 : c.toNat ≤ 57 := h.2
    simp only [isBlank, Bool.or_eq_true, Bool.and_eq_true, decide_eq_true_eq,
      beq_iff_eq] at hblank
    omega

end Text

/-! ## Class lists -/

namespace Attrs

/-- A class that is new comes behind the others. -/
theorem classes_addClass {attrs : Attrs} {name : String} (hnew : attrs.hasClass name = false)
    (hname : name.toList.any Text.isBlank = false) (hne : name.toList ≠ []) :
    (attrs.addClass name).classes = attrs.classes ++ [name.toList] := by
  rw [addClass, hnew, classes]
  cases hget : attrs.get? "class" with
  | none =>
    simp only [Bool.false_eq_true, if_false]
    rw [classes, hget, get?_set_self, Option.elim_some, Option.elim_none,
      Text.words_of_word hname hne, List.nil_append]
  | some names =>
    simp only [Bool.false_eq_true, if_false]
    rw [classes, hget, Option.elim_some]
    split
    · rename_i hblank
      rw [get?_set_self, Option.elim_some, Text.words_of_word hname hne, Text.words_of_allBlank hblank,
        List.nil_append]
    · rw [get?_set_self, Option.elim_some, String.toList_append, String.toList_append,
        List.append_assoc]
      have := Text.wordsFrom_append_blank names.toList [] name.toList
      rw [Text.words_of_word hname hne] at this
      exact this

theorem no_blank_styleName (key : Nat) : (Css.styleName key).toList.any Text.isBlank = false := by
  have hname : "la-label".toList.any Text.isBlank = false := by decide
  rw [Css.toList_styleName, List.any_append, hname, Bool.false_or, List.any_eq_false]
  intro c hc
  simp [Text.isBlank_of_isDigit (Nat.isDigit_of_mem_toDigits (by decide) (by decide) hc)]

end Attrs

/-- The classes that labels give. -/
def Css.IsLabelClass (name : String) : Prop := name = labelledClass ∨ ∃ key, name = styleName key

/-- The classes that labelling gives. -/
def Css.IsOwn (name : String) : Prop := IsLabelClass name ∨ name = noLabelClass

theorem Css.isPrefixOf_styleName (key : Nat) :
    "la-".toList.isPrefixOf (styleName key).toList = true := by
  rw [toList_styleName]
  rfl

theorem Css.styleName_ne_noLabelClass (key : Nat) : styleName key ≠ noLabelClass := by
  intro h
  have hlist := congrArg String.toList h
  rw [toList_styleName] at hlist
  have : "la-label".toList <+: noLabelClass.toList := ⟨_, hlist⟩
  exact absurd this (by decide)

theorem Css.IsLabelClass.ne_noLabelClass {name : String} (h : IsLabelClass name) :
    name ≠ noLabelClass := by
  rcases h with rfl | ⟨key, rfl⟩
  · decide
  · exact styleName_ne_noLabelClass key

theorem Css.IsOwn.no_blank {name : String} (h : IsOwn name) : name.toList.any Text.isBlank = false := by
  rcases h with (rfl | ⟨key, rfl⟩) | rfl
  · decide
  · exact Attrs.no_blank_styleName key
  · decide

theorem Css.IsOwn.isPrefixOf {name : String} (h : IsOwn name) :
    "la-".toList.isPrefixOf name.toList = true := by
  rcases h with (rfl | ⟨key, rfl⟩) | rfl
  · decide
  · exact isPrefixOf_styleName key
  · decide

theorem Css.IsOwn.ne_nil {name : String} (h : IsOwn name) : name.toList ≠ [] := by
  intro hnil
  have := h.isPrefixOf
  rw [hnil] at this
  cases this

namespace Attrs

theorem addClass_of_hasClass {attrs : Attrs} {name : String} (h : attrs.hasClass name = true) :
    attrs.addClass name = attrs := by
  rw [addClass, if_pos h]

theorem hasClass_addClass_of_word {name : String} (hname : name.toList.any Text.isBlank = false)
    (hne : name.toList ≠ []) (attrs : Attrs) (other : String) :
    (attrs.addClass name).hasClass other = (attrs.hasClass other || other == name) := by
  cases hold : attrs.hasClass name with
  | true =>
    rw [addClass_of_hasClass hold]
    by_cases heq : other = name
    · simp [heq, hold]
    · simp [heq]
  | false =>
    rw [hasClass, classes_addClass hold hname hne, hasClass]
    simp only [List.contains_eq_mem, List.mem_append, List.mem_singleton, Bool.decide_or,
      String.toList_inj, Bool.beq_eq_decide_eq]

theorem hasClass_addClass {name : String} (h : Css.IsOwn name) (attrs : Attrs) (other : String) :
    (attrs.addClass name).hasClass other = (attrs.hasClass other || other == name) :=
  hasClass_addClass_of_word h.no_blank h.ne_nil attrs other

end Attrs

/-! ## Inline styles -/

namespace Attrs

def declarations (attrs : Attrs) : List (List Char) :=
  (attrs.get? "style").elim [] fun style => (style.toList.filter (!Text.isBlank ·)).splitOn ';'

theorem filter_blanks {s : List Char} (h : s.any Text.isBlank = false) :
    s.filter (!Text.isBlank ·) = s :=
  List.filter_eq_self.2 fun c hc => by simpa using List.any_eq_false.1 h c hc

theorem exists_trimEnd (s : List Char) :
    ∃ blanks, s = Text.trimEnd s ++ blanks ∧ ∀ c ∈ blanks, Text.isBlank c = true := by
  refine ⟨(s.reverse.takeWhile Text.isBlank).reverse, ?_, fun c hc => ?_⟩
  · rw [Text.trimEnd, ← List.reverse_append, List.takeWhile_append_dropWhile, List.reverse_reverse]
  · exact List.mem_takeWhile_imp (List.mem_reverse.1 hc)

/-- A further declaration comes to the others. -/
theorem mem_declarations_addStyle (attrs : Attrs) {declaration : String} {word : List Char}
    (hblank : declaration.toList.any Text.isBlank = false) (hsemicolon : ';' ∉ declaration.toList)
    (hword : word ≠ []) :
    word ∈ (attrs.addStyle declaration).declarations ↔
      word ∈ attrs.declarations ∨ word = declaration.toList := by
  have hone : (declaration.toList.filter (!Text.isBlank ·)).splitOn ';' = [declaration.toList] := by
    rw [filter_blanks hblank, List.splitOn_eq_singleton hsemicolon]
  rw [addStyle, declarations, declarations]
  cases hget : attrs.get? "style" with
  | none =>
    simp only [get?_set_self, Option.elim_some, Option.elim_none, hone]
    simp
  | some style =>
    dsimp only
    split
    · rename_i hall
      have hnone : style.toList.filter (!Text.isBlank ·) = [] :=
        List.filter_eq_nil_iff.2 fun c hc => by simp [List.all_eq_true.1 hall c hc]
      simp only [get?_set_self, Option.elim_some, hone, hnone]
      simp [List.splitOn_nil, hword]
    · simp only [get?_set_self, Option.elim_some, String.toList_append, List.filter_append,
        filter_blanks hblank]
      rw [terminated]
      split
      · rename_i hlast
        obtain ⟨front, hfront⟩ := List.getLast?_eq_some_iff.1 hlast
        obtain ⟨blanks, hstyle, hblanks⟩ := exists_trimEnd style.toList
        have hrest : style.toList.filter (!Text.isBlank ·) = front.filter (!Text.isBlank ·) ++ [';'] := by
          have hnone : blanks.filter (!Text.isBlank ·) = [] :=
            List.filter_eq_nil_iff.2 fun c hc => by simp [hblanks c hc]
          have hkept : [';'].filter (!Text.isBlank ·) = [';'] := by decide
          rw [hstyle, hfront, List.filter_append, List.filter_append, hnone, hkept, List.append_nil]
        rw [hrest, List.append_assoc, List.singleton_append, List.splitOn_append_cons_self,
          List.splitOn_append_cons_self, List.splitOn_eq_singleton hsemicolon, List.splitOn_nil,
          List.mem_append, List.mem_append, List.mem_singleton, List.mem_singleton]
        simp [hword]
      · have hkept : ";".toList.filter (!Text.isBlank ·) = [';'] := by decide
        rw [String.toList_append, List.filter_append, hkept, List.append_assoc, List.singleton_append,
          List.splitOn_append_cons_self, List.splitOn_eq_singleton hsemicolon, List.mem_append,
          List.mem_singleton]

theorem classes_addStyle (attrs : Attrs) (declaration : String) :
    (attrs.addStyle declaration).classes = attrs.classes := by
  have hne : "class" ≠ "style" := by decide
  rw [addStyle, classes, classes]
  split
  · split <;> rw [get?_set_of_ne _ _ hne]
  · rw [get?_set_of_ne _ _ hne]

theorem declarations_addClass (attrs : Attrs) (name : String) :
    (attrs.addClass name).declarations = attrs.declarations := by
  have hne : "style" ≠ "class" := by decide
  rw [addClass, declarations, declarations]
  split
  · rfl
  · split
    · split <;> rw [get?_set_of_ne _ _ hne]
    · rw [get?_set_of_ne _ _ hne]

end Attrs

theorem Css.toList_counterReset (key : Nat) :
    (counterReset key).toList = "counter-reset:".toList ++ (styleName key).toList :=
  String.toList_append ..

theorem Css.counterReset_injective {k k' : Nat} (h : counterReset k = counterReset k') : k = k' := by
  have h' := congrArg String.toList h
  rw [toList_counterReset, toList_counterReset] at h'
  exact styleName_injective (String.toList_inj.1 (List.append_cancel_left h'))

theorem Css.no_blank_counterReset (key : Nat) :
    (counterReset key).toList.any Text.isBlank = false := by
  have hname : "counter-reset:".toList.any Text.isBlank = false := by decide
  rw [toList_counterReset, List.any_append, hname, Attrs.no_blank_styleName, Bool.or_false]

theorem Css.no_semicolon_counterReset (key : Nat) : ';' ∉ (counterReset key).toList := by
  rw [toList_counterReset, toList_styleName]
  intro h
  rcases List.mem_append.1 h with h | h
  · exact absurd h (by decide)
  · rcases List.mem_append.1 h with h | h
    · exact absurd h (by decide)
    · exact absurd (Nat.isDigit_of_mem_toDigits (by decide) (by decide) h) (by decide)

/-- Attributes to which labels have given classes and counter resets. -/
inductive Attrs.Dressed (attrs : Attrs) : Attrs → Prop where
  | refl : Dressed attrs attrs
  | addClass {attrs' : Attrs} {name : String} (h : Dressed attrs attrs') (hname : Css.IsLabelClass name) :
      Dressed attrs (attrs'.addClass name)
  | addStyle {attrs' : Attrs} (h : Dressed attrs attrs') (key : Nat) :
      Dressed attrs (attrs'.addStyle (Css.counterReset key))

theorem Attrs.Dressed.foldl_addClass {attrs attrs' : Attrs} {names : List String} (h : Dressed attrs attrs')
    (hnames : ∀ name ∈ names, Css.IsLabelClass name) :
    Dressed attrs (names.foldl Attrs.addClass attrs') := by
  induction names generalizing attrs' with
  | nil => exact h
  | cons name rest ih =>
    exact ih (h.addClass (hnames name (List.mem_cons_self ..)))
      fun name' hname' => hnames name' (List.mem_cons_of_mem _ hname')

end Rubric
