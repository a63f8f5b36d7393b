import Rubric.Css.Stylesheet
import Rubric.Proofs.Css.Content
import Rubric.Proofs.Css.Selectors
import Rubric.Proofs.Template.Tokens

/-!
# Style elements

The text of a style element is raw: nothing in it is escaped, and the first end tag ends it, whatever the
case of its letters.

* `Css.rawText?` : what a style element holds; `Css.closes` : an end tag is somewhere in a text;
* `closes_append` : no end tag goes across a character that is none of its own; `closes_escape` : none is
  hidden in a string;
* `rawText?_lines` : lines in front of an end tag are held as a whole just if none of them has one;
* `Rule.closes_toText`, `Stylesheet.rawText?_toText` : nothing but the literal texts of a stylesheet can end
  its element.
-/

namespace Rubric

namespace Css

/-! ## End tags -/

def styleEnd : List Char := ['<', '/', 's', 't', 'y', 'l', 'e']

/-- A text begins with a word in small letters, whatever the case of its own. -/
def begins : List Char → List Char → Bool
  | [], _ => true
  | _ :: _, [] => false
  | x :: word, c :: s => c.toLower == x && begins word s

def closes : List Char → Bool
  | [] => false
  | c :: s => begins styleEnd (c :: s) || closes s

/-- What a style element holds if a text stands behind its start tag: all in front of the first end tag. -/
def rawText? : List Char → Option (List Char)
  | [] => none
  | c :: s => if begins styleEnd (c :: s) then some [] else (rawText? s).map (c :: ·)

variable {x : Char} {s t word : List Char}

theorem begins_append (hx : x.toLower ∉ word) (s t : List Char) :
    begins word (s ++ x :: t) = begins word s := by
  induction word generalizing s with
  | nil => rfl
  | cons y word ih =>
    rw [List.mem_cons, not_or] at hx
    cases s with
    | nil =>
      show (x.toLower == y && begins word t) = false
      rw [beq_false_of_ne hx.1, Bool.false_and]
    | cons c s => rw [List.cons_append, begins, begins, ih hx.2]

theorem closes_append (hx : x.toLower ∉ styleEnd) (s t : List Char) :
    closes (s ++ x :: t) = (closes s || closes t) := by
  induction s with
  | nil =>
    have hbegins : begins styleEnd (x :: t) = false := begins_append hx [] t
    show (begins styleEnd (x :: t) || closes t) = closes t
    rw [hbegins, Bool.false_or]
  | cons c s ih =>
    rw [List.cons_append, closes, closes, ih, ← List.cons_append, begins_append hx, Bool.or_assoc]

theorem toLower_eq_lt {c : Char} (h : c.toLower = '<') : c = '<' := by
  have hlt : '<'.toNat = 60 := rfl
  rcases Template.toLower_cases c with ⟨hsame, -⟩ | ⟨hrange, hshift⟩
  · exact hsame.symm.trans h
  · rw [h] at hshift
    omega

theorem closes_of_not_mem (h : '<' ∉ s) : closes s = false := by
  induction s with
  | nil => rfl
  | cons c s ih =>
    rw [List.mem_cons, not_or] at h
    have hc : c.toLower ≠ '<' := fun heq => h.1 (toLower_eq_lt heq).symm
    rw [closes, ih h.2, Bool.or_false, styleEnd, begins, beq_false_of_ne hc, Bool.false_and]

/-! ## Strings -/

/-- The characters that are escaped in strings are none of an end tag. -/
theorem toLower_of_escaped {c : Char} (h : c = '\x5c' ∨ c = '\x22') : c.toLower ∉ styleEnd := by
  rcases h with rfl | rfl <;> decide

theorem begins_escape (hword : word ⊆ styleEnd) (s : List Char) :
    begins word (s.flatMap escapeChar) = begins word s := by
  induction word generalizing s with
  | nil => rfl
  | cons y word ih =>
    have hsub : word ⊆ styleEnd := fun z hz => hword (List.mem_cons_of_mem y hz)
    cases s with
    | nil => rfl
    | cons c s =>
      rw [List.flatMap_cons]
      rcases escapeChar_cases c with ⟨hc, heq⟩ | ⟨-, heq⟩
      · have hy : ∀ {d : Char}, d = '\x5c' ∨ d = '\x22' → (d.toLower == y) = false := fun hd =>
          beq_false_of_ne fun h => toLower_of_escaped hd (h ▸ hword List.mem_cons_self)
        rw [heq, List.cons_append, begins, begins, hy hc, hy (Or.inl rfl), Bool.false_and, Bool.false_and]
      · rw [heq, List.singleton_append, begins, begins, ih hsub]

/-- An end tag is in a string just if it is in its text. -/
theorem closes_escape (s : List Char) : closes (s.flatMap escapeChar) = closes s := by
  induction s with
  | nil => rfl
  | cons c s ih =>
    have hbegins := begins_escape (List.Subset.refl styleEnd) (c :: s)
    rw [List.flatMap_cons] at hbegins ⊢
    rcases escapeChar_cases c with ⟨hc, heq⟩ | ⟨-, heq⟩
    · have hfirst := closes_append (toLower_of_escaped (Or.inl rfl)) [] (c :: s.flatMap escapeChar)
      have hsecond := closes_append (toLower_of_escaped hc) [] (s.flatMap escapeChar)
      have hplain := closes_append (toLower_of_escaped hc) [] s
      rw [List.nil_append] at hfirst hsecond hplain
      rw [heq, List.cons_append, List.singleton_append, hfirst, hsecond, hplain, ih]
      rfl
    · rw [heq, List.singleton_append] at hbegins ⊢
      rw [closes, closes, hbegins, ih]

theorem closes_quote (s : String) : closes (quote s).toList = closes s.toList := by
  cases hs : s.isEmpty with
  | true =>
    rw [String.isEmpty_iff.1 hs]
    rfl
  | false =>
    have hquote : ('\x22' : Char).toLower ∉ styleEnd := by decide
    have hopen := closes_append hquote [] (s.toList.flatMap escapeChar ++ ['\x22'])
    rw [List.nil_append] at hopen
    rw [toList_quote hs, hopen, closes_append hquote, closes_escape]
    exact (Bool.false_or _).trans (Bool.or_false _)

/-! ## What an element holds -/

theorem rawText?_append (hx : x.toLower ∉ styleEnd) (h : closes s = false) (t : List Char) :
    rawText? (s ++ x :: t) = (rawText? t).map (s ++ x :: ·) := by
  induction s with
  | nil =>
    have hbegins : begins styleEnd (x :: t) = false := begins_append hx [] t
    rw [List.nil_append, rawText?, hbegins]
    rfl
  | cons c s ih =>
    obtain ⟨hc, hs⟩ := Bool.or_eq_false_iff.1 h
    rw [List.cons_append, rawText?, ← List.cons_append, begins_append hx, hc, ih hs]
    cases rawText? t <;> rfl

theorem rawText?_of_closes (hx : x.toLower ∉ styleEnd) (h : closes s = true) (t : List Char) :
    ∃ held, rawText? (s ++ x :: t) = some held ∧ held.length < s.length := by
  induction s with
  | nil => cases h
  | cons c s ih =>
    rw [List.cons_append, rawText?, ← List.cons_append, begins_append hx]
    cases hc : begins styleEnd (c :: s) with
    | true => exact ⟨[], rfl, Nat.succ_pos _⟩
    | false =>
      rw [closes, hc, Bool.false_or] at h
      obtain ⟨held, hheld, hlt⟩ := ih h
      rw [hheld]
      exact ⟨c :: held, rfl, Nat.succ_lt_succ hlt⟩

theorem rawText?_of_not_mem (h : '<' ∉ s) {rest : List Char} (hrest : begins styleEnd rest = true) :
    rawText? (s ++ rest) = some s := by
  induction s with
  | nil =>
    cases rest with
    | nil => cases hrest
    | cons c rest => exact if_pos hrest
  | cons c s ih =>
    rw [List.mem_cons, not_or] at h
    have hc : c.toLower ≠ '<' := fun heq => h.1 (toLower_eq_lt heq).symm
    rw [List.cons_append, rawText?, styleEnd, begins, beq_false_of_ne hc, Bool.false_and, ih h.2]
    rfl

/-- Lines in front of an end tag are held as a whole just if none of them has one. -/
theorem rawText?_lines (lines : List (List Char)) {rest : List Char} (hrest : begins styleEnd rest = true) :
    rawText? (lines.flatMap (· ++ ['\n']) ++ rest) = some (lines.flatMap (· ++ ['\n'])) ↔
      ∀ line ∈ lines, closes line = false := by
  have hbreak : ('\n' : Char).toLower ∉ styleEnd := by decide
  induction lines with
  | nil =>
    cases rest with
    | nil => cases hrest
    | cons c rest =>
      rw [List.flatMap_nil, List.nil_append, rawText?, if_pos hrest]
      simp
  | cons line lines ih =>
    rw [List.flatMap_cons, List.append_assoc, List.append_assoc, List.singleton_append, List.forall_mem_cons]
    cases hline : closes line with
    | false =>
      rw [rawText?_append hbreak hline]
      cases hraw : rawText? (lines.flatMap (· ++ ['\n']) ++ rest) <;> rw [hraw] at ih <;> simpa using ih
    | true =>
      obtain ⟨held, hheld, hlt⟩ := rawText?_of_closes hbreak hline (lines.flatMap (· ++ ['\n']) ++ rest)
      rw [hheld]
      refine ⟨fun heq => ?_, fun h => by cases h.1⟩
      rw [Option.some_inj.1 heq, List.append_assoc, List.length_append] at hlt
      exact absurd hlt (Nat.not_lt.2 (Nat.le_add_right _ _))

end Css

/-! ## Rules -/

def ContentPart.literal? : ContentPart → Option String
  | text s => some s
  | counter .. => none

/-- No counter has a style with a bracket in its name. -/
def Content.Named (x : Content) : Prop := ∀ key style, .counter key style ∈ x → '<' ∉ style.toList

def Content.literals (x : Content) : List String := x.filterMap ContentPart.literal?

namespace Content
open Css

theorem closes_part {p : ContentPart} (h : ∀ key style, p = .counter key style → '<' ∉ style.toList) :
    closes p.toText.toList = p.literal?.any (closes ·.toList) := by
  cases p with
  | text s => exact closes_quote s
  | counter key style =>
    refine closes_of_not_mem ?_
    simp only [ContentPart.toText, String.toList_append]
    exact List.not_mem_append (List.not_mem_append (List.not_mem_append (List.not_mem_append (by decide)
      (not_mem_styleName (by decide) (by decide) key)) (by decide)) (h key style rfl)) (by decide)

/-- An end tag is in a value just if it is in one of its texts. -/
theorem closes_toText {x : Content} (h : x.Named) :
    closes x.toText.toList = x.literals.any (closes ·.toList) := by
  have hblank : (' ' : Char).toLower ∉ styleEnd := by decide
  induction x with
  | nil => rfl
  | cons p rest ih =>
    have hp := closes_part (p := p) fun key style heq => h key style (heq ▸ List.mem_cons_self)
    have hrest := ih fun key style hmem => h key style (List.mem_cons_of_mem p hmem)
    have hliterals : literals (p :: rest) = p.literal?.toList ++ literals rest := by
      cases p <;> rfl
    rw [hliterals, List.any_append, ← hrest]
    have hfirst : closes p.toText.toList = p.literal?.toList.any (closes ·.toList) := by
      rw [hp]
      cases p.literal? <;> simp
    by_cases hne : rest = []
    · subst hne
      rw [← hfirst, toText, List.map_singleton, String.intercalate_singleton]
      exact (Bool.or_false _).symm
    · have hlist := toList_toText_append [p] hne
      rw [spaced, List.flatMap_singleton, List.append_assoc, List.singleton_append, List.singleton_append] at hlist
      rw [hlist, closes_append hblank, hfirst]

end Content

namespace Rule
open Css

/-- A rule that a walk may add, with named styles alone. -/
def Named : Rule → Prop
  | content _ _ value => value.Named
  | verbatim _ => False
  | _ => True

def literals : Rule → List String
  | content _ _ value => value.literals
  | _ => []

theorem not_mem_block {selector declaration : String} (hselector : '<' ∉ selector.toList)
    (hdeclaration : '<' ∉ declaration.toList) : '<' ∉ (block selector declaration).toList := by
  rw [toList_block]
  simpa using ⟨hselector, hdeclaration⟩

/-- An end tag is in a rule just if it is in one of its literal texts. -/
theorem closes_toText {r : Rule} (h : r.Named) : closes r.toText.toList = r.literals.any (closes ·.toList) := by
  have hname : ∀ key, '<' ∉ (styleName key).toList := not_mem_styleName (by decide) (by decide)
  have hitems : ∀ container item, '<' ∉ (items container item).toList :=
    not_mem_items (by decide) (by decide)
  have hjoin : ∀ {s t : String}, '<' ∉ s.toList → '<' ∉ t.toList → '<' ∉ (s ++ t).toList := fun hs ht => by
    rw [String.toList_append]
    exact List.not_mem_append hs ht
  cases r with
  | hideMarkers => exact closes_of_not_mem (not_mem_block (by decide) (by decide))
  | reset key =>
    exact closes_of_not_mem (not_mem_block (hjoin (by decide) (hname key)) (hjoin (by decide) (hname key)))
  | increment container item =>
    exact closes_of_not_mem (not_mem_block (hitems container item) (hjoin (by decide) (hname _)))
  | content container item value =>
    have hopen : ('\x7b' : Char).toLower ∉ styleEnd := by decide
    have hcolon : (':' : Char).toLower ∉ styleEnd := by decide
    have hend : (';' : Char).toLower ∉ styleEnd := by decide
    have hselector := closes_of_not_mem (hjoin (hitems container item) (by decide : '<' ∉ "::before".toList))
    have hproperty : ("content:" ++ value.toText).toList = "content".toList ++ ':' :: value.toText.toList := by
      rw [String.toList_append]
      rfl
    rw [toText, toList_block, closes_append hopen, closes_append hend, hproperty, closes_append hcolon,
      hselector, Content.closes_toText h, Bool.false_or]
    exact Bool.or_false _
  | verbatim => cases h

end Rule

namespace Stylesheet
open Css

def literals (s : Stylesheet) : List String := s.rules.flatMap Rule.literals

/-- The element of a stylesheet holds all of it just if no literal text has an end tag. -/
theorem rawText?_toText {s : Stylesheet} (h : ∀ r ∈ s.rules, r.Named) {rest : List Char}
    (hrest : begins styleEnd rest = true) :
    rawText? ('\n' :: s.toText.toList ++ rest) = some ('\n' :: s.toText.toList) ↔
      ∀ t ∈ s.literals, closes t.toList = false := by
  have hlines : '\n' :: s.toText.toList =
      ([] :: s.rules.map (·.toText.toList)).flatMap (· ++ ['\n']) := by
    rw [toText, String.toList_join, List.flatMap_map, List.flatMap_cons, List.flatMap_map]
    simp only [String.toList_append]
    rfl
  have hclosed : (∀ r ∈ s.rules, closes r.toText.toList = false) ↔
      ∀ t ∈ s.literals, closes t.toList = false := by
    simp only [literals, List.forall_mem_flatMap]
    refine forall₂_congr fun r hr => ?_
    rw [Rule.closes_toText (h r hr), List.any_eq_false]
    simp
  rw [hlines, rawText?_lines _ hrest, List.forall_mem_cons, List.forall_mem_map, hclosed]
  exact and_iff_right rfl

end Stylesheet
end Rubric
