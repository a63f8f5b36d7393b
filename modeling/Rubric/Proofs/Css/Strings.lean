import Rubric.Proofs.Css.RawText

/-!
# Reading a stylesheet back

A rule is read by the syntax of stylesheets alone: a string ends at its first bare quote, a backslash makes
the next character literal, and a line break within a string is an error.

* `Css.readString?` : the text of a string, and what stands behind it. `readString?_quote` : that of a quoted
  text is the text itself, just if it has no line break;
* `Css.readValue?` : the strings and words of a value; `Css.readRule?` : a rule with one declaration;
* `Rule.meaning` : what a rule is meant to say; `Rule.Plain` : the names in it are plain;
* `Rule.breaks_toText` : a rule is on one line just if none of its literal texts has a line break;
  `Rule.readRule?_toText` : it is read as it is meant just then.
-/

namespace Rubric

namespace Css

/-! ## Strings -/

def isBreak (c : Char) : Bool := c == '\n' || c == '\x0d' || c == '\x0c'

def breaks (s : List Char) : Bool := s.any isBreak

/-- The text of a string behind its opening quote, and what stands behind the closing one. The next character
may be literal. -/
def closeString? (literal : Bool) : List Char → Option (List Char × List Char)
  | [] => none
  | c :: rest =>
    if literal then (closeString? false rest).map fun r => (c :: r.1, r.2)
    else if c = '\x22' then some ([], rest)
    else if isBreak c then none
    else if c = '\x5c' then closeString? true rest
    else (closeString? false rest).map fun r => (c :: r.1, r.2)

/-- The text of a string, and what stands behind it. -/
def readString? : List Char → Option (List Char × List Char)
  | [] => none
  | c :: rest => if c = '\x22' then closeString? false rest else none

theorem closeString?_escape (s rest : List Char) :
    closeString? false (s.flatMap escapeChar ++ '\x22' :: rest) =
      if breaks s then none else some (s, rest) := by
  induction s with
  | nil => rfl
  | cons c s ih =>
    rw [List.flatMap_cons, List.append_assoc, breaks, List.any_cons]
    rcases escapeChar_cases c with ⟨hc, heq⟩ | ⟨⟨hbackslash, hquote⟩, heq⟩
    · -- the character stands behind a backslash
      have hread : closeString? false ('\x5c' :: c :: (s.flatMap escapeChar ++ '\x22' :: rest)) =
          (closeString? false (s.flatMap escapeChar ++ '\x22' :: rest)).map fun r => (c :: r.1, r.2) := rfl
      have hbreak : isBreak c = false := by rcases hc with rfl | rfl <;> decide
      rw [heq, hbreak, Bool.false_or, ← breaks, List.cons_append, List.singleton_append, hread, ih]
      split <;> rfl
    · -- the character stands for itself, unless it ends the line
      rw [heq, List.singleton_append, closeString?, if_neg Bool.false_ne_true, if_neg hquote]
      cases hbreak : isBreak c with
      | true => rfl
      | false =>
        rw [if_neg Bool.false_ne_true, if_neg hbackslash, ih, Bool.false_or, ← breaks]
        split <;> rfl

/-- A text that is not empty is read back from its string, whatever stands behind, if it has no line break.
If it has one, then the string is not closed. -/
theorem readString?_quote {s : String} (hs : s.isEmpty = false) (rest : List Char) :
    readString? ((quote s).toList ++ rest) = if breaks s.toList then none else some (s.toList, rest) := by
  rw [toList_quote hs, List.cons_append, List.append_assoc]
  exact closeString?_escape s.toList rest

theorem length_closeString? {literal : Bool} {s t rest : List Char}
    (h : closeString? literal s = some (t, rest)) : rest.length < s.length := by
  induction s generalizing literal t with
  | nil => cases h
  | cons c s ih =>
    have hpush : ∀ {u : List Char}, (closeString? false s).map (fun r => (c :: r.1, r.2)) = some (u, rest) →
        rest.length < (c :: s).length := fun h => by
      obtain ⟨r, hr, heq⟩ := Option.map_eq_some_iff.1 h
      cases heq
      exact Nat.lt_succ_of_lt (ih hr)
    rw [closeString?] at h
    split at h
    · exact hpush h
    · split at h
      · cases h
        exact Nat.lt_succ_self _
      · split at h
        · cases h
        · split at h
          · exact Nat.lt_succ_of_lt (ih h)
          · exact hpush h

/-! ## Values -/

/-- A part of a value. -/
inductive Token where
  | string (s : List Char)
  | word (s : List Char)
deriving DecidableEq

def isWordChar (c : Char) : Bool := c != ' ' && c != ';' && c != '\x22'

/-- The strings and words of a value up to the semicolon that ends it, and what stands behind. -/
def readValue? (s : List Char) : Option (List Token × List Char) :=
  match s with
  | [] => none
  | c :: rest =>
    if c = ';' then some ([], rest)
    else if c = ' ' then readValue? rest
    else if c = '\x22' then
      match _ : closeString? false rest with
      | none => none
      | some (t, behind) => (readValue? behind).map fun r => (.string t :: r.1, r.2)
    else
      (readValue? (rest.dropWhile isWordChar)).map fun r => (.word (c :: rest.takeWhile isWordChar) :: r.1, r.2)
termination_by s.length
decreasing_by
  · exact Nat.lt_succ_self _
  · rename_i h
    exact Nat.lt_succ_of_lt (length_closeString? h)
  · exact Nat.lt_succ_of_le (List.dropWhile_suffix _).length_le

section Value
variable {s t w rest : List Char}

theorem readValue?_end (rest : List Char) : readValue? (';' :: rest) = some ([], rest) := by
  rw [readValue?, if_pos rfl]

theorem readValue?_blank (rest : List Char) : readValue? (' ' :: rest) = readValue? rest := by
  rw [readValue?, if_neg (by decide), if_pos rfl]

theorem readValue?_string (s : List Char) :
    readValue? ('\x22' :: s) =
      (closeString? false s).bind fun r => (readValue? r.2).map fun r' => (.string r.1 :: r'.1, r'.2) := by
  rw [readValue?, if_neg (by decide), if_neg (by decide), if_pos rfl]
  split <;> rename_i h <;> rw [h] <;> rfl

theorem readValue?_word (hne : w ≠ []) (hw : ∀ c ∈ w, isWordChar c = true)
    (hrest : ∀ c ∈ rest.head?, isWordChar c = false) :
    readValue? (w ++ rest) = (readValue? rest).map fun r => (.word w :: r.1, r.2) := by
  cases w with
  | nil => exact absurd rfl hne
  | cons c w =>
    obtain ⟨hc, hw⟩ := List.forall_mem_cons.1 hw
    obtain ⟨⟨hblank, hend⟩, hquote⟩ : (c ≠ ' ' ∧ c ≠ ';') ∧ c ≠ '\x22' := by simpa [isWordChar] using hc
    rw [List.cons_append, readValue?, if_neg hend, if_neg hblank, if_neg hquote, takeWhile_append hw hrest,
      dropWhile_append hw hrest]

end Value

/-! ## Rules -/

/-- A selector with one declaration. -/
structure Block where
  selector : List Char
  property : List Char
  value : List Token
deriving DecidableEq

/-- A rule: its selector up to the brace, its property up to the colon, and its value. Nothing stands behind
the brace that closes it. -/
def readRule? (s : List Char) : Option Block :=
  let body := (s.dropWhile (· != '\x7b')).tail
  match readValue? (body.dropWhile (· != ':')).tail with
  | some (value, ['\x7d']) => some ⟨s.takeWhile (· != '\x7b'), body.takeWhile (· != ':'), value⟩
  | _ => none

theorem readRule?_block {selector value : String} (property : String) (hselector : '\x7b' ∉ selector.toList)
    (hproperty : ':' ∉ property.toList) {read : Option (List Token)}
    (hvalue : readValue? (value.toList ++ [';', '\x7d']) = read.map (·, ['\x7d'])) :
    readRule? (Rule.block selector (property ++ ":" ++ value)).toList =
      read.map fun tokens => ⟨selector.toList, property.toList, tokens⟩ := by
  have hbody : (property ++ ":" ++ value).toList ++ [';', '\x7d'] =
      property.toList ++ ':' :: (value.toList ++ [';', '\x7d']) := by simp
  rw [readRule?, Rule.toList_block, dropWhile_ne_append hselector, takeWhile_ne_append hselector, hbody]
  dsimp only [List.tail_cons]
  rw [dropWhile_ne_append hproperty, takeWhile_ne_append hproperty, List.tail_cons, hvalue]
  cases read <;> rfl

end Css

/-! ## What rules are meant to say -/

def ContentPart.token : ContentPart → Css.Token
  | text s => .string s.toList
  | counter key style => .word (ContentPart.counter key style).toText.toList

/-- What a rule that is made of keys is meant to say. -/
def Rule.meaning : Rule → Css.Block
  | hideMarkers => ⟨".la-labelled>li".toList, "list-style-type".toList, [.word "none".toList]⟩
  | reset key =>
    ⟨("." ++ Css.styleName key).toList, "counter-reset".toList, [.word (Css.styleName key).toList]⟩
  | increment container item =>
    ⟨(Css.items container item).toList, "counter-increment".toList,
      [.word (Css.styleName (item.getD container)).toList]⟩
  | content container item value =>
    ⟨(Css.items container item ++ "::before").toList, "content".toList, value.map ContentPart.token⟩
  | verbatim _ => ⟨[], [], []⟩

def Css.isNameChar (c : Char) : Bool := c.isAlphanum || c == '-'

/-- The text of a part is not empty, and the name of its style is a name. -/
def ContentPart.Plain : ContentPart → Prop
  | text s => s.isEmpty = false
  | counter _ style => style.toList.all Css.isNameChar = true

instance : DecidablePred ContentPart.Plain
  | .text s => inferInstanceAs (Decidable (s.isEmpty = false))
  | .counter _ style => inferInstanceAs (Decidable (style.toList.all Css.isNameChar = true))

/-- A rule that a walk may add, with plain parts. -/
def Rule.Plain : Rule → Prop
  | content _ _ value => ∀ p ∈ value, p.Plain
  | verbatim _ => False
  | _ => True

instance : DecidablePred Rule.Plain
  | .content _ _ value => inferInstanceAs (Decidable (∀ p ∈ value, p.Plain))
  | .verbatim _ => inferInstanceAs (Decidable False)
  | .hideMarkers | .reset _ | .increment .. => inferInstanceAs (Decidable True)

/-! ## Names -/

namespace Css

theorem ne_of_isNameChar {x c : Char} (hc : isNameChar c = true) (hx : isNameChar x = false) : c ≠ x := by
  rintro rfl
  rw [hx] at hc
  cases hc

theorem isWordChar_of_isNameChar {c : Char} (h : isNameChar c = true) : isWordChar c = true := by
  simp [isWordChar, ne_of_isNameChar (x := ' ') h (by decide), ne_of_isNameChar (x := ';') h (by decide),
    ne_of_isNameChar (x := '\x22') h (by decide)]

theorem isBreak_of_isNameChar {c : Char} (h : isNameChar c = true) : isBreak c = false := by
  simp [isBreak, ne_of_isNameChar (x := '\n') h (by decide), ne_of_isNameChar (x := '\x0d') h (by decide),
    ne_of_isNameChar (x := '\x0c') h (by decide)]

theorem isNameChar_styleName (key : Nat) : (styleName key).toList.all isNameChar = true := by
  rw [toList_styleName, List.all_append, Bool.and_eq_true]
  refine ⟨by decide, List.all_eq_true.2 fun c hc => ?_⟩
  have hdigit := Nat.isDigit_of_mem_toDigits (by decide) (by decide) hc
  simp [isNameChar, Char.isAlphanum, hdigit]

theorem isWordChar_of_names {s : List Char} (h : s.all isNameChar = true) : ∀ c ∈ s, isWordChar c = true :=
  fun c hc => isWordChar_of_isNameChar (List.all_eq_true.1 h c hc)

theorem breaks_append (s t : List Char) : breaks (s ++ t) = (breaks s || breaks t) := List.any_append

theorem breaks_of_names {s : List Char} (h : s.all isNameChar = true) : breaks s = false :=
  List.any_eq_false.2 fun c hc => by simp [isBreak_of_isNameChar (List.all_eq_true.1 h c hc)]

theorem breaks_styleName (key : Nat) : breaks (styleName key).toList = false :=
  breaks_of_names (isNameChar_styleName key)

theorem breaks_items (container : Nat) (item : Option Nat) : breaks (items container item).toList = false := by
  refine List.any_eq_false.2 fun c hc => ?_
  have hne : ∀ {x : Char}, ¬x.isDigit → x ∉ ".la-label>li:not(.la-no-label)".toList → c ≠ x := by
    rintro x hdigit hx rfl
    exact not_mem_items hdigit hx container item hc
  simp [isBreak, hne (x := '\n') (by decide) (by decide), hne (x := '\x0d') (by decide) (by decide),
    hne (x := '\x0c') (by decide) (by decide)]

theorem breaks_quote (s : String) : breaks (quote s).toList = breaks s.toList := by
  have hescape : ∀ s : List Char, breaks (s.flatMap escapeChar) = breaks s := fun s => by
    induction s with
    | nil => rfl
    | cons c s ih =>
      rw [List.flatMap_cons, breaks_append, ih]
      rcases escapeChar_cases c with ⟨hc, heq⟩ | ⟨-, heq⟩
      · rw [heq]
        rcases hc with rfl | rfl <;> rfl
      · rw [heq, breaks, breaks, breaks, List.any_cons, List.any_cons, List.any_nil, Bool.or_false]
  cases hs : s.isEmpty with
  | true =>
    rw [String.isEmpty_iff.1 hs]
    rfl
  | false =>
    have hclose : breaks ['\x22'] = false := by decide
    rw [toList_quote hs]
    show (isBreak '\x22' || breaks (s.toList.flatMap escapeChar ++ ['\x22'])) = breaks s.toList
    rw [breaks_append, hescape, hclose, Bool.or_false]
    rfl

end Css

/-! ## Values and rules -/

namespace ContentPart
open Css
variable {p : ContentPart}

theorem isWordChar_counter {key : Nat} {style : String} (h : (counter key style).Plain) :
    ∀ c ∈ (counter key style).toText.toList, isWordChar c = true := by
  simp only [toText, String.toList_append, List.forall_mem_append]
  exact ⟨⟨⟨⟨List.all_eq_true.1 (by decide), isWordChar_of_names (isNameChar_styleName key)⟩,
    List.all_eq_true.1 (by decide)⟩, isWordChar_of_names h⟩, List.all_eq_true.1 (by decide)⟩

theorem readValue?_toText (h : p.Plain) {behind : List Char}
    (hbehind : ∀ c ∈ behind.head?, isWordChar c = false) :
    readValue? (p.toText.toList ++ behind) =
      if p.literal?.any (breaks ·.toList) then none
      else (readValue? behind).map fun r => (p.token :: r.1, r.2) := by
  cases p with
  | text s =>
    have hquote : (quote s).toList ++ behind = '\x22' :: (s.toList.flatMap escapeChar ++ '\x22' :: behind) := by
      rw [toList_quote h, List.cons_append, List.append_assoc]
      rfl
    rw [toText, hquote, readValue?_string, closeString?_escape]
    show _ = if breaks s.toList then none else _
    split <;> rfl
  | counter key style =>
    have hne : (counter key style).toText.toList ≠ [] := by
      simp [toText]
    exact readValue?_word hne (isWordChar_counter h) hbehind

theorem breaks_toText (h : p.Plain) : breaks p.toText.toList = p.literal?.any (breaks ·.toList) := by
  cases p with
  | text s => exact breaks_quote s
  | counter key style =>
    simp only [toText, String.toList_append, breaks_append, breaks_styleName, breaks_of_names h]
    rfl

end ContentPart

namespace Content
open Css
variable {x : Content}

theorem literals_cons (p : ContentPart) (x : Content) : literals (p :: x) = p.literal?.toList ++ literals x := by
  cases p <;> rfl

theorem any_literals_cons (p : ContentPart) (x : Content) (q : String → Bool) :
    (literals (p :: x)).any q = (p.literal?.any q || (literals x).any q) := by
  rw [literals_cons, List.any_append]
  cases p.literal? <;> simp

/-- A value is read back, part by part, just if no text in it has a line break. -/
theorem readValue?_toText (h : ∀ p ∈ x, p.Plain) (rest : List Char) :
    readValue? (x.toText.toList ++ ';' :: rest) =
      if x.literals.any (breaks ·.toList) then none else some (x.map ContentPart.token, rest) := by
  induction x with
  | nil => exact readValue?_end rest
  | cons p tail ih =>
    obtain ⟨hp, htail⟩ := List.forall_mem_cons.1 h
    rw [any_literals_cons]
    by_cases hne : tail = []
    · subst hne
      have hlist : toText [p] = p.toText := by rw [toText, List.map_singleton, String.intercalate_singleton]
      have hend : ∀ c ∈ (';' :: rest).head?, isWordChar c = false := fun c hc => by cases hc; decide
      rw [hlist, ContentPart.readValue?_toText hp hend, readValue?_end]
      cases p.literal?.any (breaks ·.toList) <;> rfl
    · have hlist := toList_toText_append [p] hne
      rw [spaced, List.flatMap_singleton, List.singleton_append] at hlist
      have hblank : ∀ c ∈ (' ' :: ((toText tail).toList ++ ';' :: rest)).head?, isWordChar c = false :=
        fun c hc => by cases hc; decide
      rw [hlist, List.append_assoc, List.append_assoc, List.singleton_append,
        ContentPart.readValue?_toText hp hblank, readValue?_blank, ih htail]
      cases p.literal?.any (breaks ·.toList) with
      | true => rfl
      | false => cases (literals tail).any (breaks ·.toList) <;> rfl

theorem breaks_toText (h : ∀ p ∈ x, p.Plain) : breaks x.toText.toList = x.literals.any (breaks ·.toList) := by
  induction x with
  | nil => rfl
  | cons p tail ih =>
    obtain ⟨hp, htail⟩ := List.forall_mem_cons.1 h
    rw [any_literals_cons, ← ih htail, ← ContentPart.breaks_toText hp]
    by_cases hne : tail = []
    · subst hne
      rw [toText, List.map_singleton, String.intercalate_singleton]
      exact (Bool.or_false _).symm
    · have hlist := toList_toText_append [p] hne
      rw [spaced, List.flatMap_singleton, List.singleton_append] at hlist
      rw [hlist, breaks_append, breaks_append]
      exact congrArg (· || _) (Bool.or_false _)

end Content

namespace Rule
open Css
variable {r : Rule}

theorem breaks_block (selector declaration : String) :
    breaks (block selector declaration).toList = (breaks selector.toList || breaks declaration.toList) := by
  have hend : breaks [';', '\x7d'] = false := by decide
  rw [toList_block, breaks_append]
  show (_ || (isBreak '\x7b' || breaks (declaration.toList ++ [';', '\x7d']))) = _
  rw [breaks_append, hend, Bool.or_false]
  rfl

/-- A rule is on one line just if none of its literal texts has a line break. -/
theorem breaks_toText (h : r.Plain) : breaks r.toText.toList = r.literals.any (breaks ·.toList) := by
  cases r with
  | hideMarkers => decide +kernel
  | reset key =>
    rw [toText, breaks_block, counterReset, String.toList_append, String.toList_append, breaks_append,
      breaks_append, breaks_styleName]
    rfl
  | increment container item =>
    rw [toText, breaks_block, breaks_items, String.toList_append, breaks_append, breaks_styleName]
    rfl
  | content container item value =>
    rw [toText, breaks_block, String.toList_append, breaks_append, breaks_items, String.toList_append,
      breaks_append, Content.breaks_toText h]
    rfl
  | verbatim => cases h

theorem readValue?_name {name : String} (hne : name.toList ≠ []) (hname : name.toList.all isNameChar = true) :
    readValue? (name.toList ++ [';', '\x7d']) = (some [Token.word name.toList]).map (·, ['\x7d']) := by
  have hend : ∀ c ∈ [';', '\x7d'].head?, isWordChar c = false := fun c hc => by cases hc; decide
  rw [readValue?_word hne (isWordChar_of_names hname) hend, readValue?_end]
  rfl

theorem styleName_ne_nil (key : Nat) : (styleName key).toList ≠ [] := by
  rw [toList_styleName]
  simp

/-- A rule is read as it is meant just if none of its literal texts has a line break. With one it is no rule
at all. -/
theorem readRule?_toText (h : r.Plain) :
    readRule? r.toText.toList = if r.literals.any (breaks ·.toList) then none else some r.meaning := by
  cases r with
  | hideMarkers =>
    have hdeclaration : "list-style-type:none" = "list-style-type" ++ ":" ++ "none" := by decide
    have hvalue := readValue?_name (show "none".toList ≠ [] by decide) (by decide)
    rw [toText, hdeclaration, readRule?_block "list-style-type" (by decide) (by decide) hvalue]
    rfl
  | reset key =>
    exact readRule?_block "counter-reset" (no_brace_styleName key) (by decide)
      (readValue?_name (styleName_ne_nil key) (isNameChar_styleName key))
  | increment container item =>
    have hbrace : '\x7b' ∉ (items container item).toList := not_mem_items (by decide) (by decide) container item
    exact readRule?_block "counter-increment" hbrace (by decide)
      (readValue?_name (styleName_ne_nil _) (isNameChar_styleName _))
  | content container item value =>
    have hvalue : readValue? (value.toText.toList ++ [';', '\x7d']) =
        (if value.literals.any (breaks ·.toList) then none else some (value.map ContentPart.token)).map
          (·, ['\x7d']) := by
      rw [Content.readValue?_toText h]
      split <;> rfl
    refine (readRule?_block "content" (no_brace_items container item "::before" (by decide)) (by decide)
      hvalue).trans ?_
    show _ = if value.literals.any (breaks ·.toList) then _ else _
    split <;> rfl
  | verbatim => cases h

end Rule
end Rubric
