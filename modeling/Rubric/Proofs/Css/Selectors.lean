import Rubric.Css.Stylesheet

/-!
# Selectors and bodies of rules

* `Rule.selector`, `Rule.body` : the text of a rule before its first brace, and from there on;
* `Rule.Drawn` : a rule that a walk may add, not one in a written form of its own;
* `styleName_injective`, `items_injective` : keys are told by their names, and items by their selectors;
* `Rule.same_selector` : two rules with one selector have one body, or say what is drawn before the
  same items.
-/

namespace Rubric

namespace Css

/-! ## Up to a character -/

section UpTo
variable {p : Char → Bool} {x : Char} {s rest : List Char}

theorem takeWhile_append (hs : ∀ c ∈ s, p c = true) (hrest : ∀ c ∈ rest.head?, p c = false) :
    (s ++ rest).takeWhile p = s := by
  rw [List.takeWhile_append_of_pos hs]
  cases rest with
  | nil => exact List.append_nil s
  | cons c rest => rw [List.takeWhile_cons_of_neg (by simp [hrest c rfl]), List.append_nil]

theorem dropWhile_append (hs : ∀ c ∈ s, p c = true) (hrest : ∀ c ∈ rest.head?, p c = false) :
    (s ++ rest).dropWhile p = rest := by
  rw [List.dropWhile_append_of_pos hs]
  cases rest with
  | nil => rfl
  | cons c rest => rw [List.dropWhile_cons_of_neg (by simp [hrest c rfl])]

theorem takeWhile_ne_append (h : x ∉ s) (rest : List Char) : (s ++ x :: rest).takeWhile (· != x) = s :=
  takeWhile_append (fun _ hc => by simpa using ne_of_mem_of_not_mem hc h) fun _ hc => by cases hc; simp

theorem dropWhile_ne_append (h : x ∉ s) (rest : List Char) :
    (s ++ x :: rest).dropWhile (· != x) = x :: rest :=
  dropWhile_append (fun _ hc => by simpa using ne_of_mem_of_not_mem hc h) fun _ hc => by cases hc; simp

end UpTo

/-! ## Names of styles -/

theorem digits_append_inj {n m : Nat} {xs ys : List Char} (hx : ∀ c ∈ xs.head?, ¬c.isDigit)
    (hy : ∀ c ∈ ys.head?, ¬c.isDigit)
    (h : Nat.toDigits 10 n ++ xs = Nat.toDigits 10 m ++ ys) : n = m ∧ xs = ys := by
  have htake : ∀ (k : Nat) (zs : List Char), (∀ c ∈ zs.head?, ¬c.isDigit) →
      (Nat.toDigits 10 k ++ zs).takeWhile Char.isDigit = Nat.toDigits 10 k := by
    intro k zs hz
    have hdigits : ∀ c ∈ Nat.toDigits 10 k, c.isDigit = true := fun c hc =>
      Nat.isDigit_of_mem_toDigits (by decide) (by decide) hc
    exact takeWhile_append hdigits fun c hc => Bool.eq_false_iff.2 (hz c hc)
  have hdigits : Nat.toDigits 10 n = Nat.toDigits 10 m := by
    rw [← htake n xs hx, h, htake m ys hy]
  refine ⟨?_, List.append_cancel_left (hdigits ▸ h)⟩
  have hread := congrArg (fun digits => Nat.ofDigitChars 10 digits 0) hdigits
  simpa using hread

theorem toList_styleName (key : Nat) :
    (styleName key).toList = "la-label".toList ++ Nat.toDigits 10 key := by
  rw [styleName, String.toList_append, Nat.toString_eq_repr, Nat.toList_repr]

theorem styleName_injective {k k' : Nat} (h : styleName k = styleName k') : k = k' := by
  have hlist := congrArg String.toList h
  rw [toList_styleName, toList_styleName] at hlist
  have hdigits := List.append_cancel_left hlist
  rw [← List.append_nil (Nat.toDigits 10 k), ← List.append_nil (Nat.toDigits 10 k')] at hdigits
  exact (digits_append_inj (by simp) (by simp) hdigits).1

/-- The selector of items behind the class of their list. -/
def itemTail (item : Option Nat) : List Char :=
  ">li".toList ++ item.elim [] (fun k => ".la-label".toList ++ Nat.toDigits 10 k) ++
    ":not(.la-no-label)".toList

theorem itemTail_eq (item : Option Nat) :
    itemTail item =
      ">li".toList ++ item.elim [] (fun k => ".la-label".toList ++ Nat.toDigits 10 k) ++
        ":not(.la-no-label)".toList := rfl

theorem toList_items (container : Nat) (item : Option Nat) :
    (items container item).toList =
      ".la-label".toList ++ (Nat.toDigits 10 container ++ itemTail item) := by
  cases item with
  | none => simp [items, itemTail_eq, toList_styleName, noLabelClass]
  | some k => simp [items, itemTail_eq, toList_styleName, noLabelClass]

theorem itemTail_head (item : Option Nat) (zs : List Char) :
    ∀ c ∈ (itemTail item ++ zs).head?, ¬c.isDigit := by
  intro c hc
  cases item with
  | none =>
    cases hc
    decide
  | some key =>
    cases hc
    decide

theorem itemTail_injective {i j : Option Nat} {zs : List Char}
    (h : itemTail i ++ zs = itemTail j ++ zs) : i = j := by
  have h := List.append_cancel_right h
  cases i with
  | none =>
    cases j with
    | none => rfl
    | some k => simp [itemTail_eq] at h
  | some n =>
    cases j with
    | none => simp [itemTail_eq] at h
    | some k =>
      have h := List.append_cancel_left (List.append_cancel_right h)
      have h : ".la-label".toList ++ Nat.toDigits 10 n = ".la-label".toList ++ Nat.toDigits 10 k := by
        simpa [itemTail_eq] using h
      have hdigits := List.append_cancel_left h
      rw [← List.append_nil (Nat.toDigits 10 n), ← List.append_nil (Nat.toDigits 10 k)] at hdigits
      rw [(digits_append_inj (by simp) (by simp) hdigits).1]

theorem items_injective {c c' : Nat} {i i' : Option Nat} (h : items c i = items c' i') :
    c = c' ∧ i = i' := by
  have hlist := congrArg String.toList h
  rw [toList_items, toList_items] at hlist
  have hlist := List.append_cancel_left hlist
  rw [← List.append_nil (itemTail i), ← List.append_nil (itemTail i')] at hlist
  obtain ⟨hc, hi⟩ := digits_append_inj (itemTail_head i []) (itemTail_head i' []) hlist
  exact ⟨hc, itemTail_injective hi⟩

section
variable {x : Char}

theorem not_mem_toDigits (hdigit : ¬x.isDigit) (n : Nat) : x ∉ Nat.toDigits 10 n := fun h =>
  hdigit (Nat.isDigit_of_mem_toDigits (by decide) (by decide) h)

theorem not_mem_styleName (hdigit : ¬x.isDigit) (hx : x ∉ "la-label".toList) (key : Nat) :
    x ∉ (styleName key).toList := by
  rw [toList_styleName]
  exact List.not_mem_append hx (not_mem_toDigits hdigit key)

theorem not_mem_items (hdigit : ¬x.isDigit) (hx : x ∉ ".la-label>li:not(.la-no-label)".toList)
    (container : Nat) (item : Option Nat) : x ∉ (items container item).toList := by
  have hsub : ∀ {part : List Char}, part ⊆ ".la-label>li:not(.la-no-label)".toList → x ∉ part :=
    fun hpart h => hx (hpart h)
  have hitem : x ∉ item.elim [] fun k => ".la-label".toList ++ Nat.toDigits 10 k := by
    cases item with
    | none => exact List.not_mem_nil
    | some k => exact List.not_mem_append (hsub (by decide)) (not_mem_toDigits hdigit k)
  rw [toList_items, itemTail_eq]
  exact List.not_mem_append (hsub (by decide)) (List.not_mem_append (not_mem_toDigits hdigit container)
    (List.not_mem_append (List.not_mem_append (hsub (by decide)) hitem) (hsub (by decide))))

end

end Css

namespace Rule

/-- The selector of a rule: its text up to the first brace. -/
def selector (r : Rule) : String := String.ofList (r.toText.toList.takeWhile (· != '\x7b'))

/-- What a rule says of its selector: its text from the first brace on. -/
def body (r : Rule) : String := String.ofList (r.toText.toList.dropWhile (· != '\x7b'))

/-- The rule is made of keys, not in a written form of its own. -/
def Drawn : Rule → Prop
  | verbatim _ => False
  | _ => True

theorem selector_congr {r r' : Rule} (h : r.toText = r'.toText) : r.selector = r'.selector := by
  rw [selector, h, selector]

theorem body_congr {r r' : Rule} (h : r.toText = r'.toText) : r.body = r'.body := by
  rw [body, h, body]

theorem toList_block (selector declaration : String) :
    (block selector declaration).toList =
      selector.toList ++ '\x7b' :: (declaration.toList ++ [';', '\x7d']) := by
  simp [block]

theorem selector_of_block {r : Rule} {sel declaration : String} (h : r.toText = block sel declaration)
    (hsel : '\x7b' ∉ sel.toList) : r.selector = sel := by
  rw [selector, h, toList_block, Css.takeWhile_ne_append hsel, String.ofList_toList]

theorem body_of_block {r : Rule} {sel declaration : String} (h : r.toText = block sel declaration)
    (hsel : '\x7b' ∉ sel.toList) :
    r.body = String.ofList ('\x7b' :: (declaration.toList ++ [';', '\x7d'])) := by
  rw [body, h, toList_block, Css.dropWhile_ne_append hsel]

theorem toList_class (k : Nat) :
    ("." ++ Css.styleName k).toList = ".la-label".toList ++ Nat.toDigits 10 k := by
  simp [Css.toList_styleName]

theorem no_brace_styleName (k : Nat) : '\x7b' ∉ ("." ++ Css.styleName k).toList := by
  rw [String.toList_append]
  exact List.not_mem_append (by decide) (Css.not_mem_styleName (by decide) (by decide) k)

theorem no_brace_items (container : Nat) (item : Option Nat) (tail : String)
    (htail : '\x7b' ∉ tail.toList) : '\x7b' ∉ (Css.items container item ++ tail).toList := by
  rw [String.toList_append]
  exact List.not_mem_append (Css.not_mem_items (by decide) (by decide) container item) htail

@[simp] theorem selector_hideMarkers : hideMarkers.selector = ".la-labelled>li" :=
  selector_of_block rfl (by decide)

@[simp] theorem selector_reset (key : Nat) : (reset key).selector = "." ++ Css.styleName key :=
  selector_of_block rfl (no_brace_styleName key)

@[simp] theorem selector_increment (container : Nat) (item : Option Nat) :
    (increment container item).selector = Css.items container item := by
  refine selector_of_block rfl ?_
  have := no_brace_items container item "" (by simp)
  rwa [String.append_empty] at this

@[simp] theorem selector_content (container : Nat) (item : Option Nat) (value : Content) :
    (content container item value).selector = Css.items container item ++ "::before" :=
  selector_of_block rfl (no_brace_items container item "::before" (by decide))

/-- What two rules for the same items draw is told by their bodies. -/
theorem body_content {container : Nat} {item : Option Nat} {value value' : Content} :
    (content container item value).body = (content container item value').body ↔
      value.toText = value'.toText := by
  have hsel := no_brace_items container item "::before" (by decide)
  rw [body_of_block rfl hsel, body_of_block rfl hsel, String.ofList_inj]
  simp [← String.toList_inj]

/-- The selector of a rule behind the beginning that all of them share. -/
def tail : Rule → List Char
  | hideMarkers => "led>li".toList
  | reset key => Nat.toDigits 10 key
  | increment container item => Nat.toDigits 10 container ++ Css.itemTail item
  | content container item _ =>
    Nat.toDigits 10 container ++ (Css.itemTail item ++ "::before".toList)
  | verbatim _ => []

@[simp] theorem tail_hideMarkers : hideMarkers.tail = "led>li".toList := rfl

@[simp] theorem tail_reset (key : Nat) : (reset key).tail = Nat.toDigits 10 key := rfl

@[simp] theorem tail_increment (container : Nat) (item : Option Nat) :
    (increment container item).tail = Nat.toDigits 10 container ++ Css.itemTail item := rfl

@[simp] theorem tail_content (container : Nat) (item : Option Nat) (value : Content) :
    (content container item value).tail =
      Nat.toDigits 10 container ++ (Css.itemTail item ++ "::before".toList) := rfl

theorem toList_selector {r : Rule} (h : r.Drawn) :
    r.selector.toList = ".la-label".toList ++ r.tail := by
  cases r with
  | hideMarkers => rw [selector_hideMarkers, tail_hideMarkers]; decide
  | reset key => rw [selector_reset, toList_class]; rfl
  | increment container item => rw [selector_increment, Css.toList_items]; rfl
  | content container item value =>
    rw [selector_content, String.toList_append, Css.toList_items]
    simp
  | verbatim => cases h

theorem tail_inj {r r' : Rule} (h : r.Drawn) (h' : r'.Drawn) (hs : r.selector = r'.selector) :
    r.tail = r'.tail := by
  have hlist := congrArg String.toList hs
  rw [toList_selector h, toList_selector h'] at hlist
  exact List.append_cancel_left hlist

theorem digits_ne_item {n m : Nat} {item : Option Nat} {zs : List Char} :
    Nat.toDigits 10 n ≠ Nat.toDigits 10 m ++ (Css.itemTail item ++ zs) := by
  intro h
  rw [← List.append_nil (Nat.toDigits 10 n)] at h
  have := (Css.digits_append_inj (by simp) (Css.itemTail_head item zs) h).2
  simp [Css.itemTail_eq] at this

theorem digits_ne_labelled {n : Nat} {zs : List Char} : Nat.toDigits 10 n ++ zs ≠ "led>li".toList := by
  intro h
  cases hd : Nat.toDigits 10 n with
  | nil => exact Nat.toDigits_ne_nil hd
  | cons c rest =>
    have hc := Nat.isDigit_of_mem_toDigits (b := 10) (by decide) (by decide)
      (hd ▸ List.mem_cons_self .. : c ∈ Nat.toDigits 10 n)
    rw [hd] at h
    have : c = 'l' := (List.cons.inj h).1
    rw [this] at hc
    exact absurd hc (by decide)

theorem itemTail_ne_before {i j : Option Nat} :
    Css.itemTail i ≠ Css.itemTail j ++ "::before".toList := by
  intro h
  have hlast := congrArg List.getLast? h
  rw [Css.itemTail_eq, List.getLast?_append, List.getLast?_append] at hlast
  simp at hlast

/-- Two rules with one selector say the same, or both say what is drawn before the same items. -/
theorem same_selector {r r' : Rule} (h : r.Drawn) (h' : r'.Drawn)
    (hs : r.selector = r'.selector) : r = r' ∨ ∃ container item value value',
      r = content container item value ∧ r' = content container item value' := by
  have htail := tail_inj h h' hs
  cases r with
  | verbatim => cases h
  | hideMarkers =>
    cases r' with
    | verbatim => cases h'
    | hideMarkers => exact Or.inl rfl
    | reset key =>
      rw [tail_reset, ← List.append_nil (Nat.toDigits 10 key)] at htail
      exact absurd htail.symm digits_ne_labelled
    | increment => exact absurd htail.symm digits_ne_labelled
    | content => exact absurd htail.symm digits_ne_labelled
  | reset key =>
    cases r' with
    | verbatim => cases h'
    | hideMarkers =>
      rw [tail_reset, ← List.append_nil (Nat.toDigits 10 key)] at htail
      exact absurd htail digits_ne_labelled
    | reset key' =>
      rw [selector_reset, selector_reset] at hs
      exact Or.inl (by rw [Css.styleName_injective ((String.append_right_inj _).1 hs)])
    | increment container item =>
      rw [tail_increment, ← List.append_nil (Css.itemTail item)] at htail
      exact absurd htail digits_ne_item
    | content => exact absurd htail digits_ne_item
  | increment container item =>
    cases r' with
    | verbatim => cases h'
    | hideMarkers => exact absurd htail digits_ne_labelled
    | reset key =>
      rw [tail_increment, ← List.append_nil (Css.itemTail item)] at htail
      exact absurd htail.symm digits_ne_item
    | increment container' item' =>
      rw [selector_increment, selector_increment] at hs
      obtain ⟨rfl, rfl⟩ := Css.items_injective hs
      exact Or.inl rfl
    | content container' item' value =>
      rw [tail_increment, ← List.append_nil (Css.itemTail item)] at htail
      have := (Css.digits_append_inj (Css.itemTail_head item []) (Css.itemTail_head item' _) htail).2
      rw [List.append_nil] at this
      exact absurd this itemTail_ne_before
  | content container item value =>
    cases r' with
    | verbatim => cases h'
    | hideMarkers => exact absurd htail digits_ne_labelled
    | reset key => exact absurd htail.symm digits_ne_item
    | increment container' item' =>
      rw [tail_increment, ← List.append_nil (Css.itemTail item')] at htail
      have := (Css.digits_append_inj (Css.itemTail_head item _) (Css.itemTail_head item' []) htail).2
      rw [List.append_nil] at this
      exact absurd this.symm itemTail_ne_before
    | content container' item' value' =>
      obtain ⟨rfl, hitem⟩ := Css.digits_append_inj (Css.itemTail_head item _)
        (Css.itemTail_head item' _) htail
      obtain rfl := Css.itemTail_injective hitem
      exact Or.inr ⟨container, item, value, value', rfl, rfl⟩

end Rule
end Rubric
