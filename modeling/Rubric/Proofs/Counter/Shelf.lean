import Rubric.Proofs.Counter.Words

/-!
# Styles that remember

Styles stand on a shelf. Each one refers to the style it falls back to by its place, so styles share their
fallbacks, and remembers the texts that it gave out. All counting is in machine words.

* `CounterRule.tried` : the text of a count by one rule, and `CounterRule.tried_eq` : it is there without a
  fault;
* `Shelf.ask` : the text of a count from memory, by the style's own rule or from its fallback;
* `Shelf.run` : styles that are built and asked in any order, and `Shelf.Request.answers` : the same requests to
  styles that remember nothing;
* `Shelf.run_eq_answers` : the answers are the same.
-/

namespace Rubric
open Checked

/-! ## One rule -/

namespace CounterRule

/-- The digits of a count, its sign and affixes left off. The least word has no magnitude. -/
def triedCore (r : CounterRule) (n : Int) : Checked (Option String) :=
  if r.isSigned n then (Word.magnitude? n).elim (.ok none) (Word.core r.system)
  else Word.core r.system n

def triedSignWidth (r : CounterRule) (signed : Bool) : Checked Nat :=
  if signed then Word.unsigned ((r.sign.before.length : Int) + r.sign.after.length) else .ok 0

/-- The fill in front of digits so many characters wide. Its own width does not go below zero. -/
def triedFill (r : CounterRule) (signed : Bool) (width : Nat) : Checked String :=
  match r.pad with
  | none => .ok ""
  | some pad => do
    let signWidth ← r.triedSignWidth signed
    return Numeral.replicateText (pad.width - signWidth - width) pad.symbol

/-- The digits with everything around them, one after the other. The room that is reserved for them is no more
than the text takes up, and is left out. -/
def triedWrap (r : CounterRule) (signed : Bool) (core : String) : Checked String := do
  let fill ← r.triedFill signed core.length
  return r.affixes.before ++ (if signed then r.sign.before else "") ++ fill ++ core ++
    (if signed then r.sign.after else "") ++ r.affixes.after

/-- The text of a count, if it is in range and the system represents it. -/
def tried (r : CounterRule) (n : Int) : Checked (Option String) :=
  if r.range.contains n then do
    let core ← r.triedCore n
    core.elim (.ok none) fun core => some <$> r.triedWrap (r.isSigned n) core
  else .ok none

/-- The tables of the system and both parts of the sign fit into memory. -/
structure Fits (r : CounterRule) : Prop where
  system : r.system.Fits
  before : r.sign.before.length ≤ 9223372036854775807
  after : r.sign.after.length ≤ 9223372036854775807

instance (r : CounterRule) : Decidable r.Fits :=
  decidable_of_iff
    (r.system.Fits ∧ r.sign.before.length ≤ 9223372036854775807 ∧ r.sign.after.length ≤ 9223372036854775807)
    ⟨fun ⟨hsystem, hbefore, hafter⟩ => ⟨hsystem, hbefore, hafter⟩, fun h => ⟨h.system, h.before, h.after⟩⟩

variable {r : CounterRule} {n : Int}

theorem triedCore_eq (h : r.Fits) (hn : Word.IsSigned n) : r.triedCore n = .ok (r.core? n) := by
  obtain ⟨hlow, hhigh⟩ := hn
  rw [triedCore, core?]
  by_cases hsigned : r.isSigned n
  · rw [if_pos hsigned, if_pos hsigned, Word.magnitude?]
    by_cases hmagnitude : n.natAbs ≤ maxMagnitude
    · have hword : Word.IsSigned n.natAbs := ⟨by omega, by exact_mod_cast hmagnitude⟩
      rw [if_pos hmagnitude, if_pos hword]
      exact Word.core_eq h.system hword
    · have hlarge : ¬Word.IsSigned n.natAbs := fun hword => hmagnitude (by exact_mod_cast hword.2)
      rw [if_neg hmagnitude, if_neg hlarge]
      rfl
  · rw [if_neg hsigned, if_neg hsigned, Word.core_eq h.system ⟨hlow, hhigh⟩]

theorem triedFill_eq (h : r.Fits) (signed : Bool) (width : Nat) :
    r.triedFill signed width = .ok (r.fill signed width) := by
  have hsign : r.triedSignWidth signed =
      .ok (if signed then r.sign.before.length + r.sign.after.length else 0) := by
    cases signed with
    | false => rfl
    | true =>
      have hbefore := h.before
      have hafter := h.after
      exact Word.unsigned_eq (n := r.sign.before.length + r.sign.after.length)
        (by simp only [Word.greatest]; omega)
  rw [triedFill, fill]
  cases r.pad with
  | none => rfl
  | some pad =>
    dsimp only
    rw [hsign]
    rfl

theorem triedWrap_eq (h : r.Fits) (signed : Bool) (core : String) :
    r.triedWrap signed core = .ok (r.wrap signed core) := by
  rw [triedWrap, triedFill_eq h, ok_bind, wrap]
  cases signed <;> simp [String.append_assoc, pure, Except.pure]

/-- What a rule gives for a count of 64 bits is there without a fault. -/
theorem tried_eq (h : r.Fits) (hn : Word.IsSigned n) : r.tried n = .ok (r.represent? n) := by
  rw [tried, represent?]
  by_cases hrange : r.range.contains n
  · rw [if_pos hrange, if_pos hrange, triedCore_eq h hn, ok_bind]
    cases r.core? n with
    | none => rfl
    | some core =>
      rw [Option.elim_some, triedWrap_eq h]
      rfl
  · rw [if_neg hrange, if_neg hrange]

end CounterRule

/-! ## The shelf -/

/-- A style as it is kept: its rule, the place of the style it falls back to, and what it remembers, the
latest first. -/
structure KeptStyle where
  rule : CounterRule
  fallback : Option Nat
  memo : List (Int × String)

abbrev Shelf := List KeptStyle

namespace Shelf

/-- A new style at the end, which remembers nothing. -/
def build (shelf : Shelf) (rule : CounterRule) (fallback : Option Nat) : Shelf := shelf ++ [⟨rule, fallback, []⟩]

def remember (shelf : Shelf) (i : Nat) (n : Int) (text : String) : Shelf :=
  shelf.modify i fun style => { style with memo := (n, text) :: style.memo }

/-- The text of a count by the style at a place. Whatever is worked out or comes from the fallback is
remembered by every style it passes through. -/
def ask (shelf : Shelf) (i : Nat) (n : Int) : Checked (String × Shelf) := do
  let style ← Word.entry shelf i
  match style.memo.lookup n with
  | some text => return (text, shelf)
  | none =>
    let own ← style.rule.tried n
    (fun (text, shelf) => (text, remember shelf i n text)) <$>
      match own, style.fallback with
      | some text, _ => .ok (text, shelf)
      | none, some j => if _ : j < i then ask shelf j n else .error .endless
      | none, none => .ok (toString n, shelf)
termination_by i

end Shelf

/-! ## Requests -/

/-- What is asked of a shelf. -/
inductive Shelf.Request where
  /-- A new style, with the place of the style it falls back to. -/
  | build (rule : CounterRule) (fallback : Option Nat)
  /-- The text of a count by the style at a place. -/
  | format (i : Nat) (n : Int)

namespace Shelf.Request

/-- Behind so many styles, requests name styles that are there and counts of 64 bits, and what they build
fits into memory. -/
def Valid : Nat → List Request → Prop
  | _, [] => True
  | k, build rule fallback :: rest => rule.Fits ∧ (∀ j, fallback = some j → j < k) ∧ Valid (k + 1) rest
  | k, format i n :: rest => i < k ∧ Word.IsSigned n ∧ Valid k rest

instance decidableValid : (k : Nat) → (requests : List Request) → Decidable (Valid k requests)
  | _, [] => inferInstanceAs (Decidable True)
  | k, build rule fallback :: rest =>
    have := decidableValid (k + 1) rest
    have : Decidable (∀ j, fallback = some j → j < k) :=
      match fallback with
      | none => .isTrue fun _ h => by cases h
      | some j => decidable_of_iff (j < k) ⟨fun h _ hj => Option.some.inj hj ▸ h, fun h => h j rfl⟩
    inferInstanceAs (Decidable (rule.Fits ∧ (∀ j, fallback = some j → j < k) ∧ Valid (k + 1) rest))
  | k, format i n :: rest =>
    have := decidableValid k rest
    inferInstanceAs (Decidable (i < k ∧ Word.IsSigned n ∧ Valid k rest))

/-- The answers of styles that remember nothing. -/
def answers : List CounterStyle → List Request → List String
  | _, [] => []
  | styles, build rule fallback :: rest =>
    answers (styles ++ [.ofRule rule (fallback.bind (styles[·]?))]) rest
  | styles, format i n :: rest => styles[i]?.elim "" (·.format n) :: answers styles rest

end Shelf.Request

/-- The answers of styles that remember. -/
def Shelf.run : Shelf → List Shelf.Request → Checked (List String)
  | _, [] => .ok []
  | shelf, .build rule fallback :: rest => run (shelf.build rule fallback) rest
  | shelf, .format i n :: rest => do
    let (text, shelf) ← shelf.ask i n
    (text :: ·) <$> run shelf rest

/-! ## What a shelf keeps -/

/-- A kept style at a place does what a style does. -/
structure KeptStyle.Serves (kept : KeptStyle) (styles : List CounterStyle) (i : Nat) (style : CounterStyle) :
    Prop where
  rule : kept.rule = style.rule
  fits : kept.rule.Fits
  fallback : kept.fallback.bind (styles[·]?) = style.fallback?
  before : ∀ j, kept.fallback = some j → j < i
  memo : ∀ n text, kept.memo.lookup n = some text → text = style.format n

/-- The kept styles do what the styles at their places do. -/
structure Shelf.Serves (shelf : Shelf) (styles : List CounterStyle) : Prop where
  length : shelf.length = styles.length
  each : ∀ (i : Nat) (kept : KeptStyle) (style : CounterStyle), shelf[i]? = some kept →
    styles[i]? = some style → kept.Serves styles i style

theorem KeptStyle.Serves.remember {kept : KeptStyle} {styles : List CounterStyle} {i : Nat} {style : CounterStyle}
    (h : kept.Serves styles i style) (n : Int) :
    KeptStyle.Serves { kept with memo := (n, style.format n) :: kept.memo } styles i style where
  rule := h.rule
  fits := h.fits
  fallback := h.fallback
  before := h.before
  memo := by
    intro m text hlookup
    rw [List.lookup_cons] at hlookup
    split at hlookup
    · rename_i heq
      cases hlookup
      rw [beq_iff_eq.1 heq]
    · exact h.memo m text hlookup

namespace Shelf
variable {shelf : Shelf} {styles : List CounterStyle} {i : Nat} {style : CounterStyle} {n : Int}

theorem serves_nil : Serves [] [] := ⟨rfl, fun i _ _ h => by simp at h⟩

theorem Serves.getElem? (h : shelf.Serves styles) (hi : styles[i]? = some style) :
    ∃ kept, shelf[i]? = some kept ∧ kept.Serves styles i style := by
  have hlt : i < shelf.length := by
    rw [h.length]
    exact (List.getElem?_eq_some_iff.1 hi).1
  exact ⟨shelf[i], List.getElem?_eq_getElem hlt, h.each i _ style (List.getElem?_eq_getElem hlt) hi⟩

theorem Serves.remember (h : shelf.Serves styles) (hi : styles[i]? = some style) (n : Int) :
    (shelf.remember i n (style.format n)).Serves styles where
  length := by rw [Shelf.remember, List.length_modify, h.length]
  each := by
    intro j kept' style' hkept hstyle
    rw [Shelf.remember, List.getElem?_modify] at hkept
    obtain ⟨kept, hget, rfl⟩ := Option.map_eq_some_iff.1 hkept
    have hserves := h.each j kept style' hget hstyle
    by_cases hij : i = j
    · subst hij
      cases Option.some.inj (hi.symm.trans hstyle)
      rw [if_pos rfl]
      exact hserves.remember n
    · rw [if_neg hij]
      exact hserves

/-- A style behind those that are there does not change what these fall back to. -/
theorem Serves.build (h : shelf.Serves styles) {rule : CounterRule} (hfits : rule.Fits) {fallback : Option Nat}
    (hfallback : ∀ j, fallback = some j → j < styles.length) :
    (shelf.build rule fallback).Serves (styles ++ [.ofRule rule (fallback.bind (styles[·]?))]) := by
  have hbefore (new : CounterStyle) {k : Nat} (hk : k ≤ styles.length) {fb : Option Nat}
      (hfb : ∀ j, fb = some j → j < k) : fb.bind ((styles ++ [new])[·]?) = fb.bind (styles[·]?) := by
    cases fb with
    | none => rfl
    | some j =>
      have hj := hfb j rfl
      exact List.getElem?_append_left (by omega)
  refine ⟨by rw [Shelf.build, List.length_append, List.length_append, h.length]; rfl, ?_⟩
  intro i kept style hkept hstyle
  by_cases hi : i < styles.length
  · rw [List.getElem?_append_left hi] at hstyle
    rw [Shelf.build, List.getElem?_append_left (by rw [h.length]; exact hi)] at hkept
    have hserves := h.each i kept style hkept hstyle
    exact { hserves with
      fallback := (hbefore _ (by omega) hserves.before).trans hserves.fallback }
  · have hlast : i = styles.length := by
      have hlt := (List.getElem?_eq_some_iff.1 hstyle).1
      rw [List.length_append, List.length_singleton] at hlt
      omega
    subst hlast
    rw [List.getElem?_concat_length] at hstyle
    rw [Shelf.build, ← h.length, List.getElem?_concat_length] at hkept
    cases hstyle
    cases hkept
    exact
      { rule := rfl
        fits := hfits
        fallback := by rw [CounterStyle.fallback?_ofRule, hbefore _ (Nat.le_refl _) hfallback]
        before := hfallback
        memo := fun n text hlookup => by cases hlookup }

/-- An answer is that of the style, and the shelf does what it did before. -/
theorem ask_spec (h : shelf.Serves styles) (hi : styles[i]? = some style) (hn : Word.IsSigned n) :
    ∃ after, shelf.ask i n = .ok (style.format n, after) ∧ after.Serves styles := by
  induction i using Nat.strongRecOn generalizing style with
  | ind i ih =>
    obtain ⟨kept, hkept, hserves⟩ := h.getElem? hi
    rw [ask, Word.entry_eq hkept, ok_bind]
    cases hlookup : kept.memo.lookup n with
    | some text =>
      rw [hserves.memo n text hlookup]
      exact ⟨shelf, rfl, h⟩
    | none =>
      dsimp only
      rw [CounterRule.tried_eq hserves.fits hn, ok_bind, hserves.rule]
      cases hown : style.rule.represent? n with
      | some text =>
        rw [← CounterStyle.format_of_represent hown]
        exact ⟨_, rfl, h.remember hi n⟩
      | none =>
        have hformat := CounterStyle.format_of_not_represent hown
        have hfallback := hserves.fallback
        cases hplace : kept.fallback with
        | none =>
          rw [hplace] at hfallback
          rw [← hfallback] at hformat
          have htext : style.format n = toString n := hformat
          dsimp only
          rw [← htext]
          exact ⟨_, rfl, h.remember hi n⟩
        | some j =>
          have hlt := hserves.before j hplace
          rw [hplace] at hfallback
          have hj : j < styles.length := by
            have := (List.getElem?_eq_some_iff.1 hi).1
            omega
          have hget := List.getElem?_eq_getElem hj
          rw [Option.bind_some, hget] at hfallback
          rw [← hfallback] at hformat
          have htext : style.format n = styles[j].format n := hformat
          obtain ⟨after, hask, hafter⟩ := ih j hlt hget
          dsimp only
          rw [dif_pos hlt, hask, ← htext]
          exact ⟨_, rfl, hafter.remember hi n⟩

/-- Styles that remember answer all requests, and as styles that remember nothing do. -/
theorem run_of_serves {requests : List Request} (h : shelf.Serves styles)
    (hvalid : Request.Valid styles.length requests) :
    shelf.run requests = .ok (Request.answers styles requests) := by
  induction requests generalizing shelf styles with
  | nil => rfl
  | cons request rest ih =>
    cases request with
    | build rule fallback =>
      obtain ⟨hfits, hfallback, hrest⟩ := hvalid
      refine ih (h.build hfits hfallback) ?_
      rwa [List.length_append, List.length_singleton]
    | format i n =>
      obtain ⟨hi, hn, hrest⟩ := hvalid
      have hget := List.getElem?_eq_getElem hi
      obtain ⟨after, hask, hafter⟩ := ask_spec h hget hn
      rw [run, hask, ok_bind]
      dsimp only
      rw [ih hafter hrest, Request.answers, hget]
      rfl

/-- On an empty shelf, whatever is built and asked in any order, no request leads to a fault, and every
answer is the text of the count by the first rule that represents it, or its decimal text. -/
theorem run_eq_answers {requests : List Request} (h : Request.Valid 0 requests) :
    run [] requests = .ok (Request.answers [] requests) := run_of_serves serves_nil h

/-- Two styles that share a fallback. The least word has no magnitude, and both leave it to the decimal
text. -/
theorem run_least_word :
    run []
      [.build { name := "binary", system := .numeric ["0", "1"], pad := some ⟨4, "0"⟩ } none,
        .build { name := "letters", system := .alphabetic ["a", "b"] } (some 0),
        .build { name := "stars", system := .symbolic ["*"] } (some 0),
        .format 1 (-9223372036854775808), .format 1 4, .format 2 (-2), .format 2 (-2), .format 2 3,
        .format 0 (-2)] =
      .ok ["-9223372036854775808", "ab", "-010", "-010", "***", "-010"] :=
  (run_eq_answers (by decide)).trans (by decide +kernel)

end Shelf
end Rubric
