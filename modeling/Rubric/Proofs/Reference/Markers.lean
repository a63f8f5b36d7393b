import Mathlib.Data.List.Induction
import Rubric.Reference

/-!
# Markers in a text

* `Marker.Names name m` : the marker `m` has the name, which is empty if the marker is bare;
* `Marker.Longest m r` : no longer marker stands where `m` stands in front of `r`;
* `Piece.slashes` : the number of backslashes in a row at the end of a text;
* `Piece.Cuts s ps` : the pieces are the text, and every marker among them is as long as possible and behind an
  even number of backslashes; `cuts_scan` : so are the pieces that are read;
* `Piece.Unmarked s` : all pairs of number signs in the text are behind an odd number of backslashes;
  `unmarked_of_mem_scan` : so are those in the literal pieces that are read;
* `any_isMarker_scan` : there is a marker among the pieces of a text iff it is not unmarked.
-/

namespace Rubric
namespace Marker

/-! ## Markers -/

/-- A marker and its name: two number signs, alone or with a name, which may be in braces. -/
inductive Names : List Char → List Char → Prop where
  | bare : Names [] ['#', '#']
  | plain {name : List Char} (hne : name ≠ []) (h : ∀ c ∈ name, isNameChar c) : Names name ('#' :: '#' :: name)
  | braced {name : List Char} (hne : name ≠ []) (h : ∀ c ∈ name, isNameChar c) :
      Names name ('#' :: '#' :: '\x7b' :: (name ++ ['\x7d']))

/-- What a marker with a name asks for, if the name is that of a selector. -/
def asked (name : List Char) : Option Selector :=
  if name.isEmpty then some .any else Selector.parse? (String.ofList name)

/-- No longer marker begins where this one begins. -/
def Longest (m r : List Char) : Prop :=
  ∀ name m' r', m ++ r = m' ++ r' → Names name m' → m'.length ≤ m.length

theorem Names.exists_signs {name m : List Char} (h : Names name m) : ∃ r, m = '#' :: '#' :: r := by
  cases h with
  | bare => exact ⟨_, rfl⟩
  | plain => exact ⟨_, rfl⟩
  | braced => exact ⟨_, rfl⟩

theorem Names.ne_slash {name m : List Char} (h : Names name m) : ∀ c ∈ m, c ≠ '\x5c' := by
  have hname : ∀ c, isNameChar c → c ≠ '\x5c' := by
    rintro c hc rfl
    revert hc
    decide
  cases h with
  | bare => simp
  | plain hne h =>
    intro c hc
    rcases List.mem_cons.1 hc with rfl | hc
    · decide
    rcases List.mem_cons.1 hc with rfl | hc
    · decide
    · exact hname c (h c hc)
  | braced hne h =>
    intro c hc
    simp only [List.mem_cons, List.mem_append, List.not_mem_nil, or_false] at hc
    rcases hc with rfl | rfl | rfl | hc | rfl
    · decide
    · decide
    · decide
    · exact hname c (h c hc)
    · decide

/-- A marker is the longest one if no name that could be read is longer, with and without braces. -/
theorem longest_of_signs {m r s : List Char} (hs : m ++ r = '#' :: '#' :: s) (hm : 2 ≤ m.length)
    (hplain : ∀ name r', s = name ++ r' → name ≠ [] → (∀ c ∈ name, isNameChar c) → name.length + 2 ≤ m.length)
    (hbraced : ∀ name r', s = '\x7b' :: (name ++ '\x7d' :: r') → name ≠ [] → (∀ c ∈ name, isNameChar c) →
      name.length + 4 ≤ m.length) : Longest m r := by
  intro name m' r' heq h
  rw [hs] at heq
  cases h with
  | bare => exact hm
  | plain hne h => exact hplain name r' (by simpa using heq) hne h
  | braced hne h =>
    have hlength := hbraced name r' (by simpa using heq) hne h
    simp only [List.length_cons, List.length_append, List.length_nil]
    omega

section Reading
variable {s : List Char}

theorem takeWhile_braced {name r : List Char} (h : ∀ c ∈ name, isNameChar c) :
    (name ++ '\x7d' :: r).takeWhile isNameChar = name ∧
      (name ++ '\x7d' :: r).dropWhile isNameChar = '\x7d' :: r := by
  rw [List.takeWhile_append_of_pos h, List.dropWhile_append_of_pos h]
  exact ⟨List.append_nil name, rfl⟩

theorem forall_mem_takeWhile : ∀ c ∈ s.takeWhile isNameChar, isNameChar c :=
  List.all_eq_true.1 List.all_takeWhile

theorem braced?_spec {m : Marker} (h : braced? s = some m) :
    ∃ name r, s = name ++ '\x7d' :: r ∧ name ≠ [] ∧ (∀ c ∈ name, isNameChar c) ∧
      m = ⟨'#' :: '#' :: '\x7b' :: (name ++ ['\x7d']), asked name, r⟩ := by
  have hs := List.takeWhile_append_dropWhile (p := isNameChar) (l := s)
  rw [braced?] at h
  split at h
  · rename_i r hrest
    rw [hrest] at hs
    dsimp only at h
    split at h
    · cases h
    · rename_i hne
      cases h
      exact ⟨_, r, hs.symm, by simpa using hne, forall_mem_takeWhile, rfl⟩
  · cases h

theorem ne_braced {name r : List Char} (h : braced? s = none) (hne : name ≠ [])
    (hname : ∀ c ∈ name, isNameChar c) : s ≠ name ++ '\x7d' :: r := by
  rintro rfl
  obtain ⟨htake, hdrop⟩ := takeWhile_braced (r := r) hname
  simp only [braced?, htake, hdrop, List.isEmpty_iff, hne, if_false] at h
  cases h

theorem length_le_takeWhile {name r : List Char} (hs : s = name ++ r) (h : ∀ c ∈ name, isNameChar c) :
    name.length ≤ (s.takeWhile isNameChar).length := by
  rw [hs, List.takeWhile_append_of_pos h, List.length_append]
  exact Nat.le_add_right ..

/-- The marker that is read has a name that says what it asks for, and it is the longest one. -/
theorem behindSigns_spec (s : List Char) :
    (∃ name, Names name (behindSigns s).text ∧ (behindSigns s).selector = asked name) ∧
      Longest (behindSigns s).text (behindSigns s).rest := by
  have happend := behindSigns_append s
  have hopening : ¬isNameChar '\x7b' := by decide
  unfold behindSigns at happend ⊢
  split at happend
  · rename_i r
    -- no name begins with a brace
    have hplain : ∀ name r', '\x7b' :: r = name ++ r' → name ≠ [] → ¬∀ c ∈ name, isNameChar c := by
      intro name r' heq hne h
      obtain ⟨c, name, rfl⟩ := List.exists_cons_of_ne_nil hne
      cases heq
      exact hopening (h _ (List.mem_cons_self ..))
    cases hbraced : braced? r with
    | none =>
      rw [hbraced] at happend
      refine ⟨⟨[], .bare, rfl⟩, longest_of_signs happend (Nat.le_refl 2) ?_ ?_⟩
      · exact fun name r' heq hne h => absurd h (hplain name r' heq hne)
      · intro name r' heq hne h
        cases heq
        exact absurd rfl (ne_braced hbraced hne h)
    | some m =>
      obtain ⟨name, rest, rfl, hne, hname, rfl⟩ := braced?_spec hbraced
      rw [hbraced] at happend
      refine ⟨⟨name, .braced hne hname, rfl⟩, longest_of_signs happend (by simp) ?_ ?_⟩
      · exact fun name' r' heq hne' h => absurd h (hplain name' r' heq hne')
      · intro name' r' heq hne' h
        have hsame : name ++ '\x7d' :: rest = name' ++ '\x7d' :: r' := by simpa using heq
        have htake := (takeWhile_braced (r := rest) hname).1
        rw [hsame, (takeWhile_braced (r := r') h).1] at htake
        rw [htake]
        simp
  · rename_i hother
    refine ⟨⟨s.takeWhile isNameChar, ?_, rfl⟩, longest_of_signs happend (by simp [named]) ?_ ?_⟩
    · by_cases hne : s.takeWhile isNameChar = []
      · rw [hne]
        exact .bare
      · exact .plain hne forall_mem_takeWhile
    · intro name r' heq hne h
      have hlength := length_le_takeWhile heq h
      simp only [named, List.length_append, List.length_cons, List.length_nil]
      omega
    · exact fun name r' heq => absurd heq (hother _)

end Reading
end Marker

namespace Piece
open Marker

/-! ## Backslashes -/

/-- The number of backslashes in a row at the end of a text. -/
def slashes (s : List Char) : Nat := (s.reverse.takeWhile (· == '\x5c')).length

theorem foldl_slashesBehind (s : List Char) : s.foldl slashesBehind 0 = slashes s := by
  induction s using List.reverseRecOn with
  | nil => rfl
  | append_singleton s c ih =>
    have hlast : slashes (s ++ [c]) = slashesBehind (slashes s) c := by
      rw [slashes, List.reverse_append, slashesBehind]
      by_cases hc : c = '\x5c'
      · subst hc
        rfl
      · simp [hc]
    rw [List.foldl_append, ih, hlast]
    rfl

theorem foldl_slashesBehind_of_ne {s : List Char} (hne : s ≠ []) (h : ∀ c ∈ s, c ≠ '\x5c') (k : Nat) :
    s.foldl slashesBehind k = 0 := by
  obtain ⟨s', c, rfl⟩ := (List.eq_nil_or_concat s).resolve_left hne
  have hc : c ≠ '\x5c' := h c (by simp)
  rw [List.concat_eq_append, List.foldl_append]
  exact if_neg hc

/-! ## The pieces of a text -/

/-- All pairs of number signs are behind an odd number of backslashes. -/
def Unmarked (s : List Char) : Prop :=
  ∀ before behind, s = before ++ '#' :: '#' :: behind → slashes before % 2 = 1

/-- The pieces are the text. A marker among them stands behind an even number of backslashes, has a name that
says what it asks for, and is as long as possible. -/
structure Cuts (s : List Char) (ps : List Piece) : Prop where
  text : ps.flatMap Piece.text = s
  marker : ∀ before m selector behind, ps = before ++ .marker m selector :: behind →
    slashes (before.flatMap Piece.text) % 2 = 0 ∧ (∃ name, Names name m ∧ selector = asked name) ∧
      Longest m (behind.flatMap Piece.text)

theorem cuts_literal (s : List Char) : Cuts s [literal s] where
  text := List.append_nil s
  marker := by
    intro before m selector behind h
    cases before with
    | nil => cases h
    | cons p before => simp at h

/-- The markers among pieces that stand behind so many backslashes are what they should be. -/
def Marked : Nat → List Piece → Prop
  | _, [] => True
  | k, literal t :: rest => Marked (t.foldl slashesBehind k) rest
  | k, marker m selector :: rest =>
    k % 2 = 0 ∧ (∃ name, Names name m ∧ selector = asked name) ∧ Longest m (rest.flatMap text) ∧
      Marked (m.foldl slashesBehind k) rest

/-- The literal pieces are unmarked, the first one behind so many backslashes. -/
def Clear : Nat → List Piece → Prop
  | _, [] => True
  | k, literal t :: rest =>
    (∀ before behind, t = before ++ '#' :: '#' :: behind → before.foldl slashesBehind k % 2 = 1) ∧ Clear 0 rest
  | _, marker _ _ :: rest => Clear 0 rest

theorem Marked.consLiteral {k : Nat} {c : Char} {ps : List Piece} (h : Marked (slashesBehind k c) ps) :
    Marked k (consLiteral c ps) := by
  unfold Piece.consLiteral
  split <;> exact h

/-- A number sign that is read as a literal does not begin a marker, or it is behind an odd number of
backslashes. -/
theorem Clear.consLiteral {k : Nat} {c : Char} {ps : List Piece}
    (hsigns : at? (c :: ps.flatMap text) = none ∨ k % 2 = 1) (h : Clear (slashesBehind k c) ps) :
    Clear k (consLiteral c ps) := by
  unfold Piece.consLiteral
  split
  · rename_i t rest
    obtain ⟨hliteral, hrest⟩ := h
    refine ⟨fun before behind heq => ?_, hrest⟩
    cases before with
    | nil =>
      refine hsigns.resolve_left fun hnone => ?_
      cases heq
      cases hnone
    | cons d before =>
      cases heq
      exact hliteral before behind rfl
  · rename_i hfirst
    refine ⟨fun before behind heq => ?_, ?_⟩
    · have hlength := congrArg List.length heq
      simp only [List.length_cons, List.length_append, List.length_nil] at hlength
      omega
    · cases ps with
      | nil => trivial
      | cons p rest =>
        cases p with
        | literal t => exact absurd rfl (hfirst t rest)
        | marker => exact h

theorem slashesBehind_of_at? {c : Char} {r : List Char} {m : Marker} (h : at? (c :: r) = some m) (k : Nat) :
    slashesBehind k c = 0 := by
  by_cases hc : c = '#'
  · subst hc
    rfl
  · cases r <;> simp [at?, hc] at h

theorem at?_spec {s : List Char} {m : Marker} (h : at? s = some m) :
    (∃ name, Names name m.text ∧ m.selector = asked name) ∧ Longest m.text m.rest := by
  unfold at? at h
  split at h
  · cases h
    exact behindSigns_spec _
  · cases h

theorem marked_scanFrom (k : Nat) (s : List Char) : Marked k (scanFrom k s) := by
  fun_induction scanFrom k s with
  | case1 => trivial
  | case2 k c r hnone ih => exact ih.consLiteral
  | case3 k c r m h hodd ih =>
    refine Marked.consLiteral ?_
    rwa [slashesBehind_of_at? h k]
  | case4 k c r m h heven ih =>
    obtain ⟨⟨name, hname, hselector⟩, hlongest⟩ := at?_spec h
    obtain ⟨r', hsigns⟩ := hname.exists_signs
    refine ⟨by omega, ⟨name, hname, hselector⟩, ?_, ?_⟩
    · rwa [text_scanFrom]
    · rwa [foldl_slashesBehind_of_ne (by rw [hsigns]; simp) hname.ne_slash]

theorem clear_scanFrom (k : Nat) (s : List Char) : Clear k (scanFrom k s) := by
  fun_induction scanFrom k s with
  | case1 => trivial
  | case2 k c r hnone ih =>
    refine Clear.consLiteral (Or.inl ?_) ih
    rwa [text_scanFrom]
  | case3 k c r m h hodd ih =>
    refine Clear.consLiteral (Or.inr hodd) ?_
    rwa [slashesBehind_of_at? h k]
  | case4 k c r m h heven ih => exact ih

/-- The pieces that are read are the text, with the longest of the markers that are not escaped. -/
theorem cuts_scan (s : String) : Cuts s.toList (scan s) where
  text := text_scanFrom 0 s.toList
  marker := by
    have hmarked : ∀ (k : Nat) (before : List Piece) (m : List Char) (selector : Option Selector)
        (behind : List Piece), Marked k (before ++ .marker m selector :: behind) →
        (before.flatMap Piece.text).foldl slashesBehind k % 2 = 0 ∧
          (∃ name, Names name m ∧ selector = asked name) ∧ Longest m (behind.flatMap Piece.text) := by
      intro k before m selector behind h
      induction before generalizing k with
      | nil => exact ⟨h.1, h.2.1, h.2.2.1⟩
      | cons p before ih =>
        rw [List.flatMap_cons, List.foldl_append]
        cases p with
        | literal t => exact ih _ h
        | marker m' selector' => exact ih _ h.2.2.2
    intro before m selector behind heq
    have h := marked_scanFrom 0 s.toList
    rw [show scanFrom 0 s.toList = _ from heq] at h
    rw [← foldl_slashesBehind]
    exact hmarked 0 before m selector behind h

theorem Clear.unmarked {ps : List Piece} {t : List Char} (h : Clear 0 ps) (ht : literal t ∈ ps) : Unmarked t := by
  induction ps with
  | nil => cases ht
  | cons p rest ih =>
    cases p with
    | literal u =>
      rcases List.mem_cons.1 ht with heq | ht
      · cases heq
        intro before behind heq
        rw [← foldl_slashesBehind]
        exact h.1 before behind heq
      · exact ih h.2 ht
    | marker m selector => exact ih h ((List.mem_cons.1 ht).resolve_left (by simp))

/-- What is read as a literal is unmarked. -/
theorem unmarked_of_mem_scan {s : String} {t : List Char} (h : literal t ∈ scan s) : Unmarked t :=
  (clear_scanFrom 0 s.toList).unmarked h

theorem any_isMarker_consLiteral (c : Char) (ps : List Piece) :
    (consLiteral c ps).any isMarker = ps.any isMarker := by
  unfold Piece.consLiteral
  split <;> rfl

theorem scanFrom_of_not_any {k : Nat} {s : List Char} (hne : s ≠ [])
    (h : (scanFrom k s).any isMarker = false) : scanFrom k s = [literal s] := by
  have hcons : ∀ {k : Nat} {c : Char} {r : List Char}, (r ≠ [] → (scanFrom k r).any isMarker = false →
      scanFrom k r = [literal r]) → (consLiteral c (scanFrom k r)).any isMarker = false →
      consLiteral c (scanFrom k r) = [literal (c :: r)] := by
    intro k c r ih h
    by_cases hr : r = []
    · rw [hr, scanFrom]
      rfl
    · rw [any_isMarker_consLiteral] at h
      rw [ih hr h]
      rfl
  fun_induction scanFrom k s with
  | case1 => exact absurd rfl hne
  | case2 k c r hnone ih => exact hcons ih h
  | case3 k c r m hat hodd ih => exact hcons ih h
  | case4 k c r m hat heven ih => simp [isMarker] at h

/-- There is a marker to be read iff a pair of number signs is not escaped. -/
theorem any_isMarker_scan (s : String) : (scan s).any isMarker = true ↔ ¬Unmarked s.toList := by
  constructor
  · intro hany hunmarked
    obtain ⟨p, hp, hmarker⟩ := List.any_eq_true.1 hany
    cases p with
    | literal => cases hmarker
    | marker m selector =>
      obtain ⟨before, behind, heq⟩ := List.append_of_mem hp
      obtain ⟨heven, ⟨name, hname, -⟩, -⟩ := (cuts_scan s).marker before m selector behind heq
      obtain ⟨r, rfl⟩ := hname.exists_signs
      have htext := (cuts_scan s).text
      rw [heq, List.flatMap_append, List.flatMap_cons] at htext
      have hodd := hunmarked _ (r ++ behind.flatMap Piece.text) htext.symm
      omega
  · intro hmarked
    by_contra hnot
    rw [Bool.not_eq_true] at hnot
    refine hmarked fun before behind heq => ?_
    have hne : s.toList ≠ [] := by
      rw [heq]
      simp
    have hscan : scan s = [literal s.toList] := scanFrom_of_not_any hne hnot
    exact unmarked_of_mem_scan (by rw [hscan]; exact List.mem_singleton.2 rfl) before behind heq

end Piece
end Rubric
