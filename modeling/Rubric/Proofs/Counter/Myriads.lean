import Mathlib.Data.Nat.Digits.Defs
import Rubric.Proofs.Counter.Letters
import Rubric.Proofs.Counter.Words

/-!
# Ethiopic numerals cut into myriads

* `Ethiopic.readPair?`, `readPiece?`, `readPieces?`, `read?` : a numeral is cut at the marks of ten thousand, each
  piece at the mark of a hundred, and what is left is at most a character of tens and one of ones;
* `Ethiopic.pieceText a b` : the text of `a` hundreds and `b`. `write_pair`, `write_append` : how a numeral is
  made of such texts, the last one first;
* `Ethiopic.readPieces?_ethiopic` : the pieces of a numeral are the digits of its number in base ten thousand;
  `ethiopic_injective` : so no two numbers have the same numeral;
* `CounterSystem.ethiopic_read` : every count from one up has a numeral, and is read back from it.
-/

namespace Rubric
namespace Numeral

theorem worth_reverse (b : Nat) (ds : List Nat) : worth b ds.reverse = Nat.ofDigits b ds := by
  induction ds with
  | nil => rfl
  | cons d ds ih =>
    rw [List.reverse_cons, worth_concat, ih, Nat.ofDigits_cons, Nat.add_comm]

namespace Ethiopic

/-! ## Reading -/

def place? (row : List Char) (c : Char) : Option Nat := (row.idxOf? c).map (· + 1)

/-- A character of tens, one of ones, or both. Without any the number is zero. -/
def readPair? : List Char → Option Nat
  | [] => some 0
  | [c] => (place? tens c).map (10 * ·) <|> place? ones c
  | [t, o] => do return 10 * (← place? tens t) + (← place? ones o)
  | _ => none

/-- Hundreds in front of their mark, one if there are no digits, and units behind it or alone. -/
def readPiece? (cs : List Char) : Option Nat :=
  match cs.splitOn hundred with
  | [units] => readPair? units
  | [hundreds, units] => do
    let h ← if hundreds = [] then some 1 else readPair? hundreds
    return 100 * h + (← readPair? units)
  | _ => none

/-- The pieces between the marks of ten thousand. An empty one in front of others counts one. -/
def readPieces? (cs : List Char) : Option (List Nat) :=
  match cs.splitOn myriad with
  | [] :: piece :: rest => (1 :: ·) <$> (piece :: rest).mapM readPiece?
  | pieces => pieces.mapM readPiece?

def read? (cs : List Char) : Option Nat := (readPieces? cs).map (worth 10000)

/-! ## Pieces -/

theorem readPair?_pair : ∀ g < 100, readPair? (pair g) = some g := by decide

theorem hundred_notMem_pair : ∀ g < 100, hundred ∉ pair g := by decide

theorem myriad_notMem_pair : ∀ g < 100, myriad ∉ pair g := by decide

/-- The text of so many hundreds and units. One hundred is the mark alone. -/
def pieceText (a b : Nat) : List Char :=
  if a = 0 then pair b else (if a = 1 then [] else pair a) ++ hundred :: pair b

section Pieces
variable {a b : Nat}

theorem readPiece?_pair (hb : b < 100) : readPiece? (pair b) = some b := by
  rw [readPiece?, List.splitOn_eq_singleton (hundred_notMem_pair b hb)]
  exact readPair?_pair b hb

theorem readPiece?_pieceText (ha : a < 100) (hb : b < 100) : readPiece? (pieceText a b) = some (100 * a + b) := by
  rw [pieceText]
  by_cases hzero : a = 0
  · rw [if_pos hzero, readPiece?_pair hb, hzero, Nat.mul_zero, Nat.zero_add]
  · have hnot : hundred ∉ (if a = 1 then [] else pair a) := by
      split
      · simp
      · exact hundred_notMem_pair a ha
    rw [if_neg hzero, readPiece?, List.splitOn_append_cons_self, List.splitOn_eq_singleton hnot,
      List.splitOn_eq_singleton (hundred_notMem_pair b hb)]
    by_cases hone : a = 1
    · simp [hone, readPair?_pair b hb]
    · have hne : pair a ≠ [] := pair_ne_nil a ha hzero
      simp [hone, hne, readPair?_pair a ha, readPair?_pair b hb]

theorem myriad_notMem_pieceText (ha : a < 100) (hb : b < 100) : myriad ∉ pieceText a b := by
  rw [pieceText]
  have hpair := myriad_notMem_pair b hb
  have hmarks : myriad ≠ hundred := by decide
  split
  · exact hpair
  · split <;> simp [hpair, hmarks, myriad_notMem_pair a ha]

/-- The last two groups make a piece, whatever stands in front. -/
theorem write_pair (first : Bool) (a b : Nat) : write first [a, b] = pieceText a b := by
  have hb : b = 0 → pair b = [] := by
    rintro rfl
    rfl
  rw [write, write, write, pieceText]
  by_cases hzero : a = 0
  · simpa [hzero, silent] using hb
  · simpa [hzero, silent] using hb

theorem write_singleton {b : Nat} (hb : b ≠ 0) : write true [b] = if b = 1 then [] else pair b := by
  simp [write, silent, hb]

/-- With two groups more behind it, a group keeps its text, and the last one gets the mark of ten thousand. -/
theorem write_append (first : Bool) {gs : List Nat} (hgs : gs ≠ []) (a b : Nat) :
    write first (gs ++ [a, b]) = write first gs ++ myriad :: pieceText a b := by
  induction gs generalizing first with
  | nil => exact absurd rfl hgs
  | cons g gs ih =>
    rw [List.cons_append, Word.write_cons, Word.write_cons, List.length_append]
    cases gs with
    | nil =>
      rw [List.nil_append, write_pair]
      simp [Word.groupText, write]
    | cons g' gs =>
      have hsame : Word.groupText first ((g' :: gs).length + [a, b].length) g =
          Word.groupText first (g' :: gs).length g := by
        simp [Word.groupText]
      rw [ih false (List.cons_ne_nil _ _), hsame, List.append_assoc]

end Pieces

/-! ## Numerals -/

section Numerals
variable {n : Nat}

theorem digits_of_lt (hn : 0 < n) (hsmall : n < 100) : digits 100 n = [n] := by
  rw [digits_of_pos (by decide) hn, Nat.div_eq_of_lt hsmall, digits_zero, Nat.mod_eq_of_lt hsmall, List.nil_append]

theorem digits_append_pair (hn : 100 ≤ n) :
    digits 100 n = digits 100 (n / 10000) ++ [n / 100 % 100, n % 100] := by
  rw [digits_of_pos (by decide) (by omega), digits_of_pos (by decide) (Nat.div_pos hn (by decide)),
    Nat.div_div_eq_div_mul, List.append_assoc]
  rfl

/-- The first piece is read, or left out where it is one, and the others are read. -/
def Cut (pieces : List (List Char)) (digits : List Nat) : Prop :=
  ∃ p ps d ds, pieces = p :: ps ∧ digits = d :: ds ∧ (p = [] ∧ d = 1 ∨ p ≠ [] ∧ readPiece? p = some d) ∧
    ps.mapM readPiece? = some ds

theorem Cut.single {p : List Char} {d : Nat} (h : p = [] ∧ d = 1 ∨ p ≠ [] ∧ readPiece? p = some d) :
    Cut [p] [d] :=
  ⟨p, [], d, [], rfl, rfl, h, rfl⟩

theorem Cut.concat {pieces : List (List Char)} {digits : List Nat} (h : Cut pieces digits) {p : List Char} {d : Nat}
    (hp : readPiece? p = some d) : Cut (pieces ++ [p]) (digits ++ [d]) := by
  obtain ⟨q, qs, e, es, rfl, rfl, hfirst, hothers⟩ := h
  refine ⟨q, qs ++ [p], e, es ++ [d], rfl, rfl, hfirst, ?_⟩
  rw [List.mapM_append, hothers, List.mapM_cons, hp]
  rfl

theorem Cut.read {cs : List Char} {digits : List Nat} (h : Cut (cs.splitOn myriad) digits) (hne : digits ≠ [1]) :
    readPieces? cs = some digits := by
  obtain ⟨p, ps, d, ds, hsplit, rfl, hfirst, hothers⟩ := h
  rw [readPieces?, hsplit]
  rcases hfirst with ⟨rfl, rfl⟩ | ⟨hp, hread⟩
  · cases ps with
    | nil =>
      cases hothers
      exact absurd rfl hne
    | cons q qs =>
      dsimp only
      rw [hothers]
      rfl
  · have hmap : (p :: ps).mapM readPiece? = some (d :: ds) := by
      rw [List.mapM_cons, hread, hothers]
      rfl
    cases p with
    | nil => exact absurd rfl hp
    | cons c p => exact hmap

theorem cut_of_lt_hundred (hn : 0 < n) (hsmall : n < 100) : Cut ((write true (digits 100 n)).splitOn myriad) [n] := by
  rw [digits_of_lt hn hsmall, write_singleton (by omega)]
  by_cases hone : n = 1
  · rw [if_pos hone, List.splitOn_nil]
    exact .single (Or.inl ⟨rfl, hone⟩)
  · rw [if_neg hone, List.splitOn_eq_singleton (myriad_notMem_pair n hsmall)]
    exact .single (Or.inr ⟨pair_ne_nil n hsmall (by omega), readPiece?_pair hsmall⟩)

theorem cut_of_lt_myriad (hn : 100 ≤ n) (hsmall : n < 10000) :
    Cut ((write true (digits 100 n)).splitOn myriad) [n] := by
  have ha : n / 100 < 100 := by omega
  have hb : n % 100 < 100 := Nat.mod_lt _ (by decide)
  have hread := readPiece?_pieceText ha hb
  rw [Nat.div_add_mod] at hread
  have hne : pieceText (n / 100) (n % 100) ≠ [] := by
    rw [pieceText, if_neg (by omega)]
    simp
  rw [digits_append_pair hn, Nat.div_eq_of_lt hsmall, digits_zero, List.nil_append, write_pair, Nat.mod_eq_of_lt ha,
    List.splitOn_eq_singleton (myriad_notMem_pieceText ha hb)]
  exact .single (Or.inr ⟨hne, hread⟩)

/-- The pieces of a number have the digits in base ten thousand. -/
theorem cut_write (hn : 0 < n) :
    Cut ((write true (digits 100 n)).splitOn myriad) (Nat.digits 10000 n).reverse := by
  induction n using Nat.strongRecOn with
  | ind n ih =>
    by_cases hlarge : 10000 ≤ n
    · have hrest : 0 < n / 10000 := Nat.div_pos hlarge (by decide)
      have hne : digits 100 (n / 10000) ≠ [] := by
        rw [digits_of_pos (by decide) hrest]
        simp
      have ha : n / 100 % 100 < 100 := Nat.mod_lt _ (by decide)
      have hb : n % 100 < 100 := Nat.mod_lt _ (by decide)
      have hread := readPiece?_pieceText ha hb
      rw [show 100 * (n / 100 % 100) + n % 100 = n % 10000 by omega] at hread
      rw [digits_append_pair (by omega), write_append true hne, List.splitOn_append_cons_self,
        List.splitOn_eq_singleton (myriad_notMem_pieceText ha hb), Nat.digits_of_two_le_of_pos (by decide) hn,
        List.reverse_cons]
      exact (ih _ (Nat.div_lt_self hn (by decide)) hrest).concat hread
    · rw [Nat.digits_of_lt 10000 n (by omega) (by omega), List.reverse_singleton]
      rcases Nat.lt_or_ge n 100 with hsmall | hge
      · exact cut_of_lt_hundred hn hsmall
      · exact cut_of_lt_myriad hge (by omega)

/-- The pieces of a numeral are the digits of its number in base ten thousand. -/
theorem readPieces?_ethiopic {t : String} (h : ethiopic n = some t) :
    readPieces? t.toList = some (Nat.digits 10000 n).reverse := by
  rw [ethiopic] at h
  split at h
  · cases h
  rename_i hzero
  split at h
  · rename_i hone
    cases h
    rw [hone]
    rfl
  rename_i hone
  cases h
  rw [String.toList_ofList]
  refine (cut_write (Nat.pos_of_ne_zero hzero)).read fun hdigits => hone ?_
  rw [← Nat.ofDigits_digits 10000 n, ← List.reverse_reverse (Nat.digits 10000 n), hdigits]
  rfl

theorem read?_ethiopic {t : String} (h : ethiopic n = some t) : read? t.toList = some n := by
  rw [read?, readPieces?_ethiopic h, Option.map_some, worth_reverse, Nat.ofDigits_digits]

end Numerals
end Ethiopic

theorem ethiopic_injective {n m : Nat} {t : String} (hn : ethiopic n = some t) (hm : ethiopic m = some t) : n = m :=
  Option.some.inj ((Ethiopic.read?_ethiopic hn).symm.trans (Ethiopic.read?_ethiopic hm))

end Numeral

namespace CounterSystem
open Numeral
open CounterRule (maxMagnitude)

/-- Every count from one up has a numeral, without a fault in machine words. Cut at the marks of ten thousand it
is read as the digits of the count in base ten thousand, so it gives the count back, and no other count has the
same numeral. -/
theorem ethiopic_read {n : Nat} (hn : 0 < n) (hmax : n ≤ maxMagnitude) :
    ∃ t, Word.core ethiopic n = .ok (some t) ∧ ethiopic.represent? n = some t ∧
      Ethiopic.readPieces? t.toList = some (Nat.digits 10000 n).reverse ∧ Ethiopic.read? t.toList = some n ∧
      ∀ m : Int, ethiopic.represent? m = some t → m = n := by
  have hspell : ethiopic.represent? n = Numeral.ethiopic n := represent?_natCast rfl n
  obtain ⟨t, ht⟩ : ∃ t, Numeral.ethiopic n = some t := by
    rw [Numeral.ethiopic, if_neg (by omega)]
    split <;> exact ⟨_, rfl⟩
  have hword : Word.core ethiopic n = .ok (ethiopic.represent? n) := by
    have hmax : n ≤ 9223372036854775807 := hmax
    exact Word.ethiopic_eq ⟨by omega, by omega⟩
  refine ⟨t, ?_, hspell.trans ht, Ethiopic.readPieces?_ethiopic ht, Ethiopic.read?_ethiopic ht, fun m hm => ?_⟩
  · rw [hword, hspell, ht]
  · obtain ⟨hnonneg, hm⟩ := spell?_of_represent? rfl hm
    have heq := ethiopic_injective hm ht
    omega

/-- The second piece of three is empty, and the first begins with a mark of a hundred that has digits. -/
theorem ethiopic_read_gap :
    0 < 780100000092 ∧ 780100000092 ≤ maxMagnitude ∧ ∃ t, ethiopic.represent? (780100000092 : Nat) = some t ∧
      t = "፸፰፻፩፼፼፺፪" ∧ Ethiopic.readPieces? t.toList = some [7801, 0, 92] := by
  obtain ⟨t, -, ht, hpieces, -⟩ := ethiopic_read (n := 780100000092) (by decide) (by decide)
  have htext : ethiopic.represent? (780100000092 : Nat) = some "፸፰፻፩፼፼፺፪" := by
    have hdigits : digits 100 780100000092 = [78, 1, 0, 0, 0, 92] := by simp [digits]
    rw [represent?_natCast rfl, spell?, Numeral.ethiopic, if_neg (by decide), if_neg (by decide), hdigits]
    rfl
  refine ⟨by decide, by decide, t, ht, Option.some.inj (ht.symm.trans htext), ?_⟩
  rw [hpieces]
  norm_num

end CounterSystem
end Rubric
