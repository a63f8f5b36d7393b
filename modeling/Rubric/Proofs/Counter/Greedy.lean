import Rubric.Proofs.Counter.Words

/-!
# Sums of weights

* `Numeral.weighted table` : the entries of a table that have a weight;
* `Numeral.Repeats entries n ms` : with so many copies of each entry the weights add up to `n`;
  `Numeral.written entries ms` : the text of these copies;
* `Numeral.Greedy ws n ms left` : each weight in turn is taken off `n` as often as it still fits, `ms` says how
  often, and `left` is what remains. `exists_greedy`, `Greedy.unique` : there is one way to do so;
  `Greedy.lex_of_repeats` : it is the greatest of all ways to make up the number, in lexicographic order;
* `additiveFrom_of_greedy` : a sum is written in this way, and not at all if something remains;
* `additive_greedy` : so are the numerals of all counts, and no step is a fault.
-/

namespace Rubric
namespace Numeral

def weighted (table : List (Nat × String)) : List (Nat × String) := table.filter (·.1 ≠ 0)

/-- The weights of some entries, each as often as it is said, added up. -/
def total (entries : List (Nat × String)) (ms : List Nat) : Nat :=
  (List.zipWith (fun e m => m * e.1) entries ms).sum

/-- The symbols of some entries, each as often as it is said, one after the other. -/
def written (entries : List (Nat × String)) (ms : List Nat) : String :=
  String.join (List.zipWith (fun e m => replicateText m e.2) entries ms)

theorem written_cons (e : Nat × String) (entries : List (Nat × String)) (m : Nat) (ms : List Nat) :
    written (e :: entries) (m :: ms) = replicateText m e.2 ++ written entries ms := by
  rw [written, List.zipWith_cons_cons, String.join_cons, written]

theorem total_cons (e : Nat × String) (entries : List (Nat × String)) (m : Nat) (ms : List Nat) :
    total (e :: entries) (m :: ms) = m * e.1 + total entries ms := by
  rw [total, List.zipWith_cons_cons, List.sum_cons, total]

/-- There is a number of copies for each entry, and their weights make up a sum. -/
structure Repeats (entries : List (Nat × String)) (n : Nat) (ms : List Nat) : Prop where
  length : ms.length = entries.length
  total : total entries ms = n

/-- Each weight in turn is taken as often as it still fits. -/
inductive Greedy : List Nat → Nat → List Nat → Nat → Prop where
  | nil (n : Nat) : Greedy [] n [] n
  | cons {w n m left : Nat} {ws ms : List Nat} (hfits : m * w ≤ n) (hmost : n < (m + 1) * w)
      (hrest : Greedy ws (n - m * w) ms left) : Greedy (w :: ws) n (m :: ms) left

section Greedy
variable {ws ms ms' ks : List Nat} {entries table : List (Nat × String)} {n left left' : Nat}

/-! ## The greedy way -/

theorem Greedy.of_div {w : Nat} (hw : w ≠ 0) (h : Greedy ws (n % w) ms left) :
    Greedy (w :: ws) n (n / w :: ms) left := by
  have hmost : n < (n / w + 1) * w := by
    rw [Nat.mul_comm]
    exact Nat.lt_mul_div_succ n (Nat.pos_of_ne_zero hw)
  refine .cons (Nat.div_mul_le_self n w) hmost ?_
  rwa [← Nat.mod_eq_sub_div_mul]

theorem eq_div {w m : Nat} (hfits : m * w ≤ n) (hmost : n < (m + 1) * w) : m = n / w :=
  (Nat.div_eq_of_lt_le hfits hmost).symm

theorem exists_greedy (hws : ∀ w ∈ ws, w ≠ 0) (n : Nat) : ∃ ms left, Greedy ws n ms left := by
  induction ws generalizing n with
  | nil => exact ⟨[], n, .nil n⟩
  | cons w ws ih =>
    obtain ⟨hw, hrest⟩ := List.forall_mem_cons.1 hws
    obtain ⟨ms, left, h⟩ := ih hrest (n % w)
    exact ⟨n / w :: ms, left, .of_div hw h⟩

theorem Greedy.unique (h : Greedy ws n ms left) (h' : Greedy ws n ms' left') : ms' = ms ∧ left' = left := by
  induction h generalizing ms' left' with
  | nil n =>
    cases h'
    exact ⟨rfl, rfl⟩
  | cons hfits hmost _ ih =>
    cases h' with
    | cons hfits' hmost' hrest' =>
      obtain rfl := (eq_div hfits' hmost').trans (eq_div hfits hmost).symm
      obtain ⟨rfl, rfl⟩ := ih hrest'
      exact ⟨rfl, rfl⟩

theorem Greedy.length (h : Greedy ws n ms left) : ms.length = ws.length := by
  induction h with
  | nil => rfl
  | cons _ _ _ ih => rw [List.length_cons, List.length_cons, ih]

theorem Greedy.left_le (h : Greedy ws n ms left) : left ≤ n := by
  induction h with
  | nil => exact Nat.le_refl _
  | cons _ _ _ ih => exact ih.trans (Nat.sub_le ..)

/-- What is taken and what remains make up the number. -/
theorem Greedy.total (h : Greedy (entries.map Prod.fst) n ms left) : total entries ms + left = n := by
  induction entries generalizing n ms with
  | nil =>
    cases h
    exact Nat.zero_add _
  | cons e entries ih =>
    cases h with
    | cons hfits _ hrest =>
      have hsum := ih hrest
      rw [total_cons]
      omega

/-- Any other way to make up the number is less in lexicographic order. -/
theorem Greedy.lex_of_repeats (h : Greedy (entries.map Prod.fst) n ms left) (hks : Repeats entries n ks) :
    ks = ms ∨ List.Lex (· < ·) ks ms := by
  induction entries generalizing n ms ks with
  | nil =>
    obtain rfl := List.length_eq_zero_iff.1 hks.length
    cases h
    exact Or.inl rfl
  | cons e entries ih =>
    cases h with
    | @cons _ _ m _ _ ms hfits hmost hrest =>
      obtain ⟨k, ks, rfl⟩ := List.exists_cons_of_length_eq_add_one hks.length
      have htotal := hks.total
      rw [total_cons] at htotal
      have hle : k ≤ m := by
        have hlt : k * e.1 < (m + 1) * e.1 := by omega
        exact Nat.le_of_lt_succ (Nat.lt_of_mul_lt_mul_right hlt)
      rcases Nat.lt_or_eq_of_le hle with hlt | rfl
      · exact Or.inr (.rel hlt)
      · have hrepeats : Repeats entries (n - k * e.1) ks :=
          ⟨Nat.succ.inj hks.length, by omega⟩
        exact (ih hrest hrepeats).imp (congrArg _) .cons

theorem Greedy.written_of_zero (h : Greedy (entries.map Prod.fst) 0 ms left) : written entries ms = "" := by
  induction entries generalizing ms with
  | nil =>
    cases h
    rfl
  | cons e entries ih =>
    cases h with
    | cons hfits hmost hrest =>
      obtain rfl := (eq_div hfits hmost).trans (Nat.zero_div e.1)
      rw [Nat.zero_mul, Nat.sub_zero] at hrest
      rw [written_cons, ih hrest]
      rfl

theorem Greedy.left_eq_zero (h : Greedy ws n ms left) (hone : 1 ∈ ws) : left = 0 := by
  induction h with
  | nil => cases hone
  | @cons w n m left ws ms hfits hmost hrest ih =>
    rcases List.mem_cons.1 hone with rfl | hone
    · have hle := hrest.left_le
      omega
    · exact ih hone

/-! ## What is written -/

theorem weighted_cons {weight : Nat} (hw : weight ≠ 0) (symbol : String) (rest : List (Nat × String)) :
    weighted ((weight, symbol) :: rest) = (weight, symbol) :: weighted rest :=
  List.filter_cons_of_pos (by simpa using hw)

theorem weights_ne_zero (table : List (Nat × String)) : ∀ w ∈ (weighted table).map Prod.fst, w ≠ 0 := by
  intro w hw
  obtain ⟨e, he, rfl⟩ := List.mem_map.1 hw
  simpa using (List.mem_filter.1 he).2

/-- The sum for a number is written in the greedy way, if nothing remains. -/
theorem additiveFrom_of_greedy (hn : n ≠ 0) (h : Greedy ((weighted table).map Prod.fst) n ms left) :
    additiveFrom table n = if left = 0 then some (written (weighted table) ms) else none := by
  induction table generalizing n ms with
  | nil =>
    cases h
    rw [additiveFrom, if_neg hn]
  | cons e rest ih =>
    obtain ⟨weight, symbol⟩ := e
    rw [additiveFrom]
    by_cases hw : weight = 0
    · subst hw
      rw [if_pos rfl]
      exact ih hn h
    · rw [if_neg hw]
      rw [weighted_cons hw] at h ⊢
      dsimp only
      cases h with
      | @cons _ _ m _ _ ms hfits hmost hrest =>
        obtain rfl := eq_div hfits hmost
        rw [← Nat.mod_eq_sub_div_mul] at hrest
        dsimp only at hrest
        rw [written_cons]
        dsimp only
        by_cases hzero : n % weight = 0
        · -- the table is not read to its end, but nothing is taken any more
          rw [hzero] at hrest
          rw [if_pos hzero, if_pos (Nat.le_zero.1 hrest.left_le), hrest.written_of_zero, String.append_empty]
        · rw [if_neg hzero, ih hzero hrest]
          split <;> rfl

end Greedy
end Numeral

/-! ## The numerals of a table -/

namespace CounterSystem
open Numeral

section Additive
variable {table : List (Nat × String)} {n : Int} {t : String}

theorem represent?_additive_of_pos (hn : 0 < n) :
    (additive table).represent? n = additiveFrom table n.toNat := by
  show (if n < 0 then none else Numeral.additive table n.toNat) = _
  rw [if_neg (by omega), Numeral.additive, if_neg (by omega)]

theorem represent?_additive_zero : (additive table).represent? 0 = some t ↔
    ∃ before behind, table = before ++ (0, t) :: behind ∧ ∀ e ∈ before, e.1 ≠ 0 := by
  have hfind : (additive table).represent? 0 = (table.find? fun e => e.1 == 0).map (·.2) := rfl
  rw [hfind, Option.map_eq_some_iff]
  constructor
  · rintro ⟨⟨weight, symbol⟩, he, rfl⟩
    obtain ⟨hweight, before, behind, hsplit, hbefore⟩ := List.find?_eq_some_iff_append.1 he
    obtain rfl : weight = 0 := by simpa using hweight
    exact ⟨before, behind, hsplit, fun e he => by simpa using hbefore e he⟩
  · rintro ⟨before, behind, hsplit, hbefore⟩
    refine ⟨(0, t), List.find?_eq_some_iff_append.2 ⟨rfl, before, behind, hsplit, fun e he => ?_⟩, rfl⟩
    simpa using hbefore e he

end Additive

/-- For every table, in any order, and every count from zero up, the numeral is worked out in machine words
without a fault. Zero is the first symbol without a weight, and has no numeral if there is none. Another count
has a numeral unless something remains when as many of each weight in turn are taken off as still fit, so
always with a weight of one. The numeral is made of the copies that are taken, in the order of the table, and
their numbers are the greatest in lexicographic order of all that make up the count. -/
theorem additive_greedy (table : List (Nat × String)) {n : Int} (hn : Word.IsSigned n) (hnonneg : 0 ≤ n) :
    Word.core (additive table) n = .ok ((additive table).represent? n) ∧
      (n = 0 → ∀ t, (additive table).represent? n = some t ↔
        ∃ before behind, table = before ++ (0, t) :: behind ∧ ∀ e ∈ before, e.1 ≠ 0) ∧
      (0 < n → ∃ ms left, Greedy ((weighted table).map Prod.fst) n.toNat ms left ∧
        (∀ ms' left', Greedy ((weighted table).map Prod.fst) n.toNat ms' left' → ms' = ms ∧ left' = left) ∧
        ((additive table).represent? n = none ↔ left ≠ 0) ∧
        (∀ t, (additive table).represent? n = some t →
          t = written (weighted table) ms ∧ Repeats (weighted table) n.toNat ms ∧
            ∀ ks, Repeats (weighted table) n.toNat ks → ks = ms ∨ List.Lex (· < ·) ks ms) ∧
        ((∃ e ∈ table, e.1 = 1) → ((additive table).represent? n).isSome)) := by
  refine ⟨Word.core_eq (show (additive table).Fits from trivial) hn, ?_, fun hpos => ?_⟩
  · rintro rfl t
    exact represent?_additive_zero
  obtain ⟨ms, left, hgreedy⟩ := exists_greedy (weights_ne_zero table) n.toNat
  have hnumeral : (additive table).represent? n =
      if left = 0 then some (written (weighted table) ms) else none := by
    rw [represent?_additive_of_pos hpos]
    exact additiveFrom_of_greedy (by omega) hgreedy
  refine ⟨ms, left, hgreedy, fun ms' left' h => hgreedy.unique h, ?_, fun t ht => ?_, ?_⟩
  · rw [hnumeral]
    split <;> simp [*]
  · rw [hnumeral] at ht
    split at ht
    · rename_i hleft
      have hlength := hgreedy.length
      rw [List.length_map] at hlength
      have htotal := hgreedy.total
      rw [hleft, Nat.add_zero] at htotal
      exact ⟨(Option.some.inj ht).symm, ⟨hlength, htotal⟩, fun ks hks => hgreedy.lex_of_repeats hks⟩
    · cases ht
  · rintro ⟨e, he, hone⟩
    have hmem : 1 ∈ (weighted table).map Prod.fst :=
      List.mem_map.2 ⟨e, List.mem_filter.2 ⟨he, by simp [hone]⟩, hone⟩
    rw [hnumeral, if_pos (hgreedy.left_eq_zero hmem), Option.isSome_some]

/-- The five stands in front, so it is taken twice, and the seven that would fit beside it is not taken. -/
theorem additive_greedy_unsorted :
    let table := [(5, "V"), (0, "N"), (18446744073709551615, "W"), (1, "I"), (7, "S")]
    Word.IsSigned 12 ∧ (0 : Int) ≤ 12 ∧ (additive table).represent? 12 = some "VVII" ∧
      (∀ ks, Repeats (weighted table) 12 ks → ks = [2, 0, 2, 0] ∨ List.Lex (· < ·) ks [2, 0, 2, 0]) ∧
      Repeats (weighted table) 12 [1, 0, 0, 1] := by
  intro table
  have htext : (additive table).represent? 12 = some "VVII" := by decide
  have hgreedy : Greedy ((weighted table).map Prod.fst) 12 [2, 0, 2, 0] 0 :=
    .cons (by decide) (by decide) (.cons (by decide) (by decide)
      (.cons (by decide) (by decide) (.cons (by decide) (by decide) (.nil 0))))
  obtain ⟨-, -, hpos⟩ := additive_greedy table (n := 12) (by decide) (by decide)
  obtain ⟨ms, left, -, hunique, -, hnumeral, -⟩ := hpos (by decide)
  obtain ⟨rfl, rfl⟩ := hunique _ _ hgreedy
  exact ⟨by decide, by decide, htext, (hnumeral _ htext).2.2, ⟨rfl, rfl⟩⟩

end CounterSystem
end Rubric
