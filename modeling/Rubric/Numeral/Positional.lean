/-!
# Positional numerals

* `digits b n` : the base-`b` digits of `n`, most significant first, none for zero;
* `bijectiveDigits b n` : the digits of `n` in the notation without a zero, counted from `0`;
* `spell symbols ds` : the digits written with a table of symbols.
-/

namespace Rubric.Numeral

/-- Base-`b` digits, most significant first. Zero has none, and a base below two gives none. -/
def digits (b n : Nat) : List Nat :=
  if _ : 2 ≤ b ∧ 0 < n then digits b (n / b) ++ [n % b] else []
termination_by n
decreasing_by rename_i h; exact Nat.div_lt_self h.2 h.1

/-- Bijective base-`b` digits, most significant first, each written as one less than its worth:
the words over `b` symbols, shortest first, are numbered from one. -/
def bijectiveDigits (b n : Nat) : List Nat :=
  if _ : 2 ≤ b ∧ 0 < n then bijectiveDigits b ((n - 1) / b) ++ [(n - 1) % b] else []
termination_by n
decreasing_by rename_i h; exact Nat.lt_of_le_of_lt (Nat.div_le_self ..) (Nat.sub_lt h.2 Nat.one_pos)

def spell (symbols : List String) (ds : List Nat) : String :=
  String.join (ds.map fun d => symbols.getD d "")

/-- A count in positional notation; the first symbol is zero and the number of symbols the base. -/
def positional (symbols : List String) (n : Nat) : Option String :=
  if symbols.length < 2 then none
  else if n = 0 then symbols.head?
  else some (spell symbols (digits symbols.length n))

/-- A count from one up in bijective notation over the symbols. -/
def alphabetic (symbols : List String) (n : Nat) : Option String :=
  if symbols.length < 2 ∨ n = 0 then none
  else some (spell symbols (bijectiveDigits symbols.length n))

/-! ## One step of each -/

@[simp] theorem digits_zero (b : Nat) : digits b 0 = [] := by
  unfold digits; simp

theorem digits_of_pos {b n : Nat} (hb : 2 ≤ b) (hn : 0 < n) :
    digits b n = digits b (n / b) ++ [n % b] := by
  rw [digits, dif_pos ⟨hb, hn⟩]

@[simp] theorem bijectiveDigits_zero (b : Nat) : bijectiveDigits b 0 = [] := by
  unfold bijectiveDigits; simp

theorem bijectiveDigits_of_pos {b n : Nat} (hb : 2 ≤ b) (hn : 0 < n) :
    bijectiveDigits b n = bijectiveDigits b ((n - 1) / b) ++ [(n - 1) % b] := by
  rw [bijectiveDigits, dif_pos ⟨hb, hn⟩]

@[simp] theorem spell_nil (symbols : List String) : spell symbols [] = "" := rfl

end Rubric.Numeral
