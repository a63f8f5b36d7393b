import Rubric.Proofs.Counter.Injective
import Rubric.Proofs.Counter.Shelf

/-!
# Positional numerals and decimal text

* `digits_worth`, `isPositional_iff` : the digits that are written are the only ones without a zero in front;
* `spell_european` : decimal text spells them;
* `represent?_numeric` : so does every positional numeral;
* `Registry.represent?_decimal` : the decimal style writes a count as its decimal text, or leaves it out;
* `Registry.positional_exact` : both, without a fault, and what a style with the decimal one behind it gives.
-/

namespace Rubric
namespace Numeral
variable {b n : Nat} {ds : List Nat}

/-! ## Digits -/

/-- Digits that do not begin with zero are found again by division, the last one first. -/
theorem digits_worth (hb : 2 ≤ b) (hlt : ∀ d ∈ ds, d < b) (hhead : ds.head? ≠ some 0) :
    digits b (worth b ds) = ds := by
  induction ds using List.reverseRecOn with
  | nil => rw [worth_nil, digits_zero]
  | append_singleton ds d ih =>
    have hd : d < b := hlt d (List.mem_append_right _ (List.mem_singleton_self d))
    have hfront : digits b (worth b ds) = ds := by
      refine ih (fun e he => hlt e (List.mem_append_left _ he)) fun hzero => hhead ?_
      rw [List.head?_append, hzero, Option.some_or]
    have hpos : 0 < b * worth b ds + d := by
      refine Nat.pos_of_ne_zero fun hzero => ?_
      obtain ⟨hmul, rfl⟩ := Nat.add_eq_zero_iff.1 hzero
      have hworth : worth b ds = 0 := (Nat.mul_eq_zero.1 hmul).resolve_left (by omega)
      rw [hworth, digits_zero] at hfront
      exact hhead (by rw [← hfront]; rfl)
    have hdiv : (b * worth b ds + d) / b = worth b ds := by
      rw [Nat.mul_add_div (by omega), Nat.div_eq_of_lt hd, Nat.add_zero]
    rw [worth_concat, digits_of_pos hb hpos, hdiv, hfront, Nat.mul_add_mod, Nat.mod_eq_of_lt hd]

/-- The digits that are written are the only ones. -/
theorem isPositional_iff (hb : 2 ≤ b) : IsPositional b n ds ↔ ds = writtenDigits b n := by
  refine ⟨fun h => ?_, fun h => h ▸ isPositional_writtenDigits hb n⟩
  by_cases hzero : ds.head? = some 0
  · have hds := h.leading hzero
    have hn := h.worth
    rw [hds] at hn
    rw [hds, ← hn]
    rfl
  · have hdigits := digits_worth hb h.lt hzero
    rw [h.worth] at hdigits
    have hn : 0 < n := Nat.pos_of_ne_zero fun hn => h.ne_nil (by rw [← hdigits, hn, digits_zero])
    rw [writtenDigits_of_pos hn, hdigits]

/-! ## Their text -/

theorem repr_eq_ofList (n : Nat) : n.repr = String.ofList ((writtenDigits 10 n).map Nat.digitChar) := by
  rw [← String.toList_inj, Nat.toList_repr, String.toList_ofList]
  rcases Nat.eq_zero_or_pos n with rfl | hn
  · rfl
  · rw [writtenDigits_of_pos hn, toDigits_eq_map hn]

theorem getElem?_european : ∀ d < 10, "0123456789".toList[d]? = some (Nat.digitChar d) := by decide

/-- Decimal text spells the digits of a number. -/
theorem spell_european (n : Nat) : spell (Registry.glyphs "0123456789") (writtenDigits 10 n) = n.repr := by
  have hlt := (isPositional_writtenDigits (by decide : 2 ≤ 10) n).lt
  rw [repr_eq_ofList, ← String.toList_inj, String.toList_ofList, Registry.glyphs, toList_spell]
  generalize writtenDigits 10 n = ds at hlt
  induction ds with
  | nil => rfl
  | cons d ds ih =>
    obtain ⟨hd, hrest⟩ := List.forall_mem_cons.1 hlt
    rw [List.flatMap_cons, getElem?_european d hd, ih hrest]
    rfl

end Numeral

namespace CounterSystem
open Numeral

/-- A positional numeral spells the digits of the number. -/
theorem represent?_numeric {symbols : List String} (hsymbols : 2 ≤ symbols.length) (n : Nat) :
    (numeric symbols).represent? n = some (spell symbols (writtenDigits symbols.length n)) := by
  rw [represent?_natCast rfl]
  exact positional_eq hsymbols n

end CounterSystem

namespace Registry
open Numeral
open CounterRule (maxMagnitude)

/-! ## The decimal style -/

theorem represent?_european (n : Nat) : decimal.rule.system.represent? n = some n.repr :=
  (CounterSystem.represent?_numeric (by decide) n).trans (congrArg some (spell_european n))

theorem isSigned_decimal (n : Int) : decimal.rule.isSigned n = decide (n < 0) := Bool.and_true _

/-- The decimal style writes a count as its decimal text, or leaves it out because it has no magnitude. -/
theorem represent?_decimal (n : Int) : decimal.rule.represent? n =
    if n < 0 ∧ maxMagnitude < n.natAbs then none else some (toString n) := by
  have hwrap (signed : Bool) (core : String) :
      decimal.rule.wrap signed core = if signed then "-" ++ core else core := by
    cases signed with
    | false => simp [CounterRule.wrap, CounterRule.fill, decimal, CounterStyle.ofRule]
    | true => simp [CounterRule.wrap, CounterRule.fill, decimal, CounterStyle.ofRule]
  have hrange : decimal.rule.range.contains n = true := CounterRange.contains_unbounded n
  rw [CounterRule.represent?, if_pos hrange, CounterRule.core?]
  cases n with
  | ofNat k =>
    have hpos : ¬Int.ofNat k < 0 := Int.not_lt.2 (Int.natCast_nonneg k)
    rw [isSigned_decimal, decide_eq_false hpos, if_neg Bool.false_ne_true, if_neg fun h => hpos h.1]
    show (decimal.rule.system.represent? k).map _ = _
    rw [represent?_european, Option.map_some, hwrap]
    rfl
  | negSucc k =>
    have hneg : Int.negSucc k < 0 := Int.negSucc_lt_zero k
    rw [isSigned_decimal, decide_eq_true hneg, if_pos rfl]
    by_cases hmagnitude : (Int.negSucc k).natAbs ≤ maxMagnitude
    · rw [if_pos hmagnitude, if_neg fun h => Nat.not_lt.2 hmagnitude h.2, represent?_european, Option.map_some, hwrap]
      rfl
    · rw [if_neg hmagnitude, if_pos ⟨hneg, Nat.not_le.1 hmagnitude⟩]
      rfl

/-- What the decimal style leaves out is written as decimal text as well. -/
theorem format_decimal (n : Int) : decimal.format n = toString n := by
  rw [CounterStyle.format_eq, represent?_decimal]
  split
  · rfl
  · rfl

/-- Nothing changes when the decimal style is put behind the last style of a chain. -/
theorem format_append_decimal (s : CounterStyle) (n : Int) :
    CounterStyle.format ⟨s.rule, s.fallbacks ++ decimal.rules⟩ n = s.format n := by
  have hdecimal : (decimal.rules.findSome? (·.represent? n)).getD (toString n) = toString n := format_decimal n
  have hrules : CounterStyle.rules ⟨s.rule, s.fallbacks ++ decimal.rules⟩ = s.rules ++ decimal.rules := rfl
  rw [CounterStyle.format, hrules, List.findSome?_append, CounterStyle.format]
  cases s.rules.findSome? (·.represent? n) with
  | none => exact hdecimal
  | some t => rfl

theorem fits_decimal : decimal.rule.Fits := by decide

/-- Positional numerals and decimal text. A count from zero up has one list of digits to any base, and the positional
numeral over at least two symbols is made of the symbols of these digits in their order. The decimal style is one of
the predefined ones. It writes every count of 64 bits as decimal text: all but the least one by its own digits and
sign, and the least one, which its rule leaves out, as the text of last resort. So a chain of styles gives the same
text with the decimal style at its end and without. -/
theorem positional_exact :
    (∀ symbols : List String, 2 ≤ symbols.length → ∀ n : Nat, Word.IsSigned n →
      (∃! ds, IsPositional symbols.length n ds) ∧ ∀ ds, IsPositional symbols.length n ds →
        Word.core (.numeric symbols) n = .ok (some (String.join (ds.map fun d => symbols.getD d "")))) ∧
      find? "decimal" = some decimal ∧
      (∀ n, Word.IsSigned n → decimal.format n = toString n ∧
        decimal.rule.tried n = .ok (if n = -9223372036854775808 then none else some (toString n))) ∧
      ∀ (s : CounterStyle) (n : Int),
        CounterStyle.format ⟨s.rule, s.fallbacks ++ decimal.rules⟩ n = s.format n := by
  refine ⟨fun symbols hsymbols n hn => ⟨?_, fun ds hds => ?_⟩, rfl, fun n hn => ⟨format_decimal n, ?_⟩,
    format_append_decimal⟩
  · exact ⟨_, isPositional_writtenDigits hsymbols n, fun ds => (isPositional_iff hsymbols).1⟩
  · rw [(isPositional_iff hsymbols).1 hds]
    exact (Word.numeric_eq hn).trans (congrArg _ (CounterSystem.represent?_numeric hsymbols n))
  · obtain ⟨hlow, hhigh⟩ := hn
    have hleast : (n < 0 ∧ maxMagnitude < n.natAbs) ↔ n = -9223372036854775808 := by
      simp only [maxMagnitude]
      omega
    rw [CounterRule.tried_eq fits_decimal ⟨hlow, hhigh⟩, represent?_decimal]
    simp only [hleast]

/-- Ten in base two, and the least count. -/
theorem positional_exact_least :
    Word.core (.numeric (glyphs "01")) 10 = .ok (some "1010") ∧
      decimal.format (-9223372036854775808) = "-9223372036854775808" ∧
      decimal.rule.tried (-9223372036854775808) = .ok none ∧
      CounterStyle.format ⟨decimal.rule, decimal.rules⟩ (-9223372036854775808) = "-9223372036854775808" := by
  obtain ⟨hpositional, -, hdecimal, hchain⟩ := positional_exact
  have hdigits : IsPositional 2 10 [1, 0, 1, 0] := ⟨by decide, by decide, by decide, by decide⟩
  obtain ⟨hformat, htried⟩ := hdecimal (-9223372036854775808) (by decide)
  exact ⟨(hpositional (glyphs "01") (by decide) 10 (by decide)).2 [1, 0, 1, 0] hdigits, hformat, htried,
    (hchain ⟨decimal.rule, []⟩ _).trans hformat⟩

end Registry
end Rubric
