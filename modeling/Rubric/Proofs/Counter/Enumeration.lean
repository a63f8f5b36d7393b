import Mathlib.Data.List.Shortlex
import Rubric.Proofs.Counter.Injective
import Rubric.Proofs.Counter.Words

/-!
# Words in order

Bijective notation numbers the words over its symbols from one up.

* `Numeral.IsBijective b n ds` : the digits are from one to `b`, and they are worth `n` in base `b`;
  `bijectiveDigits_unique` : there is one list of them;
* `Numeral.Precedes cs s t` : one text is shorter than another, or as long and earlier character by character, in
  the order of `cs`;
* `shortlex_bijectiveDigits` : the digits of a greater number come later;
* `CounterSystem.alphabetic_enumerates` : numerals follow one another in this order, and no word is left out.
-/

namespace Rubric
namespace Numeral

/-! ## Digits -/

/-- Digits from one up to the base that are worth a number. -/
structure IsBijective (b n : Nat) (ds : List Nat) : Prop where
  pos : ∀ d ∈ ds, 1 ≤ d
  le : ∀ d ∈ ds, d ≤ b
  worth : worth b ds = n

theorem isBijective {b : Nat} (hb : 2 ≤ b) (n : Nat) : IsBijective b n ((bijectiveDigits b n).map (· + 1)) where
  pos := List.forall_mem_map.2 fun _ _ => Nat.succ_pos _
  le := List.forall_mem_map.2 fun _ hd => bijectiveDigits_lt _ hd
  worth := worth_bijectiveDigits hb n

/-- The last digit and the others are found by division. -/
theorem bijectiveDigits_unique {b n : Nat} {ds : List Nat} (hb : 2 ≤ b) (h : IsBijective b n ds) :
    ds = (bijectiveDigits b n).map (· + 1) := by
  induction ds using List.reverseRecOn generalizing n with
  | nil =>
    rw [← h.worth, worth_nil, bijectiveDigits_zero, List.map_nil]
  | append_singleton ds d ih =>
    have hpos := h.pos d (List.mem_append_right _ (List.mem_singleton_self d))
    have hle := h.le d (List.mem_append_right _ (List.mem_singleton_self d))
    have hworth : b * worth b ds + d = n := (worth_concat b ds d).symm.trans h.worth
    have hn : n - 1 = d - 1 + b * worth b ds := by omega
    have hdiv : (n - 1) / b = worth b ds := by
      rw [hn, Nat.add_mul_div_left _ _ (by omega), Nat.div_eq_of_lt (by omega), Nat.zero_add]
    have hmod : (n - 1) % b = d - 1 := by
      rw [hn, Nat.add_mul_mod_self_left, Nat.mod_eq_of_lt (by omega)]
    have hfront : IsBijective b (worth b ds) ds :=
      ⟨fun e he => h.pos e (List.mem_append_left _ he), fun e he => h.le e (List.mem_append_left _ he), rfl⟩
    rw [bijectiveDigits_of_pos hb (by omega), hdiv, hmod, List.map_append, ← ih hfront, List.map_singleton,
      Nat.sub_add_cancel hpos]

/-! ## The order of words -/

theorem lex_append {r : Nat → Nat → Prop} {s t : List Nat} (hlength : s.length = t.length) (h : List.Lex r s t)
    (u v : List Nat) : List.Lex r (s ++ u) (t ++ v) := by
  induction h with
  | nil => cases hlength
  | cons _ ih => exact .cons (ih (Nat.succ.inj hlength))
  | rel h => exact .rel h

theorem shortlex_concat {s t : List Nat} (h : List.Shortlex (· < ·) s t) (d e : Nat) :
    List.Shortlex (· < ·) (s ++ [d]) (t ++ [e]) := by
  rcases List.shortlex_def.1 h with hlt | ⟨heq, hlex⟩
  · exact .of_length_lt (by simpa using hlt)
  · exact .of_lex (by simpa using heq) (lex_append heq hlex _ _)

/-- A greater number comes later. -/
theorem shortlex_bijectiveDigits {b n m : Nat} (hb : 2 ≤ b) (h : n < m) :
    List.Shortlex (· < ·) (bijectiveDigits b n) (bijectiveDigits b m) := by
  induction m using Nat.strongRecOn generalizing n with
  | ind m ih =>
    rw [bijectiveDigits_of_pos hb (by omega : 0 < m)]
    rcases Nat.eq_zero_or_pos n with rfl | hn
    · rw [bijectiveDigits_zero]
      exact .of_length_lt (by simp)
    rw [bijectiveDigits_of_pos hb hn]
    have hle : (n - 1) / b ≤ (m - 1) / b := Nat.div_le_div_right (by omega)
    rcases Nat.lt_or_eq_of_le hle with hlt | heq
    · have hrest : (m - 1) / b < m := Nat.lt_of_le_of_lt (Nat.div_le_self ..) (by omega)
      exact shortlex_concat (ih _ hrest hlt) _ _
    · have hlast : (n - 1) % b < (m - 1) % b := by
        have hsplit := Nat.div_add_mod (n - 1) b
        have hsplit' := Nat.div_add_mod (m - 1) b
        rw [heq] at hsplit
        omega
      have hone := (List.shortlex_singleton_iff (r := (· < ·)) _ _).2 hlast
      rw [heq]
      exact hone.append_left _

/-- A text is shorter than another, or as long and earlier in the order of some characters. -/
def Precedes (cs : List Char) (s t : String) : Prop :=
  List.Shortlex (· < ·) (s.toList.map (cs.idxOf ·)) (t.toList.map (cs.idxOf ·))

theorem Precedes.asymm {cs : List Char} {s t : String} (h : Precedes cs s t) : ¬Precedes cs t s :=
  Std.Asymm.asymm (r := List.Shortlex (· < ·)) _ _ h

theorem spell_map_idxOf {cs : List Char} {t : String} (ht : ∀ c ∈ t.toList, c ∈ cs) :
    spell (cs.map String.singleton) (t.toList.map (cs.idxOf ·)) = t := by
  rw [← String.toList_inj, toList_spell, List.flatMap_map]
  generalize t.toList = l at ht
  induction l with
  | nil => rfl
  | cons c l ih =>
    obtain ⟨hc, hl⟩ := List.forall_mem_cons.1 ht
    rw [List.flatMap_cons, ih hl, List.getElem?_idxOf hc]
    rfl

end Numeral

/-! ## The numerals of an alphabet -/

namespace CounterSystem
open Numeral
open CounterRule (maxMagnitude)

section Alphabetic
variable {symbols : List String} {cs : List Char} {n m : Nat} {s t : String}

theorem represent?_alphabetic (hsymbols : 2 ≤ symbols.length) (hn : 0 < n) :
    (alphabetic symbols).represent? n = some (spell symbols (bijectiveDigits symbols.length n)) := by
  rw [represent?_natCast rfl, spell?, Numeral.alphabetic, if_neg (by omega)]

theorem map_idxOf_of_alphabetic (hcs : cs.Nodup) (hlength : 2 ≤ cs.length) (hn : 0 < n)
    (h : (alphabetic (cs.map String.singleton)).represent? n = some t) :
    t.toList.map (cs.idxOf ·) = bijectiveDigits cs.length n ∧ ∀ c ∈ t.toList, c ∈ cs := by
  rw [represent?_alphabetic (by rwa [List.length_map]) hn, List.length_map] at h
  obtain ⟨hplaces, hmem⟩ := eq_map_idxOf_of_spell hcs bijectiveDigits_lt (Option.some.inj h)
  exact ⟨hplaces.symm, hmem⟩

theorem precedes_of_lt (hcs : cs.Nodup) (hlength : 2 ≤ cs.length) (hn : 0 < n) (h : n < m)
    (hs : (alphabetic (cs.map String.singleton)).represent? n = some s)
    (ht : (alphabetic (cs.map String.singleton)).represent? m = some t) : Precedes cs s t := by
  rw [Precedes, (map_idxOf_of_alphabetic hcs hlength hn hs).1,
    (map_idxOf_of_alphabetic hcs hlength (by omega) ht).1]
  exact shortlex_bijectiveDigits hlength h

theorem exists_represent?_alphabetic (hlength : 2 ≤ cs.length) (hne : t ≠ "")
    (ht : ∀ c ∈ t.toList, c ∈ cs) : ∃ n : Nat, 0 < n ∧ (alphabetic (cs.map String.singleton)).represent? n = some t := by
  let ds := t.toList.map fun c => cs.idxOf c + 1
  have hdigits : IsBijective cs.length (worth cs.length ds) ds :=
    ⟨List.forall_mem_map.2 fun c _ => Nat.succ_pos _,
      List.forall_mem_map.2 fun c hc => List.idxOf_lt_length_iff.2 (ht c hc), rfl⟩
  have hplaces : bijectiveDigits cs.length (worth cs.length ds) = t.toList.map (cs.idxOf ·) := by
    have hmap := bijectiveDigits_unique hlength hdigits
    refine List.map_injective_iff.2 (Nat.succ_injective) ?_
    rw [List.map_map]
    exact hmap.symm
  have hpos : 0 < worth cs.length ds := by
    refine Nat.pos_of_ne_zero fun hzero => hne (String.toList_eq_nil_iff.1 ?_)
    rw [hzero, bijectiveDigits_zero] at hplaces
    exact List.map_eq_nil_iff.1 hplaces.symm
  refine ⟨_, hpos, ?_⟩
  rw [represent?_alphabetic (by rwa [List.length_map]) hpos, List.length_map, hplaces, spell_map_idxOf ht]

end Alphabetic

/-- For every list of at least two symbols, a count from one up is written, without a fault in machine words, by
its digits in bijective notation, of which there is one list. If the symbols are characters, and no two the
same, then greater counts have later words, and no word in front of a numeral is left out. -/
theorem alphabetic_enumerates (symbols : List String) (hsymbols : 2 ≤ symbols.length) :
    (∀ n : Nat, 0 < n → n ≤ maxMagnitude →
      Word.core (alphabetic symbols) n = .ok ((alphabetic symbols).represent? n) ∧
      ∃ ds, IsBijective symbols.length n ds ∧ (∀ es, IsBijective symbols.length n es → es = ds) ∧
        (alphabetic symbols).represent? n = some (String.join (ds.map fun d => symbols.getD (d - 1) ""))) ∧
    ∀ cs : List Char, cs.Nodup → symbols = cs.map String.singleton →
      (∀ n m : Nat, 0 < n → n < m → ∃ s t, (alphabetic symbols).represent? n = some s ∧
        (alphabetic symbols).represent? m = some t ∧ Precedes cs s t) ∧
      ∀ n : Nat, 0 < n → ∀ t, (alphabetic symbols).represent? n = some t → t ≠ "" ∧ (∀ c ∈ t.toList, c ∈ cs) ∧
        ∀ s, s ≠ "" → (∀ c ∈ s.toList, c ∈ cs) → Precedes cs s t →
          ∃ m : Nat, 0 < m ∧ m < n ∧ (alphabetic symbols).represent? m = some s := by
  refine ⟨fun n hn hmax => ⟨?_, _, isBijective hsymbols n, fun es hes => bijectiveDigits_unique hsymbols hes, ?_⟩, ?_⟩
  · have hmax : n ≤ 9223372036854775807 := hmax
    exact Word.alphabetic_eq ⟨by omega, by omega⟩
  · rw [represent?_alphabetic hsymbols hn, List.map_map]
    rfl
  rintro cs hcs rfl
  have hlength : 2 ≤ cs.length := by rwa [List.length_map] at hsymbols
  refine ⟨fun n m hn h => ?_, fun n hn t ht => ?_⟩
  · have hs := represent?_alphabetic hsymbols hn
    have ht := represent?_alphabetic hsymbols (hn.trans h)
    exact ⟨_, _, hs, ht, precedes_of_lt hcs hlength hn h hs ht⟩
  refine ⟨?_, (map_idxOf_of_alphabetic hcs hlength hn ht).2, fun s hne hs hprecedes => ?_⟩
  · have hinked : (alphabetic (cs.map String.singleton)).Inked :=
      List.forall_mem_map.2 fun _ _ => String.singleton_ne_empty
    rintro rfl
    exact represent?_ne_empty hinked _ ht
  · obtain ⟨m, hm, hspelled⟩ := exists_represent?_alphabetic hlength hne hs
    refine ⟨m, hm, ?_, hspelled⟩
    by_contra hle
    rcases Nat.lt_or_eq_of_le (Nat.le_of_not_lt hle) with hlt | rfl
    · exact hprecedes.asymm (precedes_of_lt hcs hlength hn hlt ht hspelled)
    · obtain rfl := Option.some.inj (hspelled.symm.trans ht)
      exact hprecedes.asymm hprecedes

/-- Thirteen is the first word of three letters. The last word of two letters stands in front of it. -/
theorem alphabetic_enumerates_abc :
    let symbols := ["a", "b", "c"]
    2 ≤ symbols.length ∧ (alphabetic symbols).represent? 13 = some "aaa" ∧ Precedes ['a', 'b', 'c'] "cc" "aaa" ∧
      ∃ m : Nat, 0 < m ∧ m < 13 ∧ (alphabetic symbols).represent? m = some "cc" := by
  intro symbols
  have hlength : 2 ≤ symbols.length := by decide
  obtain ⟨hdigits, hwords⟩ := alphabetic_enumerates symbols hlength
  obtain ⟨-, ds, -, hunique, hnumeral⟩ := hdigits 13 (by decide) (by decide)
  have hds : [1, 1, 1] = ds := hunique _ ⟨by decide, by decide, by decide⟩
  have htext : (alphabetic symbols).represent? 13 = some "aaa" := by
    rw [← hds] at hnumeral
    exact hnumeral
  have hprecedes : Precedes ['a', 'b', 'c'] "cc" "aaa" := .of_length_lt (by decide)
  obtain ⟨-, -, hsegment⟩ := (hwords ['a', 'b', 'c'] (by decide) rfl).2 13 (by decide) "aaa" htext
  have hletters : ∀ c ∈ "cc".toList, c ∈ ['a', 'b', 'c'] := by
    intro c hc
    obtain rfl : c = 'c' := by simpa using hc
    decide
  exact ⟨hlength, htext, hprecedes, hsegment "cc" (by decide) hletters hprecedes⟩

end CounterSystem
end Rubric
