import Rubric.Counter.Registry
import Mathlib.Data.List.GetD
import Mathlib.Data.List.Nodup

/-!
# Numerals are not empty

* `CounterSystem.Inked` : no symbol of a system is the empty text;
* `represent?_ne_empty` : a system with such symbols writes no count as the empty text;
* `Registry.format_ne_empty` : neither does a predefined style;
* `Registry.nodup_names` : no two styles and aliases have the same name;
* `Registry.find?_name` : a predefined style is found by its own name.
-/

namespace Rubric
namespace Numeral

theorem append_ne_empty_right {s t : String} (h : t ≠ "") : s ++ t ≠ "" := fun heq =>
  h (String.append_eq_empty_iff.1 heq).2

theorem append_ne_empty_left {s t : String} (h : s ≠ "") : s ++ t ≠ "" := fun heq =>
  h (String.append_eq_empty_iff.1 heq).1

/-! ## Digits -/

theorem digits_lt {b n : Nat} : ∀ d ∈ digits b n, d < b := by
  induction n using Nat.strongRecOn with
  | ind n ih =>
    intro d hd
    by_cases h : 2 ≤ b ∧ 0 < n
    · rw [digits_of_pos h.1 h.2] at hd
      rcases List.mem_append.1 hd with hd | hd
      · exact ih (n / b) (Nat.div_lt_self h.2 h.1) d hd
      · rw [List.mem_singleton.1 hd]
        exact Nat.mod_lt _ (by omega)
    · rw [digits, dif_neg h] at hd
      cases hd

theorem digits_eq_cons {b n : Nat} (hb : 2 ≤ b) (hn : 0 < n) :
    ∃ d ds, digits b n = d :: ds ∧ d ≠ 0 := by
  induction n using Nat.strongRecOn with
  | ind n ih =>
    rw [digits_of_pos hb hn]
    by_cases h : 0 < n / b
    · obtain ⟨d, ds, heq, hd⟩ := ih (n / b) (Nat.div_lt_self hn hb) h
      rw [heq]
      exact ⟨d, ds ++ [n % b], rfl, hd⟩
    · have hzero : n / b = 0 := Nat.eq_zero_of_not_pos h
      have hlt : n < b := (Nat.div_eq_zero_iff_lt (by omega)).1 hzero
      rw [hzero, digits_zero, Nat.mod_eq_of_lt hlt]
      exact ⟨n, [], rfl, by omega⟩

/-! ## The systems, one by one -/

theorem spell_ne_empty {symbols : List String} (hs : ∀ t ∈ symbols, t ≠ "") (ds : List Nat) {d : Nat}
    (hd : d < symbols.length) : spell symbols (ds ++ [d]) ≠ "" := by
  have hget : symbols.getD d "" = symbols[d] := by simp [hd]
  rw [spell, List.map_append, String.join_append, List.map_singleton, hget, String.join_cons]
  refine append_ne_empty_right (append_ne_empty_left ?_)
  exact hs _ (List.getElem_mem hd)

theorem positional_ne_empty {symbols : List String} (hs : ∀ t ∈ symbols, t ≠ "") (n : Nat) :
    positional symbols n ≠ some "" := by
  rw [positional]
  split
  · simp
  · rename_i hb
    split
    · exact fun h => hs "" (List.mem_of_head? h) rfl
    · rename_i hn
      rw [digits_of_pos (by omega) (Nat.pos_of_ne_zero hn)]
      have := spell_ne_empty hs (digits symbols.length (n / symbols.length))
        (Nat.mod_lt n (by omega : 0 < symbols.length))
      simpa using this

theorem alphabetic_ne_empty {symbols : List String} (hs : ∀ t ∈ symbols, t ≠ "") (n : Nat) :
    alphabetic symbols n ≠ some "" := by
  rw [alphabetic]
  split
  · simp
  · rename_i hb
    rw [bijectiveDigits_of_pos (by omega) (by omega)]
    have := spell_ne_empty hs (bijectiveDigits symbols.length ((n - 1) / symbols.length))
      (Nat.mod_lt (n - 1) (by omega : 0 < symbols.length))
    simpa using this

theorem replicateText_ne_empty {n : Nat} {s : String} (hn : 0 < n) (hs : s ≠ "") :
    replicateText n s ≠ "" := by
  obtain ⟨m, rfl⟩ : ∃ m, n = m + 1 := ⟨n - 1, by omega⟩
  rw [replicateText, List.replicate_succ, String.join_cons]
  exact append_ne_empty_left hs

/-- Something is taken at the end, if not before. -/
theorem additiveFrom_ne_empty {table : List (Nat × String)} (ht : ∀ e ∈ table, e.2 ≠ "") {n : Nat}
    (hn : 0 < n) : additiveFrom table n ≠ some "" := by
  induction table generalizing n with
  | nil => simp [additiveFrom]
  | cons e rest ih =>
    obtain ⟨weight, symbol⟩ := e
    have hrest : ∀ e ∈ rest, e.2 ≠ "" := fun e he => ht e (List.mem_cons_of_mem _ he)
    rw [additiveFrom]
    split
    · exact ih hrest hn
    · split
      · rename_i hw hzero
        have hpos : 0 < n / weight := by
          have := Nat.div_add_mod n weight
          rw [hzero] at this
          rcases Nat.eq_zero_or_pos (n / weight) with h | h
          · rw [h] at this
            omega
          · exact h
        have := replicateText_ne_empty hpos (ht _ (List.mem_cons_self ..))
        simpa using this
      · rename_i hw hrem
        intro h
        obtain ⟨t, ht', heq⟩ := Option.map_eq_some_iff.1 h
        have : t ≠ "" := fun h => ih hrest (by omega : 0 < n % weight) (h ▸ ht')
        exact append_ne_empty_right this heq

theorem additive_ne_empty {table : List (Nat × String)} (ht : ∀ e ∈ table, e.2 ≠ "") (n : Nat) :
    additive table n ≠ some "" := by
  rw [additive]
  split
  · intro h
    obtain ⟨e, he, hzero⟩ := Option.map_eq_some_iff.1 h
    exact ht e (List.mem_of_find?_eq_some he) hzero
  · rename_i hn
    exact additiveFrom_ne_empty ht (Nat.pos_of_ne_zero hn)

theorem symbolic_ne_empty {symbols : List String} (hs : ∀ t ∈ symbols, t ≠ "") (n : Nat) :
    symbolic symbols n ≠ some "" := by
  rw [symbolic]
  split
  · simp
  · dsimp only
    split
    · simp
    · intro h
      obtain ⟨t, ht, heq⟩ := Option.map_eq_some_iff.1 h
      exact replicateText_ne_empty (Nat.succ_pos _) (hs t (List.mem_of_getElem? ht)) heq

theorem ChineseSymbols.write_ne_nil (symbols : ChineseSymbols) (teen gap : Bool) {ds : List Nat}
    (hds : ∀ d ∈ ds, d < 10) (hne : ∃ d ∈ ds, d ≠ 0) : symbols.write teen gap ds ≠ [] := by
  induction ds generalizing gap with
  | nil => simp at hne
  | cons d ds ih =>
    rw [write]
    by_cases hd : d = 0
    · rw [if_pos hd]
      refine ih true (fun e he => hds e (List.mem_cons_of_mem _ he)) ?_
      obtain ⟨e, he, hne⟩ := hne
      exact ⟨e, (List.mem_cons.1 he).resolve_left fun h => hne (h.trans hd), hne⟩
    · rw [if_neg hd]
      have hlt : d < 10 := hds d (List.mem_cons_self ..)
      by_cases hteen : teen = true ∧ ds.length = 1
      · simp [power, hteen.2]
      · rw [if_neg hteen]
        simp [digit, hlt]

theorem chinese_ne_empty (symbols : ChineseSymbols) (n : Nat) : chinese symbols n ≠ some "" := by
  rw [chinese]
  split
  · simp
  · split
    · simp [ChineseSymbols.digit, ← String.toList_inj]
    · rename_i hn
      obtain ⟨d, ds, heq, hd⟩ := digits_eq_cons (b := 10) (by decide) (Nat.pos_of_ne_zero hn)
      have := symbols.write_ne_nil (decide (10 ≤ n ∧ n ≤ 19)) false
        (digits_lt (b := 10) (n := n)) ⟨d, heq ▸ List.mem_cons_self .., hd⟩
      simpa [← String.toList_inj] using this

theorem Ethiopic.pair_ne_nil : ∀ g < 100, g ≠ 0 → pair g ≠ [] := by decide

/-- The first group leaves its mark or that of its place, unless it is a one that stands alone. -/
theorem Ethiopic.write_ne_nil {g : Nat} (gs : List Nat) (hlt : g < 100) (hg : g ≠ 0)
    (hone : g = 1 → gs ≠ []) : write true (g :: gs) ≠ [] := by
  rw [write]
  by_cases h : g = 1
  · have hgs := hone h
    by_cases hodd : gs.length % 2 = 1
    · simp [hodd, h]
    · simp [hodd, hgs]
  · simp [silent, hg, h, pair_ne_nil g hlt hg]

theorem ethiopic_ne_empty (n : Nat) : ethiopic n ≠ some "" := by
  rw [ethiopic]
  split
  · simp
  rename_i hzero
  have hn : 0 < n := Nat.pos_of_ne_zero hzero
  split
  · decide
  · rename_i hone
    obtain ⟨g, gs, heq, hg⟩ := digits_eq_cons (b := 100) (by decide) hn
    have hlt : g < 100 := digits_lt g (heq ▸ List.mem_cons_self ..)
    have hwrite := Ethiopic.write_ne_nil gs hlt hg ?_
    · rw [heq]
      simpa [← String.toList_inj] using hwrite
    · rintro rfl rfl
      rw [digits_of_pos (by decide) hn] at heq
      have hsame : digits 100 (n / 100) ++ [n % 100] = [] ++ [1] := heq
      obtain ⟨hfront, hlast⟩ := List.append_inj' hsame rfl
      have hdiv : n / 100 = 0 := by
        rcases Nat.eq_zero_or_pos (n / 100) with h | h
        · exact h
        · obtain ⟨d, ds, hcons, -⟩ := digits_eq_cons (b := 100) (by decide) h
          rw [hcons] at hfront
          cases hfront
      have hmod : n % 100 = 1 := (List.cons.inj hlast).1
      omega

end Numeral

namespace CounterSystem

/-- No symbol is the empty text. -/
def Inked : CounterSystem → Prop
  | numeric symbols | alphabetic symbols | symbolic symbols | cyclic symbols | fixed _ symbols =>
    ∀ t ∈ symbols, t ≠ ""
  | additive table => ∀ e ∈ table, e.2 ≠ ""
  | chinese _ | ethiopic => True

instance (s : CounterSystem) : Decidable s.Inked :=
  match s with
  | numeric _ | alphabetic _ | symbolic _ | cyclic _ | fixed .. | additive _ =>
    inferInstanceAs (Decidable (∀ _ ∈ _, _))
  | chinese _ | ethiopic => inferInstanceAs (Decidable True)

theorem tableEntry?_ne_empty (first : Int) {symbols : List String} (hs : ∀ t ∈ symbols, t ≠ "") (n : Int) :
    tableEntry? first symbols n ≠ some "" := by
  rw [ tableEntry?]
  split
  · simp
  · exact fun ht => hs "" (List.mem_of_getElem? ht) rfl

theorem spell?_ne_empty {s : CounterSystem} (h : s.Inked) (n : Nat) : s.spell? n ≠ some "" := by
  cases s with
  | numeric symbols => exact Numeral.positional_ne_empty h n
  | alphabetic symbols => exact Numeral.alphabetic_ne_empty h n
  | additive table => exact Numeral.additive_ne_empty h n
  | symbolic symbols => exact Numeral.symbolic_ne_empty h n
  | cyclic symbols =>
    rw [spell?, cycleEntry?]
    split
    · simp
    · exact fun ht => h "" (List.mem_of_getElem? ht) rfl
  | fixed first symbols => exact tableEntry?_ne_empty first h n
  | chinese symbols => exact Numeral.chinese_ne_empty symbols n
  | ethiopic => exact Numeral.ethiopic_ne_empty n

/-- A system with such symbols writes no count as the empty text. -/
theorem represent?_ne_empty {s : CounterSystem} (h : s.Inked) (n : Int) : s.represent? n ≠ some "" := by
  cases s with
  | fixed first symbols => exact tableEntry?_ne_empty first h n
  | _ =>
    rw [represent?]
    · split
      · simp
      · exact spell?_ne_empty h n.toNat
    · intros
      contradiction

end CounterSystem

namespace CounterRule
open Numeral

theorem core?_ne_empty {r : CounterRule} (h : r.system.Inked) (n : Int) : r.core? n ≠ some "" := by
  rw [core?]
  split
  · split
    · exact CounterSystem.represent?_ne_empty h _
    · simp
  · exact CounterSystem.represent?_ne_empty h n

theorem wrap_ne_empty (r : CounterRule) (signed : Bool) {core : String} (h : core ≠ "") :
    r.wrap signed core ≠ "" := by
  have hbody := append_ne_empty_right (s := r.fill signed core.length) h
  refine append_ne_empty_left (append_ne_empty_right ?_)
  split
  · exact append_ne_empty_left (append_ne_empty_right hbody)
  · exact hbody

theorem represent?_ne_empty {r : CounterRule} (h : r.system.Inked) {n : Int} {t : String}
    (ht : r.represent? n = some t) : t ≠ "" := by
  rw [represent?] at ht
  split at ht
  · obtain ⟨core, hcore, rfl⟩ := Option.map_eq_some_iff.1 ht
    exact r.wrap_ne_empty _ fun heq => core?_ne_empty h n (heq ▸ hcore)
  · cases ht

end CounterRule

namespace CounterStyle

theorem toString_ne_empty (n : Int) : toString n ≠ "" := by
  cases n with
  | ofNat n =>
    intro heq
    have hlist : (Nat.repr n).toList = [] := congrArg String.toList heq
    rw [Nat.toList_repr] at hlist
    exact Nat.toDigits_ne_nil hlist
  | negSucc n => exact Numeral.append_ne_empty_left (by decide)

/-- A style whose rules have no empty symbols writes no count as the empty text. -/
theorem format_ne_empty {s : CounterStyle} (h : ∀ r ∈ s.rules, r.system.Inked) (n : Int) :
    s.format n ≠ "" := by
  rw [format]
  cases hfirst : s.rules.findSome? (·.represent? n) with
  | none => exact toString_ne_empty n
  | some t =>
    obtain ⟨r, hr, ht⟩ := List.exists_of_findSome?_eq_some hfirst
    exact CounterRule.represent?_ne_empty (h r hr) ht

end CounterStyle

namespace Registry

/-! ## The predefined styles -/

theorem glyphs_ne_empty {s t : String} (h : t ∈ glyphs s) : t ≠ "" := by
  obtain ⟨c, -, rfl⟩ := List.mem_map.1 h
  exact String.singleton_ne_empty

theorem codePoints_ne_empty {first count : Nat} {t : String} (h : t ∈ codePoints first count) :
    t ≠ "" := by
  obtain ⟨i, -, rfl⟩ := List.mem_map.1 h
  exact String.singleton_ne_empty

/-- All rules of a style are made of symbols that are not empty. -/
def Inked (s : CounterStyle) : Prop := ∀ r ∈ s.rules, r.system.Inked

theorem inked_decimal : Inked decimal := by
  intro r hr
  rw [List.mem_singleton.1 hr]
  exact fun _ => glyphs_ne_empty

theorem inked_ofRule {r : CounterRule} (hr : r.system.Inked) {s : CounterStyle} (hs : Inked s) :
    Inked (.ofRule r s) := by
  intro r' hr'
  rcases List.mem_cons.1 hr' with rfl | hr'
  · exact hr
  · exact hs r' hr'

theorem inked_style {r : CounterRule} (hr : r.system.Inked) : Inked (style r) :=
  inked_ofRule hr inked_decimal

theorem inked_cjkDecimal : Inked cjkDecimal := inked_style fun _ => glyphs_ne_empty

theorem inked_chineseStyle (name : String) (symbols : Numeral.ChineseSymbols) (minus : String) :
    Inked (chineseStyle name symbols minus) := by
  refine inked_ofRule ?_ inked_cjkDecimal
  trivial

def weightTables : List (List (Nat × String)) :=
  [Weights.lowerRoman, Weights.upperRoman, Weights.hebrew, Weights.upperArmenian, Weights.lowerArmenian,
    Weights.georgian, Weights.japaneseInformal, Weights.japaneseFormal, Weights.koreanHangulFormal]

theorem inked_weights : ∀ table ∈ weightTables, (CounterSystem.additive table).Inked := by
  decide +kernel

theorem inked_stemBranch : ∀ t ∈ stemBranch, t ≠ "" := by
  intro t ht
  obtain ⟨i, -, rfl⟩ := List.mem_map.1 ht
  have hlength : (glyphs "甲乙丙丁戊己庚辛壬癸").length = 10 := by decide +kernel
  have hstem : (glyphs "甲乙丙丁戊己庚辛壬癸").getD (i % 10) "" ∈ glyphs "甲乙丙丁戊己庚辛壬癸" := by
    rw [List.getD_eq_getElem _ _ (hlength ▸ Nat.mod_lt _ (by decide))]
    exact List.getElem_mem _
  exact Numeral.append_ne_empty_left (glyphs_ne_empty hstem)

theorem inked_circled : ∀ t ∈ circled, t ≠ "" := by
  intro t ht
  simp only [circled, List.mem_append] at ht
  rcases ht with ((ht | ht) | ht) | ht <;> exact codePoints_ne_empty ht

theorem inked_tables : ∀ e ∈ tables, ∀ t ∈ e.2, t ≠ "" := by
  intro e he t ht
  simp only [tables, List.mem_cons, List.not_mem_nil, or_false] at he
  rcases he with rfl | rfl | rfl | rfl | rfl | rfl | rfl | rfl
  iterate 2 exact codePoints_ne_empty ht
  · exact (List.mem_append.1 ht).elim codePoints_ne_empty codePoints_ne_empty
  iterate 4 exact codePoints_ne_empty ht
  · exact inked_stemBranch t ht

theorem inked_bullets : ∀ s ∈ cyclic, ∀ r ∈ s.rules, r.system.Inked := by decide +kernel

theorem inked {s : CounterStyle} (h : s ∈ styles) : Inked s := by
  simp only [styles, List.mem_cons, List.mem_append, List.not_mem_nil, or_false] at h
  rcases h with rfl | rfl | ((((((h | h) | h) | h) | h) | h) | h) | rfl
  · exact inked_decimal
  · exact inked_cjkDecimal
  · simp only [numeric, List.mem_cons, List.mem_append, List.mem_map] at h
    rcases h with (rfl | ⟨e, -, rfl⟩) | ⟨e, -, rfl⟩
    · exact inked_style fun _ => glyphs_ne_empty
    · exact inked_style fun _ => glyphs_ne_empty
    · exact inked_style fun _ => codePoints_ne_empty
  · simp only [alphabetic, List.mem_append, List.mem_map] at h
    rcases h with (⟨e, -, rfl⟩ | ⟨e, -, rfl⟩) | ⟨e, -, rfl⟩
    · exact inked_style fun _ => codePoints_ne_empty
    · exact inked_style fun _ => glyphs_ne_empty
    · exact inked_style fun _ => glyphs_ne_empty
  · simp only [additive, List.mem_cons, List.not_mem_nil, or_false] at h
    rcases h with rfl | rfl | rfl | rfl | rfl | rfl | rfl | rfl | rfl | rfl
    iterate 7 exact inked_style (inked_weights _ (by simp [weightTables]))
    · exact inked_ofRule (inked_weights _ (by simp [weightTables])) inked_cjkDecimal
    · exact inked_ofRule (inked_weights _ (by simp [weightTables])) inked_cjkDecimal
    · exact inked_style (inked_weights _ (by simp [weightTables]))
  · simp only [symbolic, List.mem_cons, List.not_mem_nil, or_false] at h
    rcases h with rfl | rfl | rfl
    · exact inked_style fun _ => codePoints_ne_empty
    · exact inked_style fun _ => codePoints_ne_empty
    · exact inked_style fun _ => glyphs_ne_empty
  · exact inked_bullets s h
  · simp only [fixed, List.mem_cons, List.mem_map] at h
    rcases h with rfl | ⟨e, he, rfl⟩
    · exact inked_style inked_circled
    · exact inked_style (inked_tables e he)
  · simp only [chinese, List.mem_cons, List.not_mem_nil, or_false] at h
    rcases h with rfl | rfl | rfl | rfl <;> exact inked_chineseStyle _ _ _
  · exact inked_style trivial

/-- No predefined style writes a count as the empty text. -/
theorem format_ne_empty {s : CounterStyle} (h : s ∈ styles) (n : Int) : s.format n ≠ "" :=
  CounterStyle.format_ne_empty (inked h) n

/-! ## Names -/

/-- The bytes of a text as one number. -/
def code (s : String) : Nat := s.toByteArray.data.toList.foldl (fun n b => 256 * n + b.toNat) 0

def distinct : List Nat → Bool
  | [] => true
  | n :: rest => rest.all (fun m => !Nat.beq n m) && distinct rest

theorem nodup_of_distinct {l : List Nat} (h : distinct l = true) : l.Nodup := by
  induction l with
  | nil => exact List.nodup_nil
  | cons n rest ih =>
    obtain ⟨hfirst, hrest⟩ := Bool.and_eq_true_iff.1 h
    refine List.nodup_cons.2 ⟨fun hmem => ?_, ih hrest⟩
    simpa using List.all_eq_true.1 hfirst n hmem

theorem distinct_of_nodup {l : List Nat} (h : l.Nodup) : distinct l = true := by
  induction l with
  | nil => rfl
  | cons n rest ih =>
    obtain ⟨hfirst, hrest⟩ := List.nodup_cons.1 h
    refine Bool.and_eq_true_iff.2 ⟨List.all_eq_true.2 fun m hm => ?_, ih hrest⟩
    have hne : n ≠ m := fun heq => hfirst (heq ▸ hm)
    rw [Bool.not_eq_true', Bool.eq_false_iff]
    exact fun heq => hne (Nat.eq_of_beq_eq_true heq)

/-- No two styles and aliases have the same name. -/
theorem nodup_names : (aliases.map Prod.fst ++ styles.map CounterStyle.name).Nodup := by
  -- Numbers compare much faster than texts when the kernel evaluates the check.
  have hcodes : distinct ((aliases.map Prod.fst ++ styles.map CounterStyle.name).map code) = true := by
    decide +kernel
  exact (nodup_of_distinct hcodes).of_map code

theorem canonical_name {s : CounterStyle} (h : s ∈ styles) : canonical s.name = s.name := by
  have hdisjoint := (List.nodup_append.1 nodup_names).2.2
  have hnone : aliases.lookup s.name = none := by
    refine List.lookup_eq_none_iff.2 fun e he => ?_
    have hne := hdisjoint e.1 (List.mem_map.2 ⟨e, he, rfl⟩) s.name (List.mem_map.2 ⟨s, h, rfl⟩)
    simpa using Ne.symm hne
  rw [canonical, hnone, Option.getD_none]

/-- A predefined style is found by its own name. -/
theorem find?_name {s : CounterStyle} (h : s ∈ styles) : find? s.name = some s := by
  have hfind : ∀ {l : List CounterStyle}, (l.map CounterStyle.name).Nodup → s ∈ l →
      l.find? (·.name == s.name) = some s := by
    intro l hl hs
    induction l with
    | nil => cases hs
    | cons t rest ih =>
      obtain ⟨hfirst, hrest⟩ := List.nodup_cons.1 hl
      rcases List.mem_cons.1 hs with rfl | hs
      · simp
      · have hne : t.name ≠ s.name := fun heq =>
          hfirst (heq ▸ List.mem_map.2 ⟨s, hs, rfl⟩)
        rw [List.find?_cons_of_neg (by simpa using hne)]
        exact ih hrest hs
  rw [find?, canonical_name h]
  exact hfind (List.nodup_append.1 nodup_names).2.1 h

end Registry
end Rubric
