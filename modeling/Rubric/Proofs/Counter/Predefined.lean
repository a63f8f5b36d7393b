import Rubric.Proofs.Counter.Injective

/-!
# The predefined styles tell counts apart

* `Registry.Plain symbols` : different characters, none of which stands in decimal text;
* `Registry.injOn_style` : a style over such letters tells 64-bit counts apart;
* `Registry.injOn_ofRule_cjkDecimal` : so does a style of East Asian numerals up to 9999;
* `Registry.injOn_format` : so does every predefined style that does not repeat itself;
* `Registry.labels_distinct` : no style that is listed writes a count as the empty text, or two as the same text.
-/

namespace Rubric.Registry
open CounterStyle (counts leastCount)
open Numeral

/-! ## Letters that do not stand in decimal text -/

/-- No character of the first list stands in the second. -/
def foreign (xs ys : List Char) : Bool := xs.all fun c => !ys.contains c

theorem not_mem_of_foreign {xs ys : List Char} (h : foreign xs ys = true) : ∀ c ∈ xs, c ∉ ys := fun c hc => by
  simpa using List.all_eq_true.1 h c hc

theorem exists_not_mem {xs ys : List Char} (h : xs.all ys.contains = false) : ∃ c ∈ xs, c ∉ ys := by
  obtain ⟨c, hc, hnot⟩ := List.all_eq_false.1 h
  exact ⟨c, hc, by simpa using hnot⟩

theorem toNat_le_of_mem_decimal {c : Char} (h : c ∈ decimal.letters) : c.toNat ≤ 57 := by
  have hall : decimal.letters.all (·.toNat ≤ 57) = true := by decide
  exact of_decide_eq_true (List.all_eq_true.1 hall c h)

theorem minus_mem_decimal : '-' ∈ decimal.letters := by decide

theorem not_mem_decimal {c : Char} (h : 57 < c.toNat) : c ∉ decimal.letters := fun hc =>
  Nat.not_le.2 h (toNat_le_of_mem_decimal hc)

def behind (cs : List Char) : Bool := cs.all (57 < ·.toNat)

theorem not_mem_of_behind {cs : List Char} (h : behind cs = true) : ∀ c ∈ cs, c ∉ decimal.letters := fun c hc =>
  not_mem_decimal (of_decide_eq_true (List.all_eq_true.1 h c hc))

/-- Different characters, none of which stands in decimal text. -/
def Plain (symbols : List String) : Prop :=
  ∃ cs : List Char, cs.Nodup ∧ symbols = cs.map String.singleton ∧ ∀ c ∈ cs, c ∉ decimal.letters

theorem Plain.lettered {symbols : List String} (h : Plain symbols) : Lettered symbols := by
  obtain ⟨cs, hcs, heq, -⟩ := h
  exact ⟨cs, hcs, heq⟩

theorem Plain.nodup {symbols : List String} (h : Plain symbols) : symbols.Nodup := by
  obtain ⟨cs, hcs, rfl, -⟩ := h
  exact hcs.map fun _ _ => String.singleton_inj.1

theorem Plain.not_mem {symbols : List String} (h : Plain symbols) :
    ∀ c ∈ symbols.flatMap String.toList, c ∉ decimal.letters := by
  obtain ⟨cs, -, rfl, hcs⟩ := h
  intro c hc
  obtain ⟨t, ht, hc⟩ := List.mem_flatMap.1 hc
  obtain ⟨d, hd, rfl⟩ := List.mem_map.1 ht
  rw [String.toList_singleton] at hc
  exact List.mem_singleton.1 hc ▸ hcs d hd

/-- Different code points behind those of decimal text. -/
def clear (codes : List Nat) : Bool := distinct codes && codes.all (Nat.blt 57)

theorem plain_of_clear {cs : List Char} (h : clear (cs.map Char.toNat) = true) :
    Plain (cs.map String.singleton) := by
  obtain ⟨hdistinct, hbehind⟩ := Bool.and_eq_true_iff.1 h
  refine ⟨cs, (nodup_of_distinct hdistinct).of_map _, rfl, fun c hc => not_mem_decimal ?_⟩
  simpa using List.all_eq_true.1 hbehind _ (List.mem_map.2 ⟨c, hc, rfl⟩)

/-- The check is about the list of characters, which a literal is turned into at no cost. -/
theorem plain_ofList {cs : List Char} (h : clear (cs.map Char.toNat) = true) : Plain (glyphs (String.ofList cs)) := by
  rw [glyphs, String.toList_ofList]
  exact plain_of_clear h

theorem toNat_ofNat {n : Nat} (h : n.isValidChar) : (Char.ofNat n).toNat = n := by
  rw [Char.ofNat, dif_pos h]
  rfl

theorem plain_codes {codes : List Nat} (hclear : clear codes = true) (hvalid : ∀ n ∈ codes, n.isValidChar) :
    Plain (codes.map fun n => String.singleton (Char.ofNat n)) := by
  have hcodes : (codes.map Char.ofNat).map Char.toNat = codes := by
    rw [List.map_map]
    exact (List.map_congr_left fun n hn => toNat_ofNat (hvalid n hn)).trans (List.map_id _)
  have := plain_of_clear (hcodes.symm ▸ hclear)
  rwa [List.map_map] at this

theorem codePoints_eq (first count : Nat) :
    codePoints first count =
      ((List.range count).map (first + ·)).map fun n => String.singleton (Char.ofNat n) := by
  rw [codePoints, List.map_map]
  rfl

theorem clear_range {first count : Nat} (h : 57 < first) : clear ((List.range count).map (first + ·)) = true := by
  refine Bool.and_eq_true_iff.2 ⟨distinct_of_nodup ?_, ?_⟩
  · exact List.nodup_range.map fun i j hij => Nat.add_left_cancel hij
  · refine List.all_eq_true.2 fun n hn => ?_
    obtain ⟨i, -, rfl⟩ := List.mem_map.1 hn
    rw [Nat.blt, Nat.ble_eq]
    exact Nat.le_add_right_of_le h

def IsBlock (first count : Nat) : Prop :=
  57 < first ∧ (first + count ≤ 0xD800 ∨ 0xE000 ≤ first ∧ first + count ≤ 0x110000)

instance (first count : Nat) : Decidable (IsBlock first count) := inferInstanceAs (Decidable (_ ∧ _))

theorem plain_codePoints {first count : Nat} (h : IsBlock first count) : Plain (codePoints first count) := by
  rw [codePoints_eq]
  refine plain_codes (clear_range h.1) fun n hn => ?_
  obtain ⟨i, hi, rfl⟩ := List.mem_map.1 hn
  have := List.mem_range.1 hi
  have := h.2
  simp only [Nat.isValidChar]
  omega

/-! ## Styles that fall back to decimal digits -/

/-- Digits for positional notation, none of whose numerals is the decimal text of the least count. -/
def Digits (cs : List Char) : Prop :=
  cs.Nodup ∧ 2 ≤ cs.length ∧ '-' ∉ cs ∧
    ("9223372036854775808".toList.all cs.contains = false ∨
      CounterRule.maxMagnitude < worth cs.length ("9223372036854775808".toList.map (cs.idxOf ·)))

instance (cs : List Char) : Decidable (Digits cs) := inferInstanceAs (Decidable (_ ∧ _))

theorem digits_tables : ∀ digits ∈ "0123456789" :: digitTables.map Prod.snd, Digits digits.toList := by
  decide +kernel

theorem digits_european : Digits "0123456789".toList := digits_tables _ (List.mem_cons_self ..)

theorem digits_digitTables {e : String × String} (h : e ∈ digitTables) : Digits e.2.toList :=
  digits_tables _ (List.mem_cons_of_mem _ (List.mem_map.2 ⟨e, h, rfl⟩))

theorem injOn_of_digits {s : CounterStyle} {name digits : String} {pad : Option Pad}
    (hdigits : Digits digits.toList) (hpad : ∀ p, pad = some p → (glyphs digits).head? = some p.symbol)
    (hrule : s.rule = { name := name, system := .numeric (glyphs digits), pad := pad })
    (hrest : s.rest leastCount = "-9223372036854775808") : Set.InjOn s.format counts := by
  obtain ⟨hnodup, hlength, hminus, hread⟩ := hdigits
  have hletters : (glyphs digits).flatMap String.toList = digits.toList := by
    simp [glyphs, List.flatMap_map]
  have hlegible : s.rule.Legible := by
    rw [hrule]
    refine ⟨⟨_, hnodup, rfl⟩, ⟨'-', (by decide : '-' ∈ ("-" : String).toList.head?), ?_⟩, fun p h => ⟨_, rfl, hpad p h⟩⟩
    rwa [CounterSystem.letters, hletters]
  exact CounterStyle.injOn_of_numeric hlegible (by rw [hrule, glyphs]) hnodup hlength (by rw [hrule]; rfl)
    (by rw [hrule]) (by rw [hrule]) hrest (hread.imp_left exists_not_mem)

theorem injOn_decimal : Set.InjOn decimal.format counts :=
  injOn_of_digits digits_european (by simp) rfl rfl

theorem decimal_leastCount : decimal.format leastCount = "-9223372036854775808" := rfl

/-- A style of positional digits, European or not, that leaves the least count to decimal text. -/
theorem injOn_digitStyle {name digits : String} {pad : Option Pad} (hdigits : Digits digits.toList)
    (hpad : ∀ p, pad = some p → (glyphs digits).head? = some p.symbol) :
    Set.InjOn (style { name := name, system := .numeric (glyphs digits), pad := pad }).format counts :=
  injOn_of_digits hdigits hpad rfl ((CounterStyle.rest_ofRule ..).trans decimal_leastCount)

/-- A style with letters that do not stand in decimal text. -/
theorem injOn_style {r : CounterRule} (hlegible : r.system.Legible) (hink : r.system.Inked)
    (hletters : ∀ c ∈ r.system.letters, c ∉ decimal.letters)
    (hsign : ∃ c ∈ r.sign.before.toList.head?, c ∉ r.system.letters) (hpad : r.pad = none) :
    Set.InjOn (style r).format counts :=
  CounterStyle.injOn_ofRule_of_letters ⟨hlegible, hsign, fun _ h => (Option.some_ne_none _ (h.symm.trans hpad)).elim⟩ hink hletters
    injOn_decimal

theorem minus_foreign {letters : List Char} (h : ∀ c ∈ letters, c ∉ decimal.letters) :
    ∃ c ∈ ("-" : String).toList.head?, c ∉ letters :=
  ⟨'-', by decide, fun hc => h _ hc minus_mem_decimal⟩

/-! ## Styles that fall back to Chinese digits -/

theorem plain_cjkDigits : Plain (glyphs "〇一二三四五六七八九") := plain_of_clear (by decide +kernel)

theorem injOn_cjkDecimal : Set.InjOn cjkDecimal.format counts :=
  injOn_style plain_cjkDigits.lettered (fun _ => glyphs_ne_empty) plain_cjkDigits.not_mem
    (minus_foreign plain_cjkDigits.not_mem) rfl

theorem length_cjkDecimal {m : Int} (hm : m ∈ counts) (h : 9999 < m.natAbs) : 2 < (cjkDecimal.format m).length := by
  rw [CounterStyle.format_eq]
  cases hr : cjkDecimal.rule.represent? m with
  | none =>
    have hleast : m = leastCount :=
      CounterStyle.eq_leastCount_of_numeric (r := cjkDecimal.rule) rfl (by decide) rfl hm hr
    rw [Option.getD_none, hleast, cjkDecimal, style, CounterStyle.rest_ofRule, decimal_leastCount]
    decide
  | some t =>
    obtain ⟨-, core, hcore, rfl⟩ := CounterRule.represent?_eq_some hr
    obtain ⟨ds, hds, hlt, hworth⟩ := CounterRule.body_of_numeric (r := cjkDecimal.rule) rfl
      (fun _ h => (Option.some_ne_none _ h.symm).elim) hcore (cjkDecimal.rule.isSigned m)
    have hbody : ds.length ≤ (cjkDecimal.rule.body (cjkDecimal.rule.isSigned m) core).length := by
      rw [hds, length_spell plain_cjkDigits.lettered hlt]
    have hbound := worth_lt hlt
    have hbase : (glyphs "〇一二三四五六七八九").length = 10 := by decide
    rw [hworth, hbase] at hbound
    have hdigits : 4 < ds.length := by
      by_contra hle
      have := Nat.pow_le_pow_right (n := 10) (by decide) (Nat.not_lt.1 hle)
      omega
    rw [Option.getD_some]
    cases hsigned : cjkDecimal.rule.isSigned m <;> rw [hsigned] at hbody
    · rw [CounterRule.wrap_false, String.length_append, String.length_append]
      omega
    · rw [CounterRule.wrap_true, String.length_append, String.length_append, String.length_append,
        String.length_append]
      omega

/-- Every numeral shows a letter that does not stand among the digits, or is one character. -/
def Short (s : CounterSystem) : Prop :=
  ∀ n t, s.represent? n = some t → (∃ c ∈ t.toList, c ∉ cjkDecimal.letters) ∨ t.length ≤ 1

theorem short_additive {table : List (Nat × String)} (hback : ∃ front back, table = front ++ back ∧
      (∀ e ∈ front, e.1 ≠ 0 ∧ ∃ c ∈ e.2.toList, c ∉ cjkDecimal.letters) ∧ ∃ e ∈ front, e.1 = 10)
    (hones : ∀ n < 10, ∀ t ∈ Numeral.additive table n, t.length ≤ 1) : Short (.additive table) := by
  obtain ⟨front, back, rfl, hfront, ten, hten, hweight⟩ := hback
  intro n t h
  obtain ⟨-, h⟩ := CounterSystem.spell?_of_represent? rfl h
  by_contra hnot
  obtain ⟨hletters, hlong⟩ := not_or.1 hnot
  have hlt : n.toNat < 10 := by
    by_cases hzero : n.toNat = 0
    · omega
    · have hsum : additiveFrom (front ++ back) n.toNat = some t := (if_neg hzero).symm.trans h
      have := lt_of_additiveFrom hfront hsum (by simpa using hletters) ten hten
      omega
  exact hlong (hones _ hlt t h)

theorem short_chinese {symbols : ChineseSymbols} (h : ∀ c ∈ symbols.powers.toList, c ∉ cjkDecimal.letters) :
    Short (.chinese symbols) := by
  intro n t ht
  obtain ⟨-, ht⟩ := CounterSystem.spell?_of_represent? rfl ht
  by_cases hlt : n.toNat < 10
  · exact Or.inr (Nat.le_of_eq (length_chinese ht hlt))
  · obtain ⟨c, hc, hpower⟩ := exists_power_of_chinese ht (by omega)
    exact Or.inl ⟨c, hc, h c hpower⟩

/-- East Asian numerals up to 9999, with Chinese digits from there on. -/
theorem injOn_ofRule_cjkDecimal {name sign : String} {system : CounterSystem} (hlegible : system.Legible)
    (hsigned : system.signed = true) (hsign : ∃ c ∈ sign.toList.head?, c ∉ cjkDecimal.letters ∧ c ∉ system.letters)
    (htotal : ∀ k : Nat, k ≤ 9999 → system.represent? k ≠ none) (hshort : Short system) :
    Set.InjOn (CounterStyle.ofRule
      { name := name, system := system, range := fourDigits, sign := ⟨sign, ""⟩, affixes := enumerationComma }
      cjkDecimal).format counts := by
  obtain ⟨c, hc, hforeign, hsystem⟩ := hsign
  refine CounterStyle.injOn_ofRule_of_length (k := 2) ⟨hlegible, ⟨c, hc, hsystem⟩, fun _ h => (Option.some_ne_none _ h.symm).elim⟩ ?_ ?_
    injOn_cjkDecimal
  · intro n t ht
    obtain ⟨-, core, hcore, rfl⟩ := CounterRule.represent?_eq_some ht
    cases hneg : CounterRule.isSigned _ n with
    | true =>
      refine Or.inl ⟨c, ?_, hforeign⟩
      simp [CounterRule.wrap_true, enumerationComma, List.mem_of_head? hc]
    | false =>
      rcases hshort _ _ (CounterRule.core?_eq_represent? hcore) with ⟨d, hd, hd'⟩ | hle
      · refine Or.inl ⟨d, ?_, hd'⟩
        simp [CounterRule.wrap_false, CounterRule.body, hd]
      · refine Or.inr ?_
        rw [CounterRule.wrap_false, String.length_append, String.length_append, CounterRule.body,
          String.length_append]
        have : enumerationComma.after.length = 1 := by decide
        simp only [CounterRule.fill, enumerationComma, String.length_empty] at *
        omega
  · intro m hm hnone
    refine length_cjkDecimal hm ?_
    by_contra hle
    have hnatAbs : m.natAbs ≤ 9999 := Nat.not_lt.1 hle
    have hcontains : fourDigits.contains m = true := by
      simp [CounterRange.contains, fourDigits]
      omega
    have hmax : m.natAbs ≤ CounterRule.maxMagnitude := Nat.le_trans hnatAbs (by decide)
    simp only [CounterRule.represent?, hcontains, if_true, Option.map_eq_none_iff, CounterRule.core?,
      CounterRule.isSigned, hsigned, Bool.and_true, decide_eq_true_eq, hmax] at hnone
    split at hnone
    · exact htotal _ hnatAbs hnone
    · rename_i hpos
      obtain ⟨k, rfl⟩ := Int.eq_ofNat_of_zero_le (Int.not_lt.1 hpos)
      exact htotal k (by omega) hnone

/-! ## The tables -/

set_option maxRecDepth 8000 in
theorem plain_alphabets : ∀ e ∈ alphabets, Plain (glyphs e.2) := by
  simp only [alphabets, List.forall_mem_cons]
  refine ⟨plain_ofList ?_, plain_ofList ?_, plain_ofList ?_, plain_ofList ?_, plain_ofList ?_, plain_ofList ?_,
    fun _ h => absurd h List.not_mem_nil⟩
  all_goals decide +kernel

set_option maxRecDepth 8000 in
theorem plain_syllabaries : ∀ e ∈ syllabaries, Plain (glyphs e.2) := by
  simp only [syllabaries, List.forall_mem_cons]
  refine ⟨plain_ofList ?_, plain_ofList ?_, plain_ofList ?_, plain_ofList ?_, plain_ofList ?_, plain_ofList ?_,
    fun _ h => absurd h List.not_mem_nil⟩
  all_goals decide +kernel

theorem plain_digitBlocks {e : String × Nat} (h : e ∈ digitBlocks) : Plain (codePoints e.2 10) := by
  have hblock : ∀ e ∈ digitBlocks, IsBlock e.2 10 := by decide
  exact plain_codePoints (hblock e h)

theorem plain_latinBlocks {e : String × Nat} (h : e ∈ latinBlocks) : Plain (codePoints e.2 26) := by
  have hblock : ∀ e ∈ latinBlocks, IsBlock e.2 26 := by decide
  exact plain_codePoints (hblock e h)

theorem plain_circled : Plain circled := by
  simp only [circled, codePoints_eq, ← List.map_append]
  exact plain_codes (by decide +kernel) (by decide)

theorem stemBranch_legible : stemBranch.Nodup ∧ ∀ c ∈ stemBranch.flatMap String.toList, c ∉ decimal.letters := by
  have hcodes : distinct (stemBranch.map code) = true ∧ behind (stemBranch.flatMap String.toList) = true := by
    decide +kernel
  exact ⟨(nodup_of_distinct hcodes.1).of_map code, not_mem_of_behind hcodes.2⟩

theorem tables_legible : ∀ e ∈ tables, e.2.Nodup ∧ ∀ c ∈ e.2.flatMap String.toList, c ∉ decimal.letters := by
  have hplain : ∀ {symbols : List String}, Plain symbols →
      symbols.Nodup ∧ ∀ c ∈ symbols.flatMap String.toList, c ∉ decimal.letters := fun h => ⟨h.nodup, h.not_mem⟩
  have hblock : ∀ {first count : Nat}, IsBlock first count → _ := fun h => hplain (plain_codePoints h)
  have hfilled : Plain (codePoints 0x2776 10 ++ codePoints 0x24EB 10) := by
    simp only [codePoints_eq, ← List.map_append]
    exact plain_codes (by decide +kernel) (by decide)
  simp only [tables, List.forall_mem_cons]
  exact ⟨hblock (by decide), hblock (by decide), hplain hfilled, hblock (by decide), hblock (by decide),
    hblock (by decide), hblock (by decide), stemBranch_legible,
    fun _ h => absurd h List.not_mem_nil⟩

/-- What is checked of a table of weights: the sign of zero has a letter of its own, and no letter stands in
decimal text. -/
def Weighted (table : List (Nat × String)) : Prop :=
  Separable table ∧
    (∀ z ∈ table, z.1 = 0 →
      z.2.toList.all (((table.filter (·.1 != 0)).flatMap (·.2.toList)).contains ·) = false) ∧
    behind (CounterSystem.additive table).letters = true

instance (table : List (Nat × String)) : Decidable (Weighted table) := inferInstanceAs (Decidable (_ ∧ _))

theorem weighted : ∀ table ∈ weightTables, Weighted table := by decide +kernel

theorem weights_legible {table : List (Nat × String)} (h : table ∈ weightTables) :
    (CounterSystem.additive table).Legible := by
  obtain ⟨hseparable, hzero, -⟩ := weighted table h
  refine ⟨hseparable, inked_weights table h, fun z hz hw => ?_⟩
  obtain ⟨c, hc, hnot⟩ := exists_not_mem (hzero z hz hw)
  refine ⟨c, hc, fun e he hne hmem => hnot (List.mem_flatMap.2 ⟨e, ?_, hmem⟩)⟩
  exact List.mem_filter.2 ⟨he, by simpa using hne⟩

theorem not_mem_weights {table : List (Nat × String)} (h : table ∈ weightTables) :
    ∀ c ∈ (CounterSystem.additive table).letters, c ∉ decimal.letters :=
  not_mem_of_behind (weighted table h).2.2

theorem not_mem_ethiopic : ∀ c ∈ CounterSystem.ethiopic.letters, c ∉ decimal.letters :=
  not_mem_of_behind (by decide)

/-! ## The styles -/

theorem injOn_minus {r : CounterRule} (hlegible : r.system.Legible) (hink : r.system.Inked)
    (hletters : ∀ c ∈ r.system.letters, c ∉ decimal.letters) (hsign : r.sign = ⟨"-", ""⟩) (hpad : r.pad = none) :
    Set.InjOn (style r).format counts :=
  injOn_style hlegible hink hletters (hsign ▸ minus_foreign hletters) hpad

theorem injOn_numeric {s : CounterStyle} (h : s ∈ numeric) : Set.InjOn s.format counts := by
  simp only [numeric, List.mem_cons, List.mem_append, List.mem_map] at h
  rcases h with (rfl | ⟨e, he, rfl⟩) | ⟨e, he, rfl⟩
  · refine injOn_digitStyle digits_european fun p hp => ?_
    cases hp
    decide
  · exact injOn_digitStyle (digits_digitTables he) fun _ h => (Option.some_ne_none _ h.symm).elim
  · have hplain := plain_digitBlocks he
    exact injOn_minus hplain.lettered (fun _ => codePoints_ne_empty) hplain.not_mem rfl rfl

theorem injOn_alphabetic {s : CounterStyle} (h : s ∈ alphabetic) : Set.InjOn s.format counts := by
  simp only [alphabetic, List.mem_append, List.mem_map] at h
  rcases h with (⟨e, he, rfl⟩ | ⟨e, he, rfl⟩) | ⟨e, he, rfl⟩
  · have hplain := plain_latinBlocks he
    exact injOn_minus hplain.lettered (fun _ => codePoints_ne_empty) hplain.not_mem rfl rfl
  · have hplain := plain_alphabets e he
    exact injOn_minus hplain.lettered (fun _ => glyphs_ne_empty) hplain.not_mem rfl rfl
  · have hplain := plain_syllabaries e he
    exact injOn_minus hplain.lettered (fun _ => glyphs_ne_empty) hplain.not_mem rfl rfl

theorem injOn_additiveTo (name : String) (greatest : Int) {table : List (Nat × String)} (h : table ∈ weightTables) :
    Set.InjOn (additiveTo name greatest table).format counts :=
  injOn_minus (weights_legible h) (inked_weights table h) (not_mem_weights h) rfl rfl

theorem short_japanese : ∀ table ∈ [Weights.japaneseInformal, Weights.japaneseFormal], Short (.additive table) := by
  have hchecked : ∀ table ∈ [Weights.japaneseInformal, Weights.japaneseFormal],
      (∀ e ∈ table.take 27, e.1 ≠ 0 ∧ e.2.toList.all cjkDecimal.letters.contains = false) ∧
        (∃ e ∈ table.take 27, e.1 = 10) ∧ ∀ n < 10, ∀ t ∈ Numeral.additive table n, t.length ≤ 1 := by
    decide +kernel
  intro table h
  obtain ⟨hfront, hten, hones⟩ := hchecked table h
  exact short_additive ⟨table.take 27, table.drop 27, (List.take_append_drop ..).symm,
    fun e he => ⟨(hfront e he).1, exists_not_mem (hfront e he).2⟩, hten⟩ hones

theorem injOn_japanese (name : String) {table : List (Nat × String)}
    (h : table ∈ [Weights.japaneseInformal, Weights.japaneseFormal]) :
    Set.InjOn (japanese name table).format counts := by
  have hweights : table ∈ weightTables := by
    simp only [List.mem_cons, List.not_mem_nil, or_false] at h
    rcases h with rfl | rfl <;> simp [weightTables]
  have hchecked : ∀ table ∈ [Weights.japaneseInformal, Weights.japaneseFormal],
      (∃ e ∈ table, e.1 = 1) ∧ (Numeral.additive table 0).isSome ∧ 'マ' ∉ (CounterSystem.additive table).letters := by
    decide +kernel
  obtain ⟨hone, hzero, hsign⟩ := hchecked table h
  refine injOn_ofRule_cjkDecimal (weights_legible hweights) rfl ⟨'マ', by decide, by decide, hsign⟩ ?_
    (short_japanese table h)
  intro k _
  rw [CounterSystem.represent?_natCast rfl, CounterSystem.spell?]
  by_cases hk : k = 0
  · rw [hk]
    exact Option.isSome_iff_ne_none.1 hzero
  · rw [Numeral.additive, if_neg hk]
    exact additiveFrom_ne_none hone k

theorem injOn_additive {s : CounterStyle} (h : s ∈ additive) : Set.InjOn s.format counts := by
  simp only [additive, List.mem_cons, List.not_mem_nil, or_false] at h
  rcases h with rfl | rfl | rfl | rfl | rfl | rfl | rfl | rfl | rfl | rfl
  iterate 7 exact injOn_additiveTo _ _ (by simp [weightTables])
  iterate 2 exact injOn_japanese _ (by simp)
  · have hmem : Weights.koreanHangulFormal ∈ weightTables := by simp [weightTables]
    exact injOn_style (weights_legible hmem) (inked_weights _ hmem) (not_mem_weights hmem)
      ⟨'마', by decide, by decide +kernel⟩ rfl

theorem injOn_symbolic {s : CounterStyle} (h : s ∈ symbolic) : Set.InjOn s.format counts := by
  have hletters : Plain (glyphs "*⁑†‡") := ⟨"*⁑†‡".toList, by decide, rfl, not_mem_of_foreign (by decide)⟩
  have hblock : ∀ {first count : Nat}, IsBlock first count →
      ∀ name, Set.InjOn (style { name := name, system := .symbolic (codePoints first count) }).format counts :=
    fun h name => injOn_minus (plain_codePoints h).lettered (fun _ => codePoints_ne_empty)
      (plain_codePoints h).not_mem rfl rfl
  simp only [symbolic, List.mem_cons, List.not_mem_nil, or_false] at h
  rcases h with rfl | rfl | rfl
  · exact hblock (by decide) _
  · exact hblock (by decide) _
  · exact injOn_minus hletters.lettered (fun _ => glyphs_ne_empty) hletters.not_mem rfl rfl

theorem injOn_fixed {s : CounterStyle} (h : s ∈ fixed) : Set.InjOn s.format counts := by
  simp only [fixed, List.mem_cons, List.mem_map] at h
  rcases h with rfl | ⟨e, he, rfl⟩
  · exact injOn_minus plain_circled.nodup inked_circled plain_circled.not_mem rfl rfl
  · exact injOn_minus (tables_legible e he).1 (inked_tables e he) (tables_legible e he).2 rfl rfl

theorem injOn_chineseStyle {name sign : String} {symbols : ChineseSymbols} (hdistinct : symbols.Distinct)
    (hpowers : ∀ c ∈ symbols.powers.toList, c ∉ cjkDecimal.letters)
    (hsign : ∃ c ∈ sign.toList.head?, c ∉ cjkDecimal.letters ∧ c ∉ (CounterSystem.chinese symbols).letters) :
    Set.InjOn (chineseStyle name symbols sign).format counts := by
  refine injOn_ofRule_cjkDecimal hdistinct rfl hsign (fun k hk => ?_) (short_chinese hpowers)
  rw [CounterSystem.represent?_natCast rfl]
  exact chinese_ne_none symbols hk

theorem injOn_chinese {s : CounterStyle} (h : s ∈ chinese) : Set.InjOn s.format counts := by
  simp only [chinese, List.mem_cons, List.not_mem_nil, or_false] at h
  rcases h with rfl | rfl | rfl | rfl
  iterate 2
    refine injOn_chineseStyle ?_ (not_mem_of_foreign ?_) ⟨'负', ?_, ?_, ?_⟩ <;> decide
  iterate 2
    refine injOn_chineseStyle ?_ (not_mem_of_foreign ?_) ⟨'負', ?_, ?_, ?_⟩ <;> decide

/-- A predefined style that does not repeat itself tells 64-bit counts apart. -/
theorem injOn_format {s : CounterStyle} (h : s ∈ styles) (hcyclic : ∀ symbols, s.rule.system ≠ .cyclic symbols) :
    Set.InjOn s.format counts := by
  simp only [styles, List.mem_cons, List.mem_append, List.not_mem_nil, or_false] at h
  rcases h with rfl | rfl | ((((((h | h) | h) | h) | h) | h) | h) | rfl
  · exact injOn_decimal
  · exact injOn_cjkDecimal
  · exact injOn_numeric h
  · exact injOn_alphabetic h
  · exact injOn_additive h
  · exact injOn_symbolic h
  · obtain ⟨e, -, rfl⟩ := List.mem_map.1 h
    exact (hcyclic _ rfl).elim
  · exact injOn_fixed h
  · exact injOn_chinese h
  · exact injOn_minus trivial trivial not_mem_ethiopic rfl rfl

/-! ## The names that are listed -/

theorem mem_counts (n : Int64) : n.toInt ∈ counts := by
  have := n.le_toInt
  have := n.toInt_lt
  constructor <;> simp only [CounterRule.maxMagnitude] <;> omega

/-- No style that is listed writes a count as the empty text, and none but the cyclic ones writes two counts
alike. -/
theorem labels_distinct {name : String} (h : name ∈ names) :
    ∃ s, find? name = some s ∧ (∀ n : Int64, s.format n.toInt ≠ "") ∧
      ((∀ symbols, s.rule.system ≠ .cyclic symbols) →
        ∀ n m : Int64, s.format n.toInt = s.format m.toInt → n = m) := by
  obtain ⟨s, hs, rfl⟩ := List.mem_map.1 ((List.mergeSort_perm ..).mem_iff.1 h)
  refine ⟨s, find?_name hs, fun n => format_ne_empty hs n.toInt, fun hcyclic n m heq => ?_⟩
  exact Int64.toInt_inj.1 (injOn_format hs hcyclic (mem_counts n) (mem_counts m) heq)

/-- Roman numerals, which leave zero, negative counts and those from 4000 on to decimal digits. -/
theorem labels_distinct_lowerRoman : "lower-roman" ∈ names ∧
    ∃ s, find? "lower-roman" = some s ∧ (∀ n : Int64, s.format n.toInt ≠ "") ∧
      ((∀ symbols, s.rule.system ≠ .cyclic symbols) →
        ∀ n m : Int64, s.format n.toInt = s.format m.toInt → n = m) := by
  have hname : "lower-roman" ∈ names := by
    refine (List.mergeSort_perm ..).mem_iff.2 (List.mem_map.2 ⟨additiveTo "lower-roman" 3999 Weights.lowerRoman, ?_, rfl⟩)
    simp [styles, additive]
  exact ⟨hname, labels_distinct hname⟩

end Rubric.Registry
