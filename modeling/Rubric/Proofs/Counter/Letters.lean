import Rubric.Proofs.Counter.Reading

/-!
# The letters of a numeral

* `CounterSystem.letters`, `CounterRule.letters`, `CounterStyle.letters` : the characters that symbols,
  signs, fill and affixes are made of;
* `CounterSystem.mem_letters` : a bare numeral is made of the letters of its system;
* `CounterRule.mem_letters` : signs, fill and affixes add no other letters than those of the rule;
* `CounterStyle.mem_letters` : the text of a count is made of the letters of the style, and of decimal
  digits when no rule of the style represents the count.
-/

namespace Rubric
namespace Numeral

theorem mem_spell {symbols : List String} {ds : List Nat} {c : Char} (h : c ∈ (spell symbols ds).toList) :
    ∃ t ∈ symbols, c ∈ t.toList := by
  induction ds with
  | nil => simp at h
  | cons d ds ih =>
    rw [spell, List.map_cons, String.join_cons, String.toList_append, List.mem_append] at h
    rcases h with h | h
    · rw [List.getD_eq_getElem?_getD] at h
      cases hd : symbols[d]? with
      | none => simp [hd] at h
      | some t => exact ⟨t, List.mem_of_getElem? hd, by simpa [hd] using h⟩
    · exact ih h

theorem mem_replicateText {n : Nat} {s : String} {c : Char} (h : c ∈ (replicateText n s).toList) :
    c ∈ s.toList := by
  rw [toList_replicateText] at h
  obtain ⟨cs, hcs, hc⟩ := List.mem_flatten.1 h
  exact List.eq_of_mem_replicate hcs ▸ hc

theorem mem_positional {symbols : List String} {n : Nat} {t : String} (h : positional symbols n = some t)
    {c : Char} (hc : c ∈ t.toList) : ∃ t ∈ symbols, c ∈ t.toList := by
  obtain ⟨ds, rfl, -⟩ := positional_worth h
  exact mem_spell hc

theorem mem_alphabetic {symbols : List String} {n : Nat} {t : String} (h : alphabetic symbols n = some t)
    {c : Char} (hc : c ∈ t.toList) : ∃ t ∈ symbols, c ∈ t.toList := by
  rw [alphabetic] at h
  split at h
  · cases h
  · cases h
    exact mem_spell hc

theorem mem_additiveFrom {table : List (Nat × String)} {n : Nat} {t : String}
    (h : additiveFrom table n = some t) {c : Char} (hc : c ∈ t.toList) :
    ∃ e ∈ table, e.1 ≠ 0 ∧ c ∈ e.2.toList := by
  induction table generalizing n t with
  | nil => cases h
  | cons e rest ih =>
    obtain ⟨weight, symbol⟩ := e
    have hrest : (∃ e ∈ rest, e.1 ≠ 0 ∧ c ∈ e.2.toList) →
        ∃ e ∈ (weight, symbol) :: rest, e.1 ≠ 0 ∧ c ∈ e.2.toList := fun ⟨e, he, h⟩ =>
      ⟨e, List.mem_cons_of_mem _ he, h⟩
    by_cases hw : weight = 0
    · rw [additiveFrom, if_pos hw] at h
      exact hrest (ih h hc)
    · obtain ⟨u, rfl, hu⟩ := additiveFrom_cons hw symbol rest h
      rw [String.toList_append, List.mem_append] at hc
      rcases hc with hc | hc
      · exact ⟨_, List.mem_cons_self .., hw, mem_replicateText hc⟩
      · rcases hu with ⟨-, rfl⟩ | ⟨-, hu⟩
        · cases hc
        · exact hrest (ih hu hc)

theorem mem_additive {table : List (Nat × String)} {n : Nat} {t : String} (h : additive table n = some t)
    {c : Char} (hc : c ∈ t.toList) : ∃ e ∈ table, c ∈ e.2.toList := by
  rw [additive] at h
  split at h
  · obtain ⟨e, he, rfl⟩ := Option.map_eq_some_iff.1 h
    exact ⟨e, List.mem_of_find?_eq_some he, hc⟩
  · obtain ⟨e, he, -, hc⟩ := mem_additiveFrom h hc
    exact ⟨e, he, hc⟩

theorem mem_symbolic {symbols : List String} {n : Nat} {t : String} (h : symbolic symbols n = some t)
    {c : Char} (hc : c ∈ t.toList) : ∃ t ∈ symbols, c ∈ t.toList := by
  rw [symbolic] at h
  split at h
  · cases h
  · dsimp only at h
    split at h
    · cases h
    · obtain ⟨t, ht, rfl⟩ := Option.map_eq_some_iff.1 h
      exact ⟨t, List.mem_of_getElem? ht, mem_replicateText hc⟩

namespace ChineseSymbols
variable {symbols : ChineseSymbols}

theorem mem_digit {d : Nat} {c : Char} (h : c ∈ symbols.digit d) : c ∈ symbols.digits.toList :=
  Vector.mem_toList_iff.2 (Vector.mem_of_getElem? (Option.mem_toList.1 h))

theorem mem_power {places : Nat} {c : Char} (h : c ∈ symbols.power places) : c ∈ symbols.powers.toList := by
  rw [power] at h
  split at h
  · cases h
  · exact Vector.mem_toList_iff.2 (Vector.mem_of_getElem? (Option.mem_toList.1 h))

theorem mem_write {teen gap : Bool} {ds : List Nat} {c : Char} (h : c ∈ symbols.write teen gap ds) :
    c ∈ symbols.digits.toList ++ symbols.powers.toList := by
  induction ds generalizing gap with
  | nil => cases h
  | cons d ds ih =>
    rw [write] at h
    split at h
    · exact ih h
    · rw [List.mem_append, List.mem_append, List.mem_append] at h
      rcases h with ((h | h) | h) | h
      · split at h
        · exact List.mem_append_left _ (mem_digit h)
        · cases h
      · split at h
        · cases h
        · exact List.mem_append_left _ (mem_digit h)
      · exact List.mem_append_right _ (mem_power h)
      · exact ih h

end ChineseSymbols

theorem mem_chinese {symbols : ChineseSymbols} {n : Nat} {t : String} (h : chinese symbols n = some t)
    {c : Char} (hc : c ∈ t.toList) : c ∈ symbols.digits.toList ++ symbols.powers.toList := by
  rw [chinese] at h
  split at h
  · cases h
  · split at h <;> cases h <;> rw [String.toList_ofList] at hc
    · exact List.mem_append_left _ (ChineseSymbols.mem_digit hc)
    · exact ChineseSymbols.mem_write hc

namespace Ethiopic

def letters : List Char := ones ++ tens ++ [hundred, myriad]

theorem mem_digit {row : List Char} {d : Nat} {c : Char} (h : c ∈ digit row d) : c ∈ row := by
  rw [digit] at h
  split at h
  · cases h
  · exact List.mem_of_getElem? (Option.mem_toList.1 h)

theorem mem_pair {g : Nat} {c : Char} (h : c ∈ pair g) : c ∈ letters := by
  rcases List.mem_append.1 h with h | h
  · exact List.mem_append_left _ (List.mem_append_right _ (mem_digit h))
  · exact List.mem_append_left _ (List.mem_append_left _ (mem_digit h))

theorem mem_write {first : Bool} {gs : List Nat} {c : Char} (h : c ∈ write first gs) : c ∈ letters := by
  have hmarks : ∀ {c}, c ∈ [hundred, myriad] → c ∈ letters := fun hc => List.mem_append_right _ hc
  induction gs generalizing first with
  | nil => cases h
  | cons g gs ih =>
    rw [write, List.mem_append, List.mem_append] at h
    rcases h with (h | h) | h
    · split at h
      · cases h
      · exact mem_pair h
    · refine hmarks ?_
      split at h <;> split at h
      · cases h
      · exact List.mem_singleton.1 h ▸ List.mem_cons_self ..
      · cases h
      · exact List.mem_singleton.1 h ▸ List.mem_cons_of_mem _ (List.mem_cons_self ..)
    · exact ih h

end Ethiopic

theorem mem_ethiopic {n : Nat} {t : String} (h : ethiopic n = some t) {c : Char} (hc : c ∈ t.toList) :
    c ∈ Ethiopic.letters := by
  rw [ethiopic] at h
  split at h
  · cases h
  · split at h <;> cases h <;> rw [String.toList_ofList] at hc
    · exact List.mem_append_left _ (List.mem_append_left _ (Ethiopic.mem_digit hc))
    · exact Ethiopic.mem_write hc

/-! ## Numerals from ten up show the mark of a place -/

theorem lt_of_additiveFrom {front back : List (Nat × String)} {letters : List Char}
    (hfront : ∀ e ∈ front, e.1 ≠ 0 ∧ ∃ c ∈ e.2.toList, c ∉ letters) {n : Nat} {t : String}
    (h : additiveFrom (front ++ back) n = some t) (ht : ∀ c ∈ t.toList, c ∈ letters) : ∀ e ∈ front, n < e.1 := by
  induction front generalizing n t with
  | nil => simp
  | cons e rest ih =>
    obtain ⟨⟨hw, c, hc, hforeign⟩, hrest⟩ := List.forall_mem_cons.1 hfront
    obtain ⟨u, rfl, hu⟩ := additiveFrom_cons hw e.2 (rest ++ back) h
    have hnone : n / e.1 = 0 := by
      by_contra hpos
      obtain ⟨k, hk⟩ : ∃ k, n / e.1 = k + 1 := Nat.exists_eq_succ_of_ne_zero hpos
      refine hforeign (ht c ?_)
      rw [hk, String.toList_append, toList_replicateText, List.replicate_succ, List.flatten_cons]
      exact List.mem_append_left _ (List.mem_append_left _ hc)
    have hlt : n < e.1 := (Nat.div_eq_zero_iff_lt (Nat.pos_of_ne_zero hw)).1 hnone
    rw [Nat.mod_eq_of_lt hlt] at hu
    refine List.forall_mem_cons.2 ⟨hlt, ?_⟩
    rcases hu with ⟨rfl, -⟩ | ⟨-, hu⟩
    · exact fun e he => Nat.pos_of_ne_zero (hrest e he).1
    · refine ih hrest hu fun c hc => ht c ?_
      rw [String.toList_append]
      exact List.mem_append_right _ hc

theorem additiveFrom_ne_none {table : List (Nat × String)} (h : ∃ e ∈ table, e.1 = 1) (n : Nat) :
    additiveFrom table n ≠ none := by
  induction table generalizing n with
  | nil => simp at h
  | cons e rest ih =>
    obtain ⟨weight, symbol⟩ := e
    rw [additiveFrom]
    by_cases hone : weight = 1
    · simp [hone, Nat.mod_one]
    · have hrest := ih (by simpa [hone] using h)
      split
      · exact hrest n
      · dsimp only
        split
        · simp
        · simpa using hrest _

theorem chinese_ne_none (symbols : ChineseSymbols) {n : Nat} (hn : n ≤ 9999) : chinese symbols n ≠ none := by
  rw [chinese, if_neg (Nat.not_lt.2 hn)]
  split <;> exact Option.some_ne_none _

theorem length_chinese {symbols : ChineseSymbols} {n : Nat} {t : String} (h : chinese symbols n = some t)
    (hn : n < 10) : t.length = 1 := by
  rw [chinese, if_neg (by omega)] at h
  split at h
  · cases h
    simp [← String.length_toList, ChineseSymbols.digit]
  · rename_i hpos
    cases h
    rw [digits_of_pos (by decide) (by omega), Nat.div_eq_of_lt hn, digits_zero, Nat.mod_eq_of_lt hn,
      List.nil_append, ← String.length_toList, String.toList_ofList, ChineseSymbols.write, if_neg hpos]
    simp [ChineseSymbols.power, ChineseSymbols.write, ChineseSymbols.digit, hn]

/-- A Chinese numeral from ten up shows the mark of its first place. -/
theorem exists_power_of_chinese {symbols : ChineseSymbols} {n : Nat} {t : String} (h : chinese symbols n = some t)
    (hn : 10 ≤ n) : ∃ c ∈ t.toList, c ∈ symbols.powers.toList := by
  rw [chinese] at h
  split at h
  · cases h
  rename_i hle
  rw [if_neg (by omega)] at h
  cases h
  obtain ⟨d, ds, heq, hd⟩ := digits_eq_cons (b := 10) (by decide) (by omega : 0 < n)
  have hlength : (d :: ds).length ≤ 4 := heq ▸ length_digits_le (by decide) (by omega)
  have hne : ds ≠ [] := by
    rintro rfl
    have hlt : worth 10 [d] < 10 ^ [d].length := worth_lt fun e he => digits_lt e (heq ▸ he)
    rw [← heq, worth_digits (by decide), heq] at hlt
    exact Nat.not_lt.2 hn hlt
  have hplaces : ds.length - 1 < 3 := by
    simp only [List.length_cons] at hlength
    omega
  refine ⟨symbols.powers[ds.length - 1], ?_, Vector.mem_toList_iff.2 (Vector.getElem_mem _)⟩
  rw [String.toList_ofList, heq, ChineseSymbols.write, if_neg hd, ChineseSymbols.power,
    if_neg (mt List.length_eq_zero_iff.1 hne), Vector.getElem?_eq_getElem hplaces]
  simp

end Numeral

namespace CounterSystem

/-- The characters of the symbols of a system. -/
def letters : CounterSystem → List Char
  | numeric symbols | alphabetic symbols | symbolic symbols | cyclic symbols | fixed _ symbols =>
    symbols.flatMap String.toList
  | additive table => table.flatMap (·.2.toList)
  | chinese symbols => symbols.digits.toList ++ symbols.powers.toList
  | ethiopic => Numeral.Ethiopic.letters

theorem mem_tableEntry? {first : Int} {symbols : List String} {n : Int} {t : String}
    (h : tableEntry? first symbols n = some t) : t ∈ symbols := by
  rw [ tableEntry?] at h
  split at h
  · cases h
  · exact List.mem_of_getElem? h

theorem mem_cycleEntry? {symbols : List String} {n : Nat} {t : String}
    (h : cycleEntry? symbols n = some t) : t ∈ symbols := by
  rw [ cycleEntry?] at h
  split at h
  · cases h
  · exact List.mem_of_getElem? h

theorem represent?_of_signed {s : CounterSystem} (hs : s.signed = true) (n : Int) :
    s.represent? n = if n < 0 then none else s.spell? n.toNat := by
  cases s with
  | cyclic _ | fixed _ _ => cases hs
  | _ => rfl

theorem represent?_natCast {s : CounterSystem} (hs : s.signed = true) (k : Nat) :
    s.represent? k = s.spell? k := by
  rw [represent?_of_signed hs, if_neg (by omega), Int.toNat_natCast]

theorem spell?_of_represent? {s : CounterSystem} (hs : s.signed = true) {n : Int} {t : String}
    (h : s.represent? n = some t) : 0 ≤ n ∧ s.spell? n.toNat = some t := by
  rw [represent?_of_signed hs] at h
  split at h
  · cases h
  · exact ⟨by omega, h⟩

theorem mem_letters_of_spell? {s : CounterSystem} {n : Nat} {t : String} (h : s.spell? n = some t) {c : Char}
    (hc : c ∈ t.toList) : c ∈ s.letters := by
  cases s with
  | numeric symbols => exact List.mem_flatMap.2 (Numeral.mem_positional h hc)
  | alphabetic symbols => exact List.mem_flatMap.2 (Numeral.mem_alphabetic h hc)
  | additive table => exact List.mem_flatMap.2 (Numeral.mem_additive h hc)
  | symbolic symbols => exact List.mem_flatMap.2 (Numeral.mem_symbolic h hc)
  | cyclic symbols => exact List.mem_flatMap.2 ⟨t, mem_cycleEntry? h, hc⟩
  | fixed first symbols => exact List.mem_flatMap.2 ⟨t, mem_tableEntry? h, hc⟩
  | chinese symbols => exact Numeral.mem_chinese h hc
  | ethiopic => exact Numeral.mem_ethiopic h hc

/-- A bare numeral is made of the letters of its system. -/
theorem mem_letters {s : CounterSystem} {n : Int} {t : String} (h : s.represent? n = some t) {c : Char}
    (hc : c ∈ t.toList) : c ∈ s.letters := by
  cases s with
  | fixed first symbols => exact List.mem_flatMap.2 ⟨t, mem_tableEntry? h, hc⟩
  | _ =>
    rw [represent?] at h
    · split at h
      · cases h
      · exact mem_letters_of_spell? h hc
    · intros
      contradiction

end CounterSystem

namespace CounterRule

def letters (r : CounterRule) : List Char :=
  r.system.letters ++ (r.sign.before.toList ++ r.sign.after.toList) ++
    (r.affixes.before.toList ++ r.affixes.after.toList) ++ r.pad.elim [] (·.symbol.toList)

theorem core?_eq_represent? {r : CounterRule} {n : Int} {core : String} (h : r.core? n = some core) :
    r.system.represent? (if r.isSigned n then n.natAbs else n) = some core := by
  rw [core?] at h
  split at h <;> rename_i hsigned
  · split at h
    · simpa [hsigned] using h
    · cases h
  · simpa [hsigned] using h

theorem mem_fill {r : CounterRule} {signed : Bool} {width : Nat} {c : Char}
    (h : c ∈ (r.fill signed width).toList) : c ∈ r.pad.elim [] (·.symbol.toList) := by
  rw [fill] at h
  cases hpad : r.pad with
  | none =>
    rw [hpad] at h
    cases h
  | some pad =>
    rw [hpad] at h
    exact Numeral.mem_replicateText h

theorem represent?_eq_some {r : CounterRule} {n : Int} {t : String} (h : r.represent? n = some t) :
    r.range.contains n = true ∧ ∃ core, r.core? n = some core ∧ t = r.wrap (r.isSigned n) core := by
  rw [represent?] at h
  split at h
  · rename_i hrange
    obtain ⟨core, hcore, rfl⟩ := Option.map_eq_some_iff.1 h
    exact ⟨hrange, core, hcore, rfl⟩
  · cases h

/-- Signs, fill and affixes add no other letters than those of the rule. -/
theorem mem_letters {r : CounterRule} {n : Int} {t : String} (h : r.represent? n = some t) {c : Char}
    (hc : c ∈ t.toList) : c ∈ r.letters := by
  obtain ⟨-, core, hcore, rfl⟩ := represent?_eq_some h
  have hbody : c ∈ (r.fill (r.isSigned n) core.length ++ core).toList → c ∈ r.letters := by
    intro hc
    rw [String.toList_append] at hc
    rcases List.mem_append.1 hc with hc | hc
    · exact List.mem_append_right _ (mem_fill hc)
    · refine List.mem_append_left _ (List.mem_append_left _ (List.mem_append_left _ ?_))
      exact CounterSystem.mem_letters (core?_eq_represent? hcore) hc
  have hsign : c ∈ r.sign.before.toList ++ r.sign.after.toList → c ∈ r.letters := fun hc =>
    List.mem_append_left _ (List.mem_append_left _ (List.mem_append_right _ hc))
  have haffix : c ∈ r.affixes.before.toList ++ r.affixes.after.toList → c ∈ r.letters := fun hc =>
    List.mem_append_left _ (List.mem_append_right _ hc)
  rw [wrap, String.toList_append, String.toList_append] at hc
  rcases List.mem_append.1 hc with hc | hc
  · rcases List.mem_append.1 hc with hc | hc
    · exact haffix (List.mem_append_left _ hc)
    · split at hc
      · rw [String.toList_append, String.toList_append] at hc
        rcases List.mem_append.1 hc with hc | hc
        · rcases List.mem_append.1 hc with hc | hc
          · exact hsign (List.mem_append_left _ hc)
          · exact hbody hc
        · exact hsign (List.mem_append_right _ hc)
      · exact hbody hc
  · exact haffix (List.mem_append_right _ hc)

/-- A numeral shows a letter of its system. -/
theorem exists_mem_letters {r : CounterRule} (hr : r.system.Inked) {n : Int} {t : String}
    (h : r.represent? n = some t) : ∃ c ∈ t.toList, c ∈ r.system.letters := by
  obtain ⟨-, core, hcore, rfl⟩ := represent?_eq_some h
  have hne : core.toList ≠ [] := fun heq =>
    core?_ne_empty hr n (hcore.trans (congrArg some (String.toList_eq_nil_iff.1 heq)))
  obtain ⟨c, cs, hcs⟩ := List.exists_cons_of_ne_nil hne
  have hc : c ∈ core.toList := hcs ▸ List.mem_cons_self ..
  refine ⟨c, ?_, CounterSystem.mem_letters (core?_eq_represent? hcore) hc⟩
  rw [wrap]
  split <;> simp [hc]

end CounterRule

namespace CounterStyle

def decimalLetters : List Char := "-0123456789".toList

def letters (s : CounterStyle) : List Char := s.rules.flatMap CounterRule.letters ++ decimalLetters

theorem mem_decimalLetters_of_isDigit {c : Char} (h : c.isDigit = true) : c ∈ decimalLetters := by
  have hdigits : ∀ k < 58, 48 ≤ k → Char.ofNat k ∈ decimalLetters := by decide
  simp only [Char.isDigit, Bool.and_eq_true, decide_eq_true_eq] at h
  have := hdigits c.toNat (Nat.lt_succ_of_le h.2) h.1
  rwa [Char.ofNat_toNat] at this

theorem mem_decimalLetters {n : Int} {c : Char} (hc : c ∈ (toString n).toList) : c ∈ decimalLetters := by
  have hdigits : ∀ n : Nat, c ∈ n.repr.toList → c ∈ decimalLetters := by
    intro n hc
    rw [Nat.toList_repr] at hc
    exact mem_decimalLetters_of_isDigit (Nat.isDigit_of_mem_toDigits (by decide) (by decide) hc)
  cases n with
  | ofNat n => exact hdigits n hc
  | negSucc n =>
    have hc : c ∈ ("-" ++ (n + 1).repr).toList := hc
    rw [String.toList_append] at hc
    rcases List.mem_append.1 hc with hc | hc
    · rw [List.mem_singleton.1 hc]
      decide
    · exact hdigits _ hc

/-- The text of a count is made of the letters of the style. -/
theorem mem_letters {s : CounterStyle} {n : Int} {c : Char} (hc : c ∈ (s.format n).toList) :
    c ∈ s.letters := by
  rw [format] at hc
  cases hfirst : s.rules.findSome? (·.represent? n) with
  | none =>
    rw [hfirst] at hc
    exact List.mem_append_right _ (mem_decimalLetters hc)
  | some t =>
    rw [hfirst] at hc
    obtain ⟨r, hr, ht⟩ := List.exists_of_findSome?_eq_some hfirst
    exact List.mem_append_left _ (List.mem_flatMap.2 ⟨r, hr, CounterRule.mem_letters ht hc⟩)

end CounterStyle
end Rubric
