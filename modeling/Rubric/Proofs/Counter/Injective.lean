import Mathlib.Data.Set.Function
import Rubric.Proofs.Counter.Myriads

/-!
# Counts told apart by their text

* `CounterSystem.Legible`, `CounterRule.Legible` : symbols that cannot be mistaken for one another, and a sign
  and a fill that cannot be mistaken for symbols;
* `CounterRule.represent?_injective` : such a rule writes no two counts alike;
* `CounterStyle.injOn_format` : neither does a style with such a rule, if the rule writes no count as what is
  left out by it is written, in the three ways in which the predefined styles have this:
* `CounterStyle.injOn_ofRule_of_letters` : the letters of the rule are foreign to the style that takes over;
* `CounterStyle.injOn_of_numeric` : positional digits leave only the least 64-bit count out, and its decimal text
  is not one of their numerals;
* `CounterStyle.injOn_ofRule_of_length` : a numeral has a foreign letter or is shorter than every text of the
  style that takes over.
-/

namespace Rubric
namespace Numeral

theorem spell_append (symbols : List String) (ds es : List Nat) :
    spell symbols (ds ++ es) = spell symbols ds ++ spell symbols es := by
  rw [spell, List.map_append, String.join_append, spell, spell]

theorem replicateText_eq_spell {symbols : List String} {zero : String} (h : symbols.head? = some zero) (k : Nat) :
    replicateText k zero = spell symbols (List.replicate k 0) := by
  have hget : symbols.getD 0 "" = zero := by
    rw [List.getD_eq_getElem?_getD, ← List.head?_eq_getElem?, h, Option.getD_some]
  rw [replicateText, spell, List.map_replicate, hget]

theorem eq_map_idxOf_of_spell {cs : List Char} (hcs : cs.Nodup) {ds : List Nat} (hds : ∀ d ∈ ds, d < cs.length)
    {t : String} (h : spell (cs.map String.singleton) ds = t) :
    ds = t.toList.map (cs.idxOf ·) ∧ ∀ c ∈ t.toList, c ∈ cs := by
  rw [← h, toList_spell]
  clear h
  induction ds with
  | nil => simp
  | cons d ds ih =>
    have hd := hds d (List.mem_cons_self ..)
    obtain ⟨hrest, hmem⟩ := ih fun e he => hds e (List.mem_cons_of_mem _ he)
    rw [List.flatMap_cons, List.getElem?_eq_getElem hd, Option.toList_some, List.singleton_append, List.map_cons,
      hcs.idxOf_getElem, ← hrest]
    exact ⟨rfl, List.forall_mem_cons.2 ⟨List.getElem_mem hd, hmem⟩⟩

theorem length_spell {symbols : List String} (hs : Lettered symbols) {ds : List Nat}
    (hds : ∀ d ∈ ds, d < symbols.length) : (spell symbols ds).length = ds.length := by
  obtain ⟨cs, -, rfl⟩ := hs
  rw [List.length_map] at hds
  rw [← String.length_toList, toList_spell]
  induction ds with
  | nil => rfl
  | cons d ds ih =>
    have hd := hds d (List.mem_cons_self ..)
    rw [List.flatMap_cons, List.length_append, ih fun e he => hds e (List.mem_cons_of_mem _ he),
      List.getElem?_eq_getElem hd]
    simp [Nat.add_comm]

end Numeral

/-! ## Systems -/

namespace CounterSystem

/-- No symbol of the system can be mistaken for others. -/
def Legible : CounterSystem → Prop
  | numeric symbols | alphabetic symbols | symbolic symbols => Numeral.Lettered symbols
  | additive table =>
    Numeral.Separable table ∧ (∀ e ∈ table, e.2 ≠ "") ∧
      ∀ z ∈ table, z.1 = 0 → ∃ c ∈ z.2.toList, ∀ e ∈ table, e.1 ≠ 0 → c ∉ e.2.toList
  | cyclic _ => False
  | fixed _ symbols => symbols.Nodup
  | chinese symbols => symbols.Distinct
  | ethiopic => True

theorem additive_zero_ne {table : List (Nat × String)}
    (h : ∀ z ∈ table, z.1 = 0 → ∃ c ∈ z.2.toList, ∀ e ∈ table, e.1 ≠ 0 → c ∉ e.2.toList) (n : Nat) (t : String)
    (ht : Numeral.additiveFrom table n = some t) : Numeral.additive table 0 ≠ some t := by
  intro hzero
  rw [Numeral.additive, if_pos rfl] at hzero
  obtain ⟨z, hz, rfl⟩ := Option.map_eq_some_iff.1 hzero
  obtain ⟨c, hc, hnot⟩ := h z (List.mem_of_find?_eq_some hz) (by simpa using List.find?_some hz)
  obtain ⟨e, he, hw, hmem⟩ := Numeral.mem_additiveFrom ht hc
  exact hnot e he hw hmem

theorem tableEntry?_injective {first : Int} {symbols : List String} (hs : symbols.Nodup) {n m : Int} {t : String}
    (hn : tableEntry? first symbols n = some t) (hm : tableEntry? first symbols m = some t) : n = m := by
  rw [ tableEntry?] at hn hm
  split at hn
  · cases hn
  split at hm
  · cases hm
  have hlt := (List.getElem?_eq_some_iff.1 hn).1
  have := (List.getElem?_inj hlt hs).1 (hn.trans hm.symm)
  omega

theorem spell?_injective {s : CounterSystem} (hs : s.Legible) {n m : Nat} {t : String}
    (hn : s.spell? n = some t) (hm : s.spell? m = some t) : n = m := by
  cases s with
  | numeric symbols => exact Numeral.positional_injective hs hn hm
  | alphabetic symbols => exact Numeral.alphabetic_injective hs hn hm
  | additive table =>
    exact Numeral.additive_injective hs.1 hs.2.1 (additive_zero_ne hs.2.2) hn hm
  | symbolic symbols => exact Numeral.symbolic_injective hs hn hm
  | cyclic symbols => exact hs.elim
  | fixed first symbols => exact Int.ofNat_inj.1 (tableEntry?_injective hs hn hm)
  | chinese symbols => exact Numeral.chinese_injective hs hn hm
  | ethiopic => exact Numeral.ethiopic_injective hn hm

/-- A legible system writes no two counts alike. -/
theorem represent?_injective {s : CounterSystem} (hs : s.Legible) {n m : Int} {t : String}
    (hn : s.represent? n = some t) (hm : s.represent? m = some t) : n = m := by
  cases s with
  | fixed first symbols => exact tableEntry?_injective hs hn hm
  | _ =>
    rw [represent?] at hn hm
    · split at hn
      · cases hn
      split at hm
      · cases hm
      have := spell?_injective hs hn hm
      omega
    all_goals
      intros
      contradiction

end CounterSystem

/-! ## Rules -/

namespace CounterRule
open Numeral

def body (r : CounterRule) (signed : Bool) (core : String) : String := r.fill signed core.length ++ core

theorem wrap_true (r : CounterRule) (core : String) :
    r.wrap true core =
      r.affixes.before ++ (r.sign.before ++ r.body true core ++ r.sign.after) ++ r.affixes.after := rfl

theorem wrap_false (r : CounterRule) (core : String) :
    r.wrap false core = r.affixes.before ++ r.body false core ++ r.affixes.after := rfl

/-- The system is legible, the sign begins with a letter of its own, and the fill is made of zeros. -/
structure Legible (r : CounterRule) : Prop where
  system : r.system.Legible
  sign : ∃ c ∈ r.sign.before.toList.head?, c ∉ r.system.letters
  pad : ∀ pad, r.pad = some pad → ∃ symbols, r.system = .numeric symbols ∧ symbols.head? = some pad.symbol

theorem isSigned_eq {r : CounterRule} {n : Int} (h : r.isSigned n = true) : n < 0 := by
  rw [isSigned, Bool.and_eq_true, decide_eq_true_eq] at h
  exact h.1

/-- Digits in positional notation, fill included, are worth the magnitude of the count. -/
theorem body_of_numeric {r : CounterRule} {symbols : List String} (hr : r.system = .numeric symbols)
    (hpad : ∀ pad, r.pad = some pad → symbols.head? = some pad.symbol) {n : Int} {core : String}
    (h : r.core? n = some core) (signed : Bool) :
    ∃ ds, r.body signed core = spell symbols ds ∧ (∀ d ∈ ds, d < symbols.length) ∧
      worth symbols.length ds = n.natAbs := by
  have hcore : positional symbols n.natAbs = some core := by
    obtain ⟨hpos, h⟩ := CounterSystem.spell?_of_represent? (by rw [hr]; rfl) (core?_eq_represent? h)
    have hnat : (if r.isSigned n = true then (n.natAbs : Int) else n).toNat = n.natAbs := by
      split at hpos <;> split <;> omega
    rwa [hnat, hr] at h
  obtain ⟨ds, hds, hlt, hworth⟩ := positional_worth hcore
  cases hp : r.pad with
  | none =>
    refine ⟨ds, ?_, hlt, hworth⟩
    rw [body, fill, hp, hds]
    exact String.empty_append
  | some pad =>
    have hhead := hpad pad hp
    have hlength : 0 < symbols.length := List.length_pos_iff.2 fun h => by simp [h] at hhead
    rw [body, fill, hp]
    dsimp only
    rw [replicateText_eq_spell hhead, hds, ← spell_append]
    refine ⟨_, rfl, ?_, (worth_zeros ..).trans hworth⟩
    intro d hd
    rcases List.mem_append.1 hd with hd | hd
    · exact List.eq_of_mem_replicate hd ▸ hlength
    · exact hlt d hd

theorem body_injective {r : CounterRule} (hr : r.Legible) {n m : Int} {a b : String} (hn : r.core? n = some a)
    (hm : r.core? m = some b) (hsigned : r.isSigned n = r.isSigned m)
    (h : r.body (r.isSigned n) a = r.body (r.isSigned m) b) : n = m := by
  cases hp : r.pad with
  | none =>
    have hfill : ∀ signed core, r.body signed core = core := fun signed core => by
      rw [body, fill, hp]
      exact String.empty_append
    rw [hfill, hfill] at h
    have hcount := CounterSystem.represent?_injective hr.system (core?_eq_represent? hn)
      (h ▸ core?_eq_represent? hm)
    rw [← hsigned] at hcount
    split at hcount
    · rename_i hs
      have := isSigned_eq hs
      have := isSigned_eq (hsigned ▸ hs)
      omega
    · exact hcount
  | some pad =>
    obtain ⟨symbols, hnumeric, hhead⟩ := hr.pad pad hp
    have hpad : ∀ pad, r.pad = some pad → symbols.head? = some pad.symbol := fun pad' hp' =>
      Option.some.inj (hp.symm.trans hp') ▸ hhead
    have hlettered : Lettered symbols := by
      have := hr.system
      rwa [hnumeric] at this
    obtain ⟨ds, hds, hlt, hworth⟩ := body_of_numeric hnumeric hpad hn (r.isSigned n)
    obtain ⟨es, hes, hlt', hworth'⟩ := body_of_numeric hnumeric hpad hm (r.isSigned m)
    have habs : n.natAbs = m.natAbs := by
      rw [← hworth, ← hworth', spell_injective hlettered hlt hlt' (hds.symm.trans (h.trans hes))]
    have hneg : n < 0 ↔ m < 0 := by
      simpa [isSigned, hnumeric, CounterSystem.signed] using hsigned
    omega

theorem mem_letters_of_body {r : CounterRule} (hr : r.Legible) {n : Int} {core : String}
    (h : r.core? n = some core) {signed : Bool} {c : Char} (hc : c ∈ (r.body signed core).toList) :
    c ∈ r.system.letters := by
  rw [body, String.toList_append] at hc
  rcases List.mem_append.1 hc with hc | hc
  · have hc := mem_fill hc
    cases hp : r.pad with
    | none =>
      rw [hp] at hc
      cases hc
    | some pad =>
      obtain ⟨symbols, hnumeric, hhead⟩ := hr.pad pad hp
      rw [hp] at hc
      rw [hnumeric]
      exact List.mem_flatMap.2 ⟨_, List.mem_of_head? hhead, hc⟩
  · exact CounterSystem.mem_letters (core?_eq_represent? h) hc

theorem sign_append_ne_body {r : CounterRule} (hr : r.Legible) {n : Int} {core : String}
    (h : r.core? n = some core) (signed : Bool) (t : String) : r.sign.before ++ t ≠ r.body signed core := by
  intro heq
  obtain ⟨c, hc, hnot⟩ := hr.sign
  have hmem : c ∈ (r.body signed core).toList := by
    rw [← heq, String.toList_append]
    exact List.mem_append_left _ (List.mem_of_head? hc)
  exact hnot (mem_letters_of_body hr h hmem)

/-- A legible rule writes no two counts alike. -/
theorem represent?_injective {r : CounterRule} (hr : r.Legible) {n m : Int} {t : String}
    (hn : r.represent? n = some t) (hm : r.represent? m = some t) : n = m := by
  obtain ⟨-, a, ha, rfl⟩ := represent?_eq_some hn
  obtain ⟨-, b, hb, h⟩ := represent?_eq_some hm
  have hbody := body_injective hr ha hb
  cases hsn : r.isSigned n <;> cases hsm : r.isSigned m <;> rw [hsn, hsm] at h hbody
  · rw [wrap_false, wrap_false, String.append_left_inj, String.append_right_inj] at h
    exact hbody rfl h
  · rw [wrap_false, wrap_true, String.append_left_inj, String.append_right_inj, String.append_assoc] at h
    exact (sign_append_ne_body hr ha _ _ h.symm).elim
  · rw [wrap_true, wrap_false, String.append_left_inj, String.append_right_inj, String.append_assoc] at h
    exact (sign_append_ne_body hr hb _ _ h).elim
  · rw [wrap_true, wrap_true, String.append_left_inj, String.append_right_inj, String.append_left_inj,
      String.append_right_inj] at h
    exact hbody rfl h

end CounterRule

/-! ## Styles -/

namespace CounterStyle
open CounterRule (maxMagnitude)

def counts : Set Int := {n | -(maxMagnitude : Int) - 1 ≤ n ∧ n ≤ maxMagnitude}

/-- The least count, the only one without a 64-bit magnitude. -/
def leastCount : Int := -(maxMagnitude : Int) - 1

/-- The text of a count that the style's own rule leaves out. -/
def rest (s : CounterStyle) (n : Int) : String := s.fallback?.elim (toString n) (·.format n)

@[simp] theorem rest_ofRule (r : CounterRule) (s : CounterStyle) (n : Int) : (ofRule r s).rest n = s.format n := by
  rw [rest, fallback?_ofRule]
  rfl

theorem format_eq (s : CounterStyle) (n : Int) : s.format n = (s.rule.represent? n).getD (s.rest n) := by
  cases h : s.rule.represent? n with
  | none => exact format_of_not_represent h
  | some t => exact format_of_represent h

/-- A style tells counts apart if its rule does, if what takes over does, and if the two have no text in common. -/
theorem injOn_format {s : CounterStyle} (hrule : s.rule.Legible)
    (hrest : ∀ n ∈ counts, ∀ m ∈ counts, s.rule.represent? n = none → s.rule.represent? m = none →
      s.rest n = s.rest m → n = m)
    (hapart : ∀ n, ∀ m ∈ counts, ∀ t, s.rule.represent? n = some t → s.rule.represent? m = none → s.rest m ≠ t) :
    Set.InjOn s.format counts := by
  intro n hn m hm h
  rw [format_eq, format_eq] at h
  cases hrn : s.rule.represent? n with
  | none =>
    cases hrm : s.rule.represent? m with
    | none =>
      rw [hrn, hrm] at h
      exact hrest n hn m hm hrn hrm h
    | some t =>
      rw [hrn, hrm] at h
      exact (hapart m n hn t hrm hrn h).elim
  | some t =>
    cases hrm : s.rule.represent? m with
    | none =>
      rw [hrn, hrm] at h
      exact (hapart n m hm t hrn hrm h.symm).elim
    | some u =>
      rw [hrn, hrm] at h
      exact CounterRule.represent?_injective hrule (hrn.trans (congrArg some h)) hrm

/-- A rule in front of a style with other letters. -/
theorem injOn_ofRule_of_letters {r : CounterRule} {s : CounterStyle} (hr : r.Legible) (hink : r.system.Inked)
    (hletters : ∀ c ∈ r.system.letters, c ∉ s.letters) (hs : Set.InjOn s.format counts) :
    Set.InjOn (ofRule r s).format counts := by
  refine injOn_format hr ?_ ?_
  · intro n hn m hm _ _ h
    rw [rest_ofRule, rest_ofRule] at h
    exact hs hn hm h
  · intro n m _ t ht _ h
    rw [rest_ofRule] at h
    obtain ⟨c, hc, hletter⟩ := CounterRule.exists_mem_letters hink ht
    exact hletters c hletter (mem_letters (n := m) (h ▸ hc))

/-- A rule whose numerals are shorter than the texts of the style that takes over, or have a foreign letter. -/
theorem injOn_ofRule_of_length {r : CounterRule} {s : CounterStyle} {k : Nat} (hr : r.Legible)
    (hshort : ∀ n t, r.represent? n = some t → (∃ c ∈ t.toList, c ∉ s.letters) ∨ t.length ≤ k)
    (hlong : ∀ m ∈ counts, r.represent? m = none → k < (s.format m).length)
    (hs : Set.InjOn s.format counts) : Set.InjOn (ofRule r s).format counts := by
  refine injOn_format hr ?_ ?_
  · intro n hn m hm _ _ h
    rw [rest_ofRule, rest_ofRule] at h
    exact hs hn hm h
  · intro n m hm t ht hnone h
    rw [rest_ofRule] at h
    rcases hshort n t ht with ⟨c, hc, hforeign⟩ | hle
    · exact hforeign (mem_letters (n := m) (h ▸ hc))
    · exact absurd (hlong m hm hnone) (Nat.not_lt.2 (h ▸ hle))

/-- A rule of positional digits without bounds writes every count but the least one. -/
theorem eq_leastCount_of_numeric {r : CounterRule} {symbols : List String} (hr : r.system = .numeric symbols)
    (hsymbols : 2 ≤ symbols.length) (hrange : r.range = .unbounded) {n : Int} (hn : n ∈ counts)
    (h : r.represent? n = none) : n = leastCount := by
  have hpositional : ∀ k : Nat, r.system.represent? k ≠ none := by
    intro k
    rw [CounterSystem.represent?_natCast (by rw [hr]; rfl), hr, CounterSystem.spell?, Numeral.positional,
      if_neg (by omega)]
    split
    · rw [Ne, List.head?_eq_none_iff]
      rintro rfl
      cases hsymbols
    · exact Option.some_ne_none _
  rw [CounterRule.represent?, hrange, CounterRange.contains_unbounded, if_pos rfl, Option.map_eq_none_iff,
    CounterRule.core?] at h
  obtain ⟨hleast, hmost⟩ := hn
  split at h
  · rename_i hsigned
    have := CounterRule.isSigned_eq hsigned
    split at h
    · exact absurd h (hpositional _)
    · rw [leastCount]
      omega
  · rename_i hsigned
    have hnonneg : 0 ≤ n := by
      simpa [CounterRule.isSigned, hr, CounterSystem.signed] using hsigned
    obtain ⟨k, rfl⟩ := Int.eq_ofNat_of_zero_le hnonneg
    exact absurd h (hpositional k)

/-- Positional digits, none of whose numerals is the decimal text of the least count. -/
theorem injOn_of_numeric {s : CounterStyle} {cs : List Char} (hrule : s.rule.Legible)
    (hsystem : s.rule.system = .numeric (cs.map String.singleton)) (hcs : cs.Nodup) (hlength : 2 ≤ cs.length)
    (hrange : s.rule.range = .unbounded) (hsign : s.rule.sign = ⟨"-", ""⟩) (haffixes : s.rule.affixes = ⟨"", ""⟩)
    (hrest : s.rest leastCount = "-9223372036854775808")
    (hread : (∃ c ∈ "9223372036854775808".toList, c ∉ cs) ∨
      maxMagnitude < Numeral.worth cs.length ("9223372036854775808".toList.map (cs.idxOf ·))) :
    Set.InjOn s.format counts := by
  have hleast : ∀ n ∈ counts, s.rule.represent? n = none → n = leastCount := fun n hn =>
    eq_leastCount_of_numeric hsystem (by rwa [List.length_map]) hrange hn
  refine injOn_format hrule ?_ ?_
  · intro n hn m hm hrn hrm _
    rw [hleast n hn hrn, hleast m hm hrm]
  · intro n m hm t ht hrm h
    rw [hleast m hm hrm, hrest] at h
    obtain ⟨-, core, hcore, rfl⟩ := CounterRule.represent?_eq_some ht
    cases hsigned : s.rule.isSigned n with
    | false =>
      rw [hsigned, CounterRule.wrap_false, haffixes, String.empty_append, String.append_empty] at h
      refine CounterRule.sign_append_ne_body hrule hcore false "9223372036854775808" ?_
      rw [hsign, ← h]
      rfl
    | true =>
      rw [hsigned, CounterRule.wrap_true, haffixes, hsign, String.empty_append, String.append_empty,
        String.append_empty, show "-9223372036854775808" = "-" ++ "9223372036854775808" from rfl,
        String.append_right_inj] at h
      have hpad : ∀ pad, s.rule.pad = some pad → (cs.map String.singleton).head? = some pad.symbol := by
        intro pad hpad
        obtain ⟨symbols, hnumeric, hhead⟩ := hrule.pad pad hpad
        rw [hsystem] at hnumeric
        cases hnumeric
        exact hhead
      obtain ⟨ds, hds, hlt, hworth⟩ := CounterRule.body_of_numeric hsystem hpad hcore true
      rw [List.length_map] at hlt hworth
      obtain ⟨hplaces, hmem⟩ := Numeral.eq_map_idxOf_of_spell hcs hlt (hds.symm.trans h.symm)
      rcases hread with ⟨c, hc, hnot⟩ | hread
      · exact hnot (hmem c hc)
      · rw [← hplaces, hworth] at hread
        rw [CounterRule.core?, if_pos hsigned, if_neg (by omega)] at hcore
        cases hcore

end CounterStyle
end Rubric
