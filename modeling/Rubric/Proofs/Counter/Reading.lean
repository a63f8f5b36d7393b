import Mathlib.Data.List.Induction
import Mathlib.Tactic.Ring
import Rubric.Proofs.Counter.Numerals

/-!
# Numerals read back

A numeral of each algorithm says which number it writes.

* `Numeral.Lettered symbols` : the symbols are characters, and no two are the same;
* `worth b ds` : the number with some digits; `IsPositional b n ds` : digits below `b` that are worth `n`, without a
  zero in front; `positional_worth`, `worth_bijectiveDigits` : the digits of a positional and of a bijective numeral
  are worth the number;
* `canBegin table bound s` : whether a sum below a bound can begin with some characters, and
  `Separable table` : no sum behind the copies of a symbol begins with that symbol again;
* `ChineseSymbols.step`, `ChineseSymbols.read` : Chinese numerals read character by character;
* `positional_injective`, `alphabetic_injective`, `additive_injective`, `symbolic_injective`,
  `chinese_injective` : no two numbers have the same numeral.
-/

namespace Rubric.Numeral

/-! ## Spelled digits -/

/-- The symbols are characters, and no two are the same. -/
def Lettered (symbols : List String) : Prop :=
  ∃ cs : List Char, cs.Nodup ∧ symbols = cs.map String.singleton

theorem toList_spell (cs : List Char) (ds : List Nat) :
    (spell (cs.map String.singleton) ds).toList = ds.flatMap fun d => cs[d]?.toList := by
  induction ds with
  | nil => rfl
  | cons d ds ih =>
    have hone : ((cs.map String.singleton).getD d "").toList = cs[d]?.toList := by
      rw [List.getD_eq_getElem?_getD, List.getElem?_map]
      cases cs[d]? <;> simp
    rw [List.flatMap_cons, ← ih, ← hone, ← String.toList_append, spell, List.map_cons, String.join_cons,
      spell]

theorem spell_injective {symbols : List String} (hs : Lettered symbols) {ds es : List Nat}
    (hds : ∀ d ∈ ds, d < symbols.length) (hes : ∀ e ∈ es, e < symbols.length)
    (h : spell symbols ds = spell symbols es) : ds = es := by
  obtain ⟨cs, hcs, rfl⟩ := hs
  have htext := congrArg String.toList h
  rw [toList_spell, toList_spell] at htext
  simp only [List.length_map] at hds hes
  clear h
  induction ds generalizing es with
  | nil =>
    cases es with
    | nil => rfl
    | cons e es => simp [hes e (List.mem_cons_self ..)] at htext
  | cons d ds ih =>
    have hd := hds d (List.mem_cons_self ..)
    cases es with
    | nil => simp [hd] at htext
    | cons e es =>
      have he := hes e (List.mem_cons_self ..)
      simp only [List.flatMap_cons, List.getElem?_eq_getElem hd, List.getElem?_eq_getElem he,
        Option.toList_some, List.singleton_append, List.cons.injEq] at htext
      obtain ⟨hsymbol, htail⟩ := htext
      rw [hcs.getElem_inj_iff] at hsymbol
      rw [hsymbol, ih htail (fun d hd => hds d (List.mem_cons_of_mem _ hd))
        (fun e he => hes e (List.mem_cons_of_mem _ he))]

/-- The number with some digits, the most significant one first. -/
def worth (b : Nat) (ds : List Nat) : Nat := ds.foldl (fun n d => b * n + d) 0

@[simp] theorem worth_nil (b : Nat) : worth b [] = 0 := rfl

@[simp] theorem worth_concat (b : Nat) (ds : List Nat) (d : Nat) :
    worth b (ds ++ [d]) = b * worth b ds + d := by
  simp [worth]

theorem worth_cons (b d : Nat) (ds : List Nat) : worth b (d :: ds) = d * b ^ ds.length + worth b ds := by
  induction ds using List.reverseRecOn with
  | nil => simp [worth]
  | append_singleton ds e ih =>
    rw [← List.cons_append, worth_concat, ih, worth_concat, List.length_append, List.length_singleton,
      Nat.pow_succ]
    ring

theorem worth_lt {b : Nat} {ds : List Nat} (hds : ∀ d ∈ ds, d < b) : worth b ds < b ^ ds.length := by
  induction ds with
  | nil => simp
  | cons d ds ih =>
    have hd := hds d (List.mem_cons_self ..)
    have hrest := ih fun e he => hds e (List.mem_cons_of_mem _ he)
    calc worth b (d :: ds) = d * b ^ ds.length + worth b ds := worth_cons ..
      _ < d * b ^ ds.length + b ^ ds.length := Nat.add_lt_add_left hrest _
      _ = (d + 1) * b ^ ds.length := (Nat.succ_mul ..).symm
      _ ≤ b * b ^ ds.length := Nat.mul_le_mul_right _ hd
      _ = b ^ (d :: ds).length := by rw [List.length_cons, Nat.pow_succ, Nat.mul_comm]

theorem worth_zeros (b k : Nat) (ds : List Nat) : worth b (List.replicate k 0 ++ ds) = worth b ds := by
  induction k with
  | zero => rfl
  | succ k ih => rw [List.replicate_succ, List.cons_append, worth_cons, Nat.zero_mul, Nat.zero_add, ih]

theorem worth_digits {b : Nat} (hb : 2 ≤ b) (n : Nat) : worth b (digits b n) = n := by
  induction n using Nat.strongRecOn with
  | ind n ih =>
    rcases Nat.eq_zero_or_pos n with rfl | hn
    · rw [digits_zero, worth_nil]
    · rw [digits_of_pos hb hn, worth_concat, ih _ (Nat.div_lt_self hn hb), Nat.div_add_mod]

theorem length_digits_le {b : Nat} (hb : 2 ≤ b) {n k : Nat} (h : n < b ^ k) : (digits b n).length ≤ k := by
  induction k generalizing n with
  | zero => simp [show n = 0 by simpa using h]
  | succ k ih =>
    rcases Nat.eq_zero_or_pos n with rfl | hn
    · simp
    · rw [digits_of_pos hb hn, List.length_append, List.length_singleton]
      exact Nat.succ_le_succ (ih (Nat.div_lt_of_lt_mul (by rwa [Nat.pow_succ, Nat.mul_comm] at h)))

theorem toDigits_eq_map {n : Nat} (hn : 0 < n) : Nat.toDigits 10 n = (digits 10 n).map Nat.digitChar := by
  induction n using Nat.strongRecOn with
  | ind n ih =>
    rw [digits_of_pos (by decide) hn]
    by_cases hsmall : n < 10
    · rw [Nat.toDigits_of_lt_base hsmall, Nat.div_eq_of_lt hsmall, Nat.mod_eq_of_lt hsmall, digits_zero]
      rfl
    · rw [Nat.toDigits_of_base_le (by decide) (by omega), ih (n / 10) (by omega) (by omega), List.map_append]
      rfl

/-- In the notation without a zero every digit is worth one more. -/
theorem worth_bijectiveDigits {b : Nat} (hb : 2 ≤ b) (n : Nat) :
    worth b ((bijectiveDigits b n).map (· + 1)) = n := by
  induction n using Nat.strongRecOn with
  | ind n ih =>
    rcases Nat.eq_zero_or_pos n with rfl | hn
    · rw [bijectiveDigits_zero, List.map_nil, worth_nil]
    · have hlt : (n - 1) / b < n := Nat.lt_of_le_of_lt (Nat.div_le_self ..) (Nat.sub_lt hn Nat.one_pos)
      have hsplit := Nat.div_add_mod (n - 1) b
      rw [bijectiveDigits_of_pos hb hn, List.map_append, List.map_singleton, worth_concat, ih _ hlt]
      omega

theorem bijectiveDigits_lt {b n : Nat} : ∀ d ∈ bijectiveDigits b n, d < b := by
  induction n using Nat.strongRecOn with
  | ind n ih =>
    intro d hd
    by_cases h : 2 ≤ b ∧ 0 < n
    · have hlt : (n - 1) / b < n :=
        Nat.lt_of_le_of_lt (Nat.div_le_self ..) (Nat.sub_lt h.2 Nat.one_pos)
      rw [bijectiveDigits_of_pos h.1 h.2] at hd
      rcases List.mem_append.1 hd with hd | hd
      · exact ih _ hlt d hd
      · rw [List.mem_singleton.1 hd]
        exact Nat.mod_lt _ (by omega)
    · rw [bijectiveDigits, dif_neg h] at hd
      cases hd

/-- Digits below the base that are worth a number. None is missing, and the first one is zero only if it stands
alone. -/
structure IsPositional (b n : Nat) (ds : List Nat) : Prop where
  ne_nil : ds ≠ []
  lt : ∀ d ∈ ds, d < b
  worth : worth b ds = n
  leading : ds.head? = some 0 → ds = [0]

/-- The digits of a number as they are written: zero has one of its own. -/
def writtenDigits (b n : Nat) : List Nat := if n = 0 then [0] else digits b n

theorem writtenDigits_of_pos {b n : Nat} (hn : 0 < n) : writtenDigits b n = digits b n := if_neg (Nat.ne_of_gt hn)

theorem isPositional_writtenDigits {b : Nat} (hb : 2 ≤ b) (n : Nat) : IsPositional b n (writtenDigits b n) := by
  rcases Nat.eq_zero_or_pos n with rfl | hn
  · exact ⟨List.cons_ne_nil 0 [], fun d hd => by rw [List.mem_singleton.1 hd]; omega, rfl, fun _ => rfl⟩
  · obtain ⟨d, ds, heq, hd⟩ := digits_eq_cons hb hn
    rw [writtenDigits_of_pos hn]
    refine ⟨by rw [heq]; exact List.cons_ne_nil d ds, digits_lt, worth_digits hb n, fun hzero => ?_⟩
    rw [heq] at hzero
    exact (hd (Option.some.inj hzero)).elim

theorem positional_eq {symbols : List String} (hsymbols : 2 ≤ symbols.length) (n : Nat) :
    positional symbols n = some (spell symbols (writtenDigits symbols.length n)) := by
  rw [positional, if_neg (Nat.not_lt.2 hsymbols), writtenDigits]
  split
  · obtain ⟨zero, rest, rfl⟩ := List.exists_cons_of_length_pos (by omega : 0 < symbols.length)
    simp [spell]
  · rfl

/-- A positional numeral is made of digits that are worth the number. -/
theorem positional_worth {symbols : List String} {n : Nat} {t : String}
    (h : positional symbols n = some t) :
    ∃ ds, t = spell symbols ds ∧ (∀ d ∈ ds, d < symbols.length) ∧ worth symbols.length ds = n := by
  by_cases hb : 2 ≤ symbols.length
  · have hds := isPositional_writtenDigits hb n
    exact ⟨_, Option.some.inj (h.symm.trans (positional_eq hb n)), hds.lt, hds.worth⟩
  · rw [positional, if_pos (Nat.not_le.1 hb)] at h
    cases h

theorem positional_injective {symbols : List String} (hs : Lettered symbols) {n m : Nat} {t : String}
    (hn : positional symbols n = some t) (hm : positional symbols m = some t) : n = m := by
  obtain ⟨ds, rfl, hds, hworth⟩ := positional_worth hn
  obtain ⟨es, hspell, hes, hworth'⟩ := positional_worth hm
  rw [← hworth, ← hworth', spell_injective hs hds hes hspell]

theorem alphabetic_injective {symbols : List String} (hs : Lettered symbols) {n m : Nat} {t : String}
    (hn : alphabetic symbols n = some t) (hm : alphabetic symbols m = some t) : n = m := by
  rw [alphabetic] at hn hm
  split at hn
  · cases hn
  split at hm
  · cases hm
  rename_i hb _
  cases hn
  have hdigits := spell_injective hs bijectiveDigits_lt bijectiveDigits_lt (Option.some.inj hm)
  rw [← worth_bijectiveDigits (b := symbols.length) (by omega) n, ← hdigits,
    worth_bijectiveDigits (by omega)]

/-! ## Repeated symbols -/

theorem toList_replicateText (n : Nat) (s : String) :
    (replicateText n s).toList = (List.replicate n s.toList).flatten := by
  induction n with
  | zero => rfl
  | succ n ih =>
    rw [List.replicate_succ, List.flatten_cons, ← ih, replicateText, List.replicate_succ, String.join_cons,
      String.toList_append]
    rfl

theorem replicateText_add (m n : Nat) (s : String) :
    replicateText (m + n) s = replicateText m s ++ replicateText n s := by
  rw [← String.toList_inj, String.toList_append, toList_replicateText, toList_replicateText,
    toList_replicateText, ← List.flatten_append, List.replicate_append_replicate]

/-- A symbolic numeral says which symbol it repeats, and how often. -/
theorem symbolic_injective {symbols : List String} (hs : Lettered symbols) {n m : Nat} {t : String}
    (hn : symbolic symbols n = some t) (hm : symbolic symbols m = some t) : n = m := by
  obtain ⟨cs, hcs, rfl⟩ := hs
  have hread : ∀ {n}, symbolic (cs.map String.singleton) n = some t →
      0 < n ∧ ∃ h : (n - 1) % cs.length < cs.length,
        t.toList = List.replicate ((n - 1) / cs.length + 1) cs[(n - 1) % cs.length] := by
    intro n hn
    rw [symbolic] at hn
    split at hn
    · cases hn
    · rename_i hpos
      dsimp only at hn
      split at hn
      · cases hn
      · obtain ⟨symbol, hsymbol, rfl⟩ := Option.map_eq_some_iff.1 hn
        rw [List.length_map, List.getElem?_map] at hsymbol
        obtain ⟨c, hc, rfl⟩ := Option.map_eq_some_iff.1 hsymbol
        obtain ⟨hlt, rfl⟩ := List.getElem?_eq_some_iff.1 hc
        refine ⟨by omega, hlt, ?_⟩
        rw [toList_replicateText, String.toList_singleton, List.flatten_replicate_singleton,
          List.length_map]
  obtain ⟨hn, hnlt, htn⟩ := hread hn
  obtain ⟨hm, hmlt, htm⟩ := hread hm
  rw [htn] at htm
  obtain ⟨hlap, hsymbol⟩ := List.replicate_inj.1 htm
  have hplace := (hcs.getElem_inj_iff).1 (hsymbol.resolve_left (Nat.succ_ne_zero _))
  have hsplit := Nat.div_add_mod (n - 1) cs.length
  have hsplit' := Nat.div_add_mod (m - 1) cs.length
  rw [Nat.add_right_cancel hlap, hplace] at hsplit
  omega

/-! ## Sums of weights -/

/-- A symbol as code points, which compare faster than characters. -/
def coded (e : Nat × String) : Nat × List Nat := (e.1, e.2.toList.map Char.toNat)

/-- Whether the sum for a number below a bound can begin with some code points. The symbols are taken in
the order of the table, and the bound falls with every weight. -/
def canBegin : List (Nat × List Nat) → Nat → List Nat → Bool
  | [], _, _ => false
  | (weight, symbol) :: rest, bound, s =>
    if weight = 0 then canBegin rest bound s
    else
      canBegin rest (min weight bound) s ||
        ((s.isPrefixOf symbol || symbol.isPrefixOf s) &&
          (List.range ((bound - 1) / weight)).any fun k =>
            let copies := (List.replicate (k + 1) symbol).flatten
            s.isPrefixOf copies ||
              (copies.isPrefixOf s &&
                canBegin rest (min weight (bound - (k + 1) * weight)) (s.drop copies.length)))

def separable : List (Nat × List Nat) → Bool
  | [] => true
  | (weight, symbol) :: rest => (weight == 0 || !canBegin rest weight symbol) && separable rest

/-- A symbol of the table is not mistaken for what comes after it. -/
def Separable (table : List (Nat × String)) : Prop := separable (table.map coded) = true

instance (table : List (Nat × String)) : Decidable (Separable table) := inferInstanceAs (Decidable (_ = _))

/-- What is left behind the copies of a symbol: nothing, or the sum for the rest of the number. -/
def Remainder (rest : List (Nat × String)) (n : Nat) (u : String) : Prop :=
  n = 0 ∧ u = "" ∨ n ≠ 0 ∧ additiveFrom rest n = some u

theorem additiveFrom_cons {weight : Nat} (hw : weight ≠ 0) (symbol : String) (rest : List (Nat × String))
    {n : Nat} {t : String} (h : additiveFrom ((weight, symbol) :: rest) n = some t) :
    ∃ u, t = replicateText (n / weight) symbol ++ u ∧ Remainder rest (n % weight) u := by
  rw [additiveFrom, if_neg hw] at h
  dsimp only at h
  split at h
  · rename_i hzero
    cases h
    exact ⟨"", String.append_empty.symm, Or.inl ⟨hzero, rfl⟩⟩
  · rename_i hrest
    obtain ⟨u, hu, rfl⟩ := Option.map_eq_some_iff.1 h
    exact ⟨u, rfl, Or.inr ⟨hrest, hu⟩⟩

theorem prefix_append_cases {α : Type} {s a b : List α} (h : s <+: a ++ b) :
    s <+: a ∨ ∃ s', s = a ++ s' ∧ s' <+: b := by
  rcases List.prefix_or_prefix_of_prefix h (List.prefix_append a b) with hs | hs
  · exact Or.inl hs
  · obtain ⟨s', rfl⟩ := hs
    exact Or.inr ⟨s', rfl, (List.prefix_append_right_inj a).1 h⟩

theorem canBegin_of_begins {table : List (Nat × String)} {n bound : Nat} {t : String} {s : List Nat}
    (h : additiveFrom table n = some t) (hn : n < bound) (hne : s ≠ []) (hs : s <+: t.toList.map Char.toNat) :
    canBegin (table.map coded) bound s = true := by
  induction table generalizing n bound t s with
  | nil => cases h
  | cons e rest ih =>
    obtain ⟨weight, symbol⟩ := e
    rw [List.map_cons, coded, canBegin]
    dsimp only
    split
    · rename_i hw
      rw [additiveFrom, if_pos hw] at h
      exact ih h hn hne hs
    · rename_i hw
      obtain ⟨u, rfl, hu⟩ := additiveFrom_cons hw symbol rest h
      have hlt := Nat.mod_lt n (Nat.pos_of_ne_zero hw)
      have hsplit := Nat.div_add_mod' n weight
      -- what stands behind the copies is the sum for the remainder
      have hleft : ∀ {bound s}, n % weight < bound → s ≠ [] → s <+: u.toList.map Char.toNat →
          canBegin (rest.map coded) bound s = true := by
        intro bound s hbound hne hs
        rcases hu with ⟨-, rfl⟩ | ⟨-, hu⟩
        · exact absurd (List.prefix_nil.1 hs) hne
        · exact ih hu hbound hne hs
      rw [String.toList_append, toList_replicateText, List.map_append, List.map_flatten, List.map_replicate] at hs
      cases hcopies : n / weight with
      | zero =>
        rw [hcopies] at hs hsplit
        exact Bool.or_eq_true_iff.2 (Or.inl (hleft (by omega) hne hs))
      | succ k =>
        rw [hcopies] at hs hsplit
        have hfirst : s <+: symbol.toList.map Char.toNat ∨ symbol.toList.map Char.toNat <+: s := by
          rw [List.replicate_succ, List.flatten_cons, List.append_assoc] at hs
          exact List.prefix_or_prefix_of_prefix hs (List.prefix_append ..)
        have hmany : k < (bound - 1) / weight := by
          have : k + 1 ≤ (bound - 1) / weight := hcopies ▸ Nat.div_le_div_right (by omega)
          exact this
        refine Bool.or_eq_true_iff.2 (Or.inr (Bool.and_eq_true_iff.2 ⟨by simpa using hfirst, ?_⟩))
        refine List.any_eq_true.2 ⟨k, List.mem_range.2 hmany, ?_⟩
        rcases prefix_append_cases hs with hs | ⟨s', rfl, hs'⟩
        · simp [hs]
        · by_cases hempty : s' = []
          · simp [hempty]
          · have hbound : n % weight < min weight (bound - (k + 1) * weight) := by omega
            simp [hleft hbound hempty hs']

section
variable {weight : Nat} {symbol : String} {rest : List (Nat × String)}

theorem Remainder.ne_append {n : Nat} {u : String} (h : Remainder rest n u) (hn : n < weight)
    (hbegin : canBegin (rest.map coded) weight (symbol.toList.map Char.toNat) = false) (hsymbol : symbol ≠ "")
    (v : String) : u ≠ symbol ++ v := by
  intro heq
  rcases h with ⟨-, rfl⟩ | ⟨-, hu⟩
  · exact append_ne_empty_left hsymbol heq.symm
  · have hne : symbol.toList.map Char.toNat ≠ [] := fun heq =>
      hsymbol (String.toList_eq_nil_iff.1 (List.map_eq_nil_iff.1 heq))
    have hprefix : symbol.toList.map Char.toNat <+: u.toList.map Char.toNat := by
      rw [heq, String.toList_append, List.map_append]
      exact List.prefix_append ..
    rw [canBegin_of_begins hu hn hne hprefix] at hbegin
    cases hbegin

/-- A text has at least as many copies of a symbol in front as any other way to cut it. -/
theorem copies_le {k k' : Nat} {u v : String} (hu : ∀ w, u ≠ symbol ++ w)
    (heq : replicateText k symbol ++ u = replicateText k' symbol ++ v) : k' ≤ k := by
  by_contra hlt
  obtain ⟨j, rfl⟩ : ∃ j, k' = k + (1 + j) := ⟨k' - k - 1, by omega⟩
  rw [replicateText_add, replicateText_add, String.append_assoc, String.append_assoc,
    String.append_right_inj] at heq
  refine hu (replicateText j symbol ++ v) (heq.trans ?_)
  rw [show replicateText 1 symbol = symbol by simp [replicateText]]

end

/-- A sum says how often each symbol has been taken. -/
theorem additiveFrom_injective {table : List (Nat × String)} (hs : Separable table)
    (ht : ∀ e ∈ table, e.2 ≠ "") {n m : Nat} {t : String} (hn : additiveFrom table n = some t)
    (hm : additiveFrom table m = some t) : n = m := by
  induction table generalizing n m t with
  | nil => cases hn
  | cons e rest ih =>
    obtain ⟨weight, symbol⟩ := e
    rw [Separable, List.map_cons, coded, separable, Bool.and_eq_true_iff] at hs
    obtain ⟨hfirst, hseparable⟩ := hs
    obtain ⟨hsymbol, hrest⟩ := List.forall_mem_cons.1 ht
    by_cases hw : weight = 0
    · rw [additiveFrom, if_pos hw] at hn hm
      exact ih hseparable hrest hn hm
    have hbegin : canBegin (rest.map coded) weight (symbol.toList.map Char.toNat) = false := by
      simpa [hw] using hfirst
    have hlt := fun k => Nat.mod_lt k (Nat.pos_of_ne_zero hw)
    obtain ⟨u, rfl, hu⟩ := additiveFrom_cons hw symbol rest hn
    obtain ⟨v, heq, hv⟩ := additiveFrom_cons hw symbol rest hm
    have hcopies : n / weight = m / weight := Nat.le_antisymm
      (copies_le (hv.ne_append (hlt m) hbegin hsymbol) heq.symm)
      (copies_le (hu.ne_append (hlt n) hbegin hsymbol) heq)
    have hsplit := Nat.div_add_mod n weight
    have hsplit' := Nat.div_add_mod m weight
    rw [hcopies, String.append_right_inj] at heq
    subst heq
    have hmod : n % weight = m % weight := by
      rcases hu with ⟨hzero, rfl⟩ | ⟨hpos, hu⟩ <;> rcases hv with ⟨hzero', hempty⟩ | ⟨hpos', hv⟩
      · omega
      · exact absurd hv (additiveFrom_ne_empty hrest (Nat.pos_of_ne_zero hpos'))
      · exact absurd (hempty ▸ hu) (additiveFrom_ne_empty hrest (Nat.pos_of_ne_zero hpos))
      · exact ih hseparable hrest hu hv
    rw [hcopies, hmod] at hsplit
    omega

theorem additive_injective {table : List (Nat × String)} (hs : Separable table)
    (ht : ∀ e ∈ table, e.2 ≠ "") (hzero : ∀ n t, additiveFrom table n = some t → additive table 0 ≠ some t)
    {n m : Nat} {t : String} (hn : additive table n = some t) (hm : additive table m = some t) : n = m := by
  have hpos : ∀ {k}, k ≠ 0 → additive table k = additiveFrom table k := fun hk => by
    rw [additive, if_neg hk]
  rcases Nat.eq_zero_or_pos n with rfl | hn0 <;> rcases Nat.eq_zero_or_pos m with rfl | hm0
  · rfl
  · exact absurd hn (hzero m t (hpos (Nat.ne_of_gt hm0) ▸ hm))
  · exact absurd hm (hzero n t (hpos (Nat.ne_of_gt hn0) ▸ hn))
  · rw [hpos (Nat.ne_of_gt hn0)] at hn
    rw [hpos (Nat.ne_of_gt hm0)] at hm
    exact additiveFrom_injective hs ht hn hm

/-! ## Chinese numerals -/

namespace ChineseSymbols

/-- No character stands for two things. -/
def Distinct (symbols : ChineseSymbols) : Prop :=
  (symbols.digits.toList ++ symbols.powers.toList).Nodup

instance (symbols : ChineseSymbols) : Decidable symbols.Distinct :=
  inferInstanceAs (Decidable (List.Nodup _))

/-- One more character. A digit waits for the mark of its place, and a mark alone counts once. -/
def step (symbols : ChineseSymbols) (state : Nat × Nat) (c : Char) : Nat × Nat :=
  if c ∈ symbols.digits.toList then (state.1, symbols.digits.toList.idxOf c)
  else
    (state.1 + (if state.2 = 0 then 1 else state.2) * 10 ^ (symbols.powers.toList.idxOf c + 1), 0)

def read (symbols : ChineseSymbols) (cs : List Char) : Nat :=
  let state := cs.foldl symbols.step (0, 0)
  state.1 + state.2

variable {symbols : ChineseSymbols}

theorem run_digit (h : symbols.Distinct) {d : Nat} (hd : d < 10) (state : Nat × Nat) :
    (symbols.digit d).foldl symbols.step state = (state.1, d) := by
  have hdigits := (List.nodup_append.1 h).1
  have hlt : d < symbols.digits.toList.length := by simpa using hd
  have hget : symbols.digits[d] = symbols.digits.toList[d] := by simp
  rw [digit, Vector.getElem?_eq_getElem hd, hget, Option.toList_some, List.foldl_cons, List.foldl_nil, step,
    if_pos (List.getElem_mem hlt), hdigits.idxOf_getElem]

theorem run_power (h : symbols.Distinct) {places : Nat} (hp : places < 3) (state : Nat × Nat) :
    (symbols.power (places + 1)).foldl symbols.step state =
      (state.1 + (if state.2 = 0 then 1 else state.2) * 10 ^ (places + 1), 0) := by
  obtain ⟨-, hpowers, hdisjoint⟩ := List.nodup_append.1 h
  have hlt : places < symbols.powers.toList.length := by simpa using hp
  have hget : symbols.powers[places] = symbols.powers.toList[places] := by simp
  have hnot : symbols.powers.toList[places] ∉ symbols.digits.toList := fun hmem =>
    hdisjoint _ hmem _ (List.getElem_mem hlt) rfl
  rw [power, if_neg (Nat.succ_ne_zero _), Nat.add_sub_cancel, Vector.getElem?_eq_getElem hp, hget,
    Option.toList_some, List.foldl_cons, List.foldl_nil, step, if_neg hnot, hpowers.idxOf_getElem]

/-- The rest of a numeral adds what its digits are worth. A digit of tens that is left out is a one. -/
theorem run_write (h : symbols.Distinct) (teen gap : Bool) {ds : List Nat} (hds : ∀ d ∈ ds, d < 10)
    (hlength : ds.length ≤ 4) (hteen : teen = true → ∀ d e, [d, e] <:+ ds → d = 1) (total : Nat) :
    ((symbols.write teen gap ds).foldl symbols.step (total, 0)).1 +
        ((symbols.write teen gap ds).foldl symbols.step (total, 0)).2 =
      total + worth 10 ds := by
  induction ds generalizing gap total with
  | nil => simp [write]
  | cons d ds ih =>
    have hrest : ∀ d ∈ ds, d < 10 := fun e he => hds e (List.mem_cons_of_mem _ he)
    have hd : d < 10 := hds d (List.mem_cons_self ..)
    have ih := fun gap total => ih gap hrest (Nat.le_of_succ_le hlength)
      (fun ht e f hs => hteen ht e f (hs.trans (List.suffix_cons d ds))) total
    rw [worth_cons, write]
    by_cases hzero : d = 0
    · rw [if_pos hzero, ih, hzero, Nat.zero_mul, Nat.zero_add]
    have hgap : (if gap then symbols.digit 0 else []).foldl symbols.step (total, 0) = (total, 0) := by
      cases gap with
      | true => exact run_digit h (by decide) _
      | false => rfl
    rw [if_neg hzero, List.foldl_append, List.foldl_append, List.foldl_append, hgap]
    cases ds with
    | nil =>
      rw [if_neg (by simp), run_digit h hd, write, List.length_nil, power, if_pos rfl]
      simp
    | cons e ds =>
      have hplaces : ds.length < 3 := by
        simp only [List.length_cons] at hlength
        omega
      have hmark : (symbols.power (e :: ds).length).foldl symbols.step
          ((if teen = true ∧ (e :: ds).length = 1 then [] else symbols.digit d).foldl symbols.step (total, 0)) =
            (total + d * 10 ^ (e :: ds).length, 0) := by
        rw [List.length_cons]
        split
        · rename_i hleft
          obtain ⟨ht, hone⟩ := hleft
          have hds : ds = [] := List.length_eq_zero_iff.1 (Nat.succ.inj hone)
          have hd : d = 1 := hteen ht d e (hds ▸ List.suffix_rfl)
          rw [List.foldl_nil, run_power h hplaces, hd]
          rfl
        · rw [run_digit h hd, run_power h hplaces]
          simp only [hzero, if_false]
      rw [hmark, ih, Nat.add_assoc]

end ChineseSymbols

theorem read_chinese {symbols : ChineseSymbols} (h : symbols.Distinct) {n : Nat} {t : String}
    (hn : chinese symbols n = some t) : symbols.read t.toList = n := by
  rw [chinese] at hn
  split at hn
  · cases hn
  rename_i hle
  split at hn
  · rename_i hzero
    cases hn
    rw [String.toList_ofList, ChineseSymbols.read, ChineseSymbols.run_digit h (by decide), hzero]
    rfl
  · rename_i hpos
    cases hn
    have hlength : (digits 10 n).length ≤ 4 := length_digits_le (by decide) (by omega)
    have hteen : decide (10 ≤ n ∧ n ≤ 19) = true → ∀ d e, [d, e] <:+ digits 10 n → d = 1 := by
      intro ht d e hs
      have hone : n / 10 = 1 := by
        have := of_decide_eq_true ht
        omega
      have hdigits : digits 10 n = [1, n % 10] := by
        rw [digits_of_pos (by decide) (by omega), hone, digits_of_pos (by decide) Nat.one_pos, Nat.div_eq_of_lt,
          digits_zero]
        · rfl
        · decide
      rw [hdigits] at hs
      exact (List.cons.inj (hs.eq_of_length rfl)).1
    rw [String.toList_ofList, ChineseSymbols.read]
    exact (ChineseSymbols.run_write h _ false (fun d hd => digits_lt d hd) hlength hteen 0).trans
      ((Nat.zero_add _).trans (worth_digits (by decide) n))

theorem chinese_injective {symbols : ChineseSymbols} (h : symbols.Distinct) {n m : Nat} {t : String}
    (hn : chinese symbols n = some t) (hm : chinese symbols m = some t) : n = m :=
  (read_chinese h hn).symm.trans (read_chinese h hm)

end Rubric.Numeral
