import Mathlib.Data.List.TakeDrop
import Rubric.Counter.Style
import Rubric.Proofs.Counter.Reading

/-!
# Numerals in machine words

Numerals are worked out with words of 64 bits and with tables that are read by number. A step that leaves
the words or the table is a fault.

* `Fault`, `Checked` : what stops a computation, and computations that can be stopped;
* `Word.signed`, `Word.unsigned`, `Word.quotient`, `Word.entry` : the steps;
* `Word.core` : the numeral of a count by its system;
* `CounterSystem.Fits` : tables that fit into memory;
* `Word.core_eq` : no count of 64 bits leads to a fault, and the numeral is that of the system.

Texts may be of any length: memory that runs out is no fault here.
-/

namespace Rubric

/-! ## Steps -/

/-- What stops a computation with words. -/
inductive Fault where
  /-- A number is no word. -/
  | overflow
  | zeroDivisor
  /-- A table has no entry at a place. -/
  | outOfBounds
  /-- A loop does not come nearer to its end. -/
  | endless
deriving DecidableEq

abbrev Checked := Except Fault

namespace Checked

theorem ok_bind {α β : Type} (a : α) (f : α → Checked β) : (Except.ok a >>= f) = f a := rfl

theorem ok_map {α β : Type} (a : α) (f : α → β) : f <$> (Except.ok a : Checked α) = .ok (f a) := rfl

theorem mapM_ok {α β : Type} {f : α → Checked β} {g : α → β} {l : List α} (h : ∀ a ∈ l, f a = .ok (g a)) :
    l.mapM f = .ok (l.map g) := by
  induction l with
  | nil => rfl
  | cons a l ih =>
    obtain ⟨ha, hl⟩ := List.forall_mem_cons.1 h
    rw [List.mapM_cons, ha, ih hl]
    rfl

end Checked

namespace Word
open Checked

def IsSigned (n : Int) : Prop := -9223372036854775808 ≤ n ∧ n ≤ 9223372036854775807

instance (n : Int) : Decidable (IsSigned n) := inferInstanceAs (Decidable (_ ∧ _))

def greatest : Nat := 18446744073709551615

def signed (n : Int) : Checked Int := if IsSigned n then .ok n else .error .overflow

def unsigned (n : Int) : Checked Nat :=
  if 0 ≤ n ∧ n ≤ greatest then .ok n.toNat else .error .overflow

/-- The bits of a word without a sign, read with a sign. -/
def resign (n : Nat) : Int := if n ≤ 9223372036854775807 then n else n - 18446744073709551616

def quotient (n d : Nat) : Checked Nat := if d = 0 then .error .zeroDivisor else .ok (n / d)

def remainder (n d : Nat) : Checked Nat := if d = 0 then .error .zeroDivisor else .ok (n % d)

def signedQuotient (n d : Int) : Checked Int := if d = 0 then .error .zeroDivisor else signed (n.tdiv d)

/-- What is left of a division with a sign. It cannot be taken where the quotient is no word. -/
def signedRemainder (n d : Int) : Checked Int := do
  let _ ← signedQuotient n d
  return n.tmod d

def entry {α : Type} (table : List α) (i : Nat) : Checked α := table[i]?.elim (.error .outOfBounds) .ok

def difference? (n m : Int) : Option Int := if IsSigned (n - m) then some (n - m) else none

def magnitude? (n : Int) : Option Int := if IsSigned n.natAbs then some n.natAbs else none

section Steps
variable {α : Type} {n d i : Nat} {table : List α} {x : α}

theorem unsigned_eq (h : n ≤ greatest) : unsigned (n : Int) = .ok n := by
  rw [unsigned, if_pos ⟨Int.natCast_nonneg n, by exact_mod_cast h⟩, Int.toNat_natCast]

theorem unsigned_sub (hd : d ≤ n) (hn : n ≤ greatest) : unsigned ((n : Int) - d) = .ok (n - d) := by
  rw [← Int.ofNat_sub hd]
  exact unsigned_eq (by omega)

theorem signed_eq {n : Int} (h : IsSigned n) : signed n = .ok n := if_pos h

theorem resign_eq (h : n ≤ 9223372036854775807) : resign n = n := if_pos h

theorem quotient_eq (hd : 0 < d) : quotient n d = .ok (n / d) := if_neg (by omega)

theorem remainder_eq (hd : 0 < d) : remainder n d = .ok (n % d) := if_neg (by omega)

theorem entry_eq (h : table[i]? = some x) : entry table i = .ok x := by
  rw [entry, h]
  rfl

theorem signedQuotient_eq (hd : 0 < d) (hn : n ≤ 9223372036854775807) :
    signedQuotient n d = .ok ((n / d : Nat) : Int) := by
  have hle : n / d ≤ n := Nat.div_le_self n d
  have hquotient : (n : Int).tdiv d = ((n / d : Nat) : Int) := rfl
  rw [signedQuotient, if_neg (by omega), hquotient]
  generalize n / d = q at hle
  exact signed_eq ⟨by omega, by omega⟩

theorem signedRemainder_eq (hd : 0 < d) (hn : n ≤ 9223372036854775807) :
    signedRemainder n d = .ok ((n % d : Nat) : Int) := by
  rw [signedRemainder, signedQuotient_eq hd hn]
  rfl

end Steps

/-! ## Digits -/

/-- The digits of a number, the last one first. Something is taken off before each division. -/
def digitLoop (base less n : Nat) : Checked (List Nat) :=
  if n = 0 then .ok []
  else do
    let m ← unsigned ((n : Int) - less)
    let digit ← remainder m base
    let rest ← quotient m base
    if _ : rest < n then (digit :: ·) <$> digitLoop base less rest else .error .endless
termination_by n

section Digits
variable {b n : Nat}

theorem digitLoop_digits (hb : 2 ≤ b) (hn : n ≤ greatest) :
    digitLoop b 0 n = .ok (Numeral.digits b n).reverse := by
  induction n using Nat.strongRecOn with
  | ind n ih =>
    rw [digitLoop]
    by_cases hzero : n = 0
    · rw [if_pos hzero, hzero, Numeral.digits_zero]
      rfl
    · have hpos : 0 < n := Nat.pos_of_ne_zero hzero
      have hlt : n / b < n := Nat.div_lt_self hpos hb
      have hrest := ih (n / b) hlt (by omega)
      rw [if_neg hzero, unsigned_sub (Nat.zero_le n) hn, Nat.sub_zero, ok_bind, remainder_eq (by omega),
        ok_bind, quotient_eq (by omega), ok_bind, dif_pos hlt, hrest, ok_map,
        Numeral.digits_of_pos hb hpos, List.reverse_append]
      rfl

theorem digitLoop_bijective (hb : 2 ≤ b) (hn : n ≤ greatest) :
    digitLoop b 1 n = .ok (Numeral.bijectiveDigits b n).reverse := by
  induction n using Nat.strongRecOn with
  | ind n ih =>
    rw [digitLoop]
    by_cases hzero : n = 0
    · rw [if_pos hzero, hzero, Numeral.bijectiveDigits_zero]
      rfl
    · have hpos : 0 < n := Nat.pos_of_ne_zero hzero
      have hlt : (n - 1) / b < n := Nat.lt_of_le_of_lt (Nat.div_le_self ..) (by omega)
      have hrest := ih ((n - 1) / b) hlt (by omega)
      rw [if_neg hzero, unsigned_sub hpos hn, ok_bind, remainder_eq (by omega), ok_bind,
        quotient_eq (by omega), ok_bind, dif_pos hlt, hrest, ok_map,
        Numeral.bijectiveDigits_of_pos hb hpos, List.reverse_append]
      rfl

end Digits

/-! ## The systems -/

/-- The symbols of digits that are given the last one first. -/
def spellBack (symbols : List String) (digits : List Nat) : Checked String := do
  let texts ← digits.mapM (entry symbols)
  return String.join texts.reverse

def numeric (symbols : List String) (n : Int) : Checked (Option String) :=
  if symbols.length < 2 ∨ n < 0 then .ok none
  else if n = 0 then some <$> entry symbols 0
  else do
    let digits ← digitLoop symbols.length 0 n.toNat
    some <$> spellBack symbols digits

def alphabetic (symbols : List String) (n : Int) : Checked (Option String) :=
  if symbols.length < 2 ∨ n < 1 then .ok none
  else do
    let digits ← digitLoop symbols.length 1 n.toNat
    some <$> spellBack symbols digits

/-- The weights in turn, each taken off as often as it fits. -/
def additiveLoop (out : String) : List (Nat × String) → Nat → Checked (Option String)
  | [], _ => .ok none
  | (weight, symbol) :: rest, n =>
    if weight = 0 then additiveLoop out rest n
    else do
      let copies ← quotient n weight
      let taken ← unsigned ((copies : Int) * weight)
      let left ← unsigned ((n : Int) - taken)
      let out := out ++ Numeral.replicateText copies symbol
      if left = 0 then return some out else additiveLoop out rest left

def additive (table : List (Nat × String)) (n : Int) : Checked (Option String) :=
  if n < 0 then .ok none
  else if n = 0 then .ok ((table.find? fun e => e.1 == 0).map (·.2))
  else additiveLoop "" table n.toNat

/-- One symbol, once more on every lap. -/
def symbolic (symbols : List String) (n : Int) : Checked (Option String) :=
  if n < 1 ∨ symbols.isEmpty then .ok none
  else do
    let before ← signed (n - 1)
    let laps ← signedQuotient before (resign symbols.length)
    let copies ← signed (laps + 1)
    if copies > Numeral.longestRun then return none
    else
      let place ← signedRemainder before (resign symbols.length)
      let symbol ← entry symbols place.toNat
      return some (Numeral.replicateText copies.toNat symbol)

/-- The symbols over and over. -/
def cyclic (symbols : List String) (n : Int) : Checked (Option String) :=
  if n < 1 ∨ symbols.isEmpty then .ok none
  else do
    let before ← signed (n - 1)
    let place ← remainder before.toNat symbols.length
    some <$> entry symbols place

/-- A table. A place that is no word is not in it. -/
def fixed (first : Int) (symbols : List String) (n : Int) : Checked (Option String) :=
  match difference? n first with
  | none => .ok none
  | some place => .ok (if place < 0 then none else symbols[place.toNat]?)

def omitIf (skip : Bool) (text : Checked (List Char)) : Checked (List Char) := if skip then .ok [] else text

def character (row : List Char) (i : Nat) : Checked (List Char) := (fun c => [c]) <$> entry row i

/-- The character at a place of a row, where places count from one and there is nothing at zero. -/
def characterFromOne (row : List Char) (d : Nat) : Checked (List Char) :=
  if d = 0 then .ok []
  else do
    let place ← unsigned ((d : Int) - 1)
    character row place

/-- The characters for the digits of a Chinese numeral of some length, from a place on. -/
def chineseLoop (symbols : Numeral.ChineseSymbols) (teen : Bool) (length : Nat) :
    Nat → Bool → List Nat → Checked (List Char)
  | _, _, [] => .ok []
  | i, gap, d :: ds => do
    let last ← unsigned ((length : Int) - 1)
    let power ← unsigned ((last : Int) - i)
    if d = 0 then chineseLoop symbols teen length (i + 1) true ds
    else do
      let zero ← omitIf (!gap) (character symbols.digits.toList 0)
      let digit ← omitIf (teen && power == 1) (character symbols.digits.toList d)
      let mark ← characterFromOne symbols.powers.toList power
      let rest ← chineseLoop symbols teen length (i + 1) false ds
      return zero ++ digit ++ mark ++ rest

def digitValue (c : Char) : Checked Nat := unsigned ((c.toNat : Int) - '0'.toNat)

/-- A Chinese numeral. Its digits are those of the decimal text. -/
def chinese (symbols : Numeral.ChineseSymbols) (n : Int) : Checked (Option String) :=
  if ¬(0 ≤ n ∧ n ≤ 9999) then .ok none
  else if n = 0 then (fun s => some (String.ofList s)) <$> character symbols.digits.toList 0
  else do
    let digits ← (toString n).toList.mapM digitValue
    let text ← chineseLoop symbols (decide (10 ≤ n ∧ n ≤ 19)) digits.length 0 false digits
    return some (String.ofList text)

/-- The characters for one group of an Ethiopic numeral. -/
def ethiopicGroup (groups : List Nat) (top i : Nat) : Checked (List Char) := do
  let group ← entry groups i
  let odd := i % 2 == 1
  let bare := group == 0 || (group == 1 && (i == top || odd))
  let tens ← omitIf bare (characterFromOne Numeral.Ethiopic.tens (group / 10))
  let ones ← omitIf bare (characterFromOne Numeral.Ethiopic.ones (group % 10))
  let mark :=
    if odd then (if group = 0 then [] else [Numeral.Ethiopic.hundred])
    else if i = 0 then [] else [Numeral.Ethiopic.myriad]
  return tens ++ ones ++ mark

/-- The characters for the groups from a place down. -/
def ethiopicLoop (groups : List Nat) (top : Nat) : Nat → Checked (List Char)
  | 0 => ethiopicGroup groups top 0
  | i + 1 => do
    let here ← ethiopicGroup groups top (i + 1)
    let rest ← ethiopicLoop groups top i
    return here ++ rest

def ethiopic (n : Int) : Checked (Option String) :=
  if n < 1 then .ok none
  else if n = 1 then (fun s => some (String.ofList s)) <$> character Numeral.Ethiopic.ones 0
  else do
    let groups ← digitLoop 100 0 n.toNat
    let top ← unsigned ((groups.length : Int) - 1)
    let text ← ethiopicLoop groups top top
    return some (String.ofList text)

def core : CounterSystem → Int → Checked (Option String)
  | .numeric symbols, n => numeric symbols n
  | .alphabetic symbols, n => alphabetic symbols n
  | .additive table, n => additive table n
  | .symbolic symbols, n => symbolic symbols n
  | .cyclic symbols, n => cyclic symbols n
  | .fixed first symbols, n => fixed first symbols n
  | .chinese symbols, n => chinese symbols n
  | .ethiopic, n => ethiopic n

end Word

/-- The tables of a system fit into memory, and a table starts at a word. -/
def CounterSystem.Fits : CounterSystem → Prop
  | numeric symbols | alphabetic symbols | symbolic symbols | cyclic symbols =>
    symbols.length ≤ 9223372036854775807
  | fixed first symbols => Word.IsSigned first ∧ symbols.length ≤ 9223372036854775807
  | additive _ | chinese _ | ethiopic => True

instance : (s : CounterSystem) → Decidable s.Fits
  | .numeric _ | .alphabetic _ | .symbolic _ | .cyclic _ => inferInstanceAs (Decidable (_ ≤ _))
  | .fixed .. => inferInstanceAs (Decidable (_ ∧ _))
  | .additive _ | .chinese _ | .ethiopic => inferInstanceAs (Decidable True)

namespace Word
open Checked

/-! ## Systems with tables -/

section Systems
variable {symbols : List String} {n : Int}

theorem spellBack_eq (symbols : List String) {ds : List Nat} (h : ∀ d ∈ ds, d < symbols.length) :
    spellBack symbols ds.reverse = .ok (Numeral.spell symbols ds) := by
  have htexts : ds.reverse.mapM (entry symbols) = .ok (ds.reverse.map fun d => symbols.getD d "") := by
    refine mapM_ok fun d hd => entry_eq ?_
    have hlt := h d (List.mem_reverse.1 hd)
    simp [hlt]
  rw [spellBack, htexts, ok_bind, List.map_reverse, List.reverse_reverse]
  rfl

theorem toNat_le_greatest (hn : IsSigned n) : n.toNat ≤ greatest := by
  have := hn.2
  simp only [greatest]
  omega

theorem numeric_eq (hn : IsSigned n) :
    numeric symbols n = .ok ((CounterSystem.numeric symbols).represent? n) := by
  show _ = Except.ok (if n < 0 then none else Numeral.positional symbols n.toNat)
  rw [numeric, Numeral.positional]
  by_cases hshort : symbols.length < 2
  · rw [if_pos (Or.inl hshort), if_pos hshort, ite_self]
  by_cases hneg : n < 0
  · rw [if_pos (Or.inr hneg), if_pos hneg]
  rw [if_neg (not_or.2 ⟨hshort, hneg⟩), if_neg hneg, if_neg hshort]
  by_cases hzero : n = 0
  · obtain ⟨first, rest, hsymbols⟩ : ∃ first rest, symbols = first :: rest :=
      List.exists_cons_of_ne_nil fun h => hshort (by simp [h])
    rw [if_pos hzero, if_pos (by omega), hsymbols]
    rfl
  · rw [if_neg hzero, if_neg (by omega), digitLoop_digits (by omega) (toNat_le_greatest hn), ok_bind,
      spellBack_eq symbols fun d hd => Numeral.digits_lt d hd, ok_map]

theorem alphabetic_eq (hn : IsSigned n) :
    alphabetic symbols n = .ok ((CounterSystem.alphabetic symbols).represent? n) := by
  show _ = Except.ok (if n < 0 then none else Numeral.alphabetic symbols n.toNat)
  rw [alphabetic, Numeral.alphabetic]
  by_cases hshort : symbols.length < 2
  · rw [if_pos (Or.inl hshort), if_pos (Or.inl hshort), ite_self]
  by_cases hsmall : n < 1
  · rw [if_pos (Or.inr hsmall), if_pos (Or.inr (by omega)), ite_self]
  · rw [if_neg (not_or.2 ⟨hshort, hsmall⟩), if_neg (by omega), if_neg (by omega),
      digitLoop_bijective (by omega) (toNat_le_greatest hn), ok_bind,
      spellBack_eq symbols fun d hd => Numeral.bijectiveDigits_lt d hd, ok_map]

theorem additiveLoop_eq (out : String) (table : List (Nat × String)) {n : Nat} (hn : n ≤ greatest) :
    additiveLoop out table n = .ok ((Numeral.additiveFrom table n).map (out ++ ·)) := by
  induction table generalizing out n with
  | nil => rfl
  | cons e rest ih =>
    obtain ⟨weight, symbol⟩ := e
    rw [additiveLoop, Numeral.additiveFrom]
    by_cases hweight : weight = 0
    · rw [if_pos hweight, if_pos hweight]
      exact ih out hn
    · have htaken : n / weight * weight ≤ n := Nat.div_mul_le_self n weight
      have hleft : n - n / weight * weight = n % weight := by
        have := Nat.div_add_mod' n weight
        omega
      have hmod : n % weight ≤ n := Nat.mod_le n weight
      rw [if_neg hweight, if_neg hweight, quotient_eq (by omega), ok_bind, ← Int.natCast_mul,
        unsigned_eq (by omega), ok_bind, unsigned_sub htaken hn, ok_bind, hleft]
      dsimp only
      by_cases hzero : n % weight = 0
      · rw [if_pos hzero, if_pos hzero]
        rfl
      · rw [if_neg hzero, if_neg hzero, ih _ (by omega), Option.map_map]
        congr 2
        funext t
        exact String.append_assoc ..

theorem additive_eq (table : List (Nat × String)) (hn : IsSigned n) :
    additive table n = .ok ((CounterSystem.additive table).represent? n) := by
  show _ = Except.ok (if n < 0 then none else Numeral.additive table n.toNat)
  rw [additive, Numeral.additive]
  by_cases hneg : n < 0
  · rw [if_pos hneg, if_pos hneg]
  rw [if_neg hneg, if_neg hneg]
  by_cases hzero : n = 0
  · rw [if_pos hzero, if_pos (by omega)]
  · rw [if_neg hzero, if_neg (by omega), additiveLoop_eq _ _ (toNat_le_greatest hn)]
    simp

theorem exists_nat (hn : IsSigned n) (hpos : ¬n < 1) :
    ∃ k : Nat, n = (k : Int) + 1 ∧ k ≤ 9223372036854775806 := by
  obtain ⟨-, hle⟩ := hn
  exact ⟨(n - 1).toNat, by omega, by omega⟩

theorem signed_pred {k : Nat} (hk : k ≤ 9223372036854775806) : signed ((k : Int) + 1 - 1) = .ok (k : Int) := by
  rw [Int.add_sub_cancel]
  exact signed_eq ⟨by omega, by omega⟩

theorem symbolic_eq (hsymbols : symbols.length ≤ 9223372036854775807) (hn : IsSigned n) :
    symbolic symbols n = .ok ((CounterSystem.symbolic symbols).represent? n) := by
  show _ = Except.ok (if n < 0 then none else Numeral.symbolic symbols n.toNat)
  rw [symbolic, Numeral.symbolic]
  by_cases hsmall : n < 1
  · rw [if_pos (Or.inl hsmall), if_pos (Or.inl (by omega)), ite_self]
  by_cases hempty : symbols.isEmpty
  · rw [if_pos (Or.inr hempty), if_pos (Or.inr hempty), ite_self]
  obtain ⟨k, rfl, hk⟩ := exists_nat hn hsmall
  have hlength : 0 < symbols.length := List.length_pos_iff.2 fun h => hempty (by rw [h]; rfl)
  have hlaps : k / symbols.length ≤ k := Nat.div_le_self ..
  have hcopies : signed (((k / symbols.length : Nat) : Int) + 1) =
      .ok (((k / symbols.length : Nat) : Int) + 1) := by
    generalize k / symbols.length = laps at hlaps
    exact signed_eq ⟨by omega, by omega⟩
  have hplace : k % symbols.length < symbols.length := Nat.mod_lt _ hlength
  have hcount : ((k : Int) + 1).toNat = k + 1 := by omega
  rw [if_neg (not_or.2 ⟨hsmall, hempty⟩), if_neg (by omega), hcount,
    if_neg (not_or.2 ⟨by omega, hempty⟩), signed_pred hk, ok_bind, resign_eq hsymbols,
    signedQuotient_eq hlength (by omega), ok_bind, hcopies, ok_bind, Nat.add_sub_cancel]
  dsimp only
  by_cases hlong : k / symbols.length + 1 > Numeral.longestRun
  · rw [if_pos hlong, if_pos (by exact_mod_cast hlong)]
    rfl
  · rw [if_neg hlong, if_neg (by exact_mod_cast hlong), signedRemainder_eq hlength (by omega), ok_bind,
      Int.toNat_natCast, entry_eq (List.getElem?_eq_getElem hplace), ok_bind,
      List.getElem?_eq_getElem hplace]
    rfl

theorem cyclic_eq (hn : IsSigned n) :
    cyclic symbols n = .ok ((CounterSystem.cyclic symbols).represent? n) := by
  show _ = Except.ok (if n < 0 then none else CounterSystem.cycleEntry? symbols n.toNat)
  rw [cyclic, CounterSystem.cycleEntry?]
  by_cases hsmall : n < 1
  · rw [if_pos (Or.inl hsmall), if_pos (show n.toNat = 0 by omega), ite_self]
  by_cases hempty : symbols.isEmpty
  · rw [if_pos (Or.inr hempty), List.isEmpty_iff.1 hempty, List.getElem?_nil, ite_self, ite_self]
  obtain ⟨k, rfl, hk⟩ := exists_nat hn hsmall
  have hlength : 0 < symbols.length := List.length_pos_iff.2 fun h => hempty (by rw [h]; rfl)
  have hplace : k % symbols.length < symbols.length := Nat.mod_lt _ hlength
  have hcount : ((k : Int) + 1).toNat = k + 1 := by omega
  rw [if_neg (not_or.2 ⟨hsmall, hempty⟩), if_neg (by omega), hcount, if_neg (by omega), signed_pred hk, ok_bind,
    Int.toNat_natCast, remainder_eq hlength, ok_bind, entry_eq (List.getElem?_eq_getElem hplace),
    Nat.add_sub_cancel, List.getElem?_eq_getElem hplace]
  rfl

theorem fixed_eq {first : Int} (hfirst : IsSigned first) (hsymbols : symbols.length ≤ 9223372036854775807)
    (hn : IsSigned n) : fixed first symbols n = .ok ((CounterSystem.fixed first symbols).represent? n) := by
  show _ = Except.ok (CounterSystem.tableEntry? first symbols n)
  obtain ⟨hlow, hhigh⟩ := hn
  obtain ⟨hfirstLow, hfirstHigh⟩ := hfirst
  rw [fixed, difference?, CounterSystem.tableEntry?]
  by_cases hword : IsSigned (n - first)
  · rw [if_pos hword]
    dsimp only
    by_cases hneg : n < first
    · rw [if_pos hneg, if_pos (by omega)]
    · rw [if_neg hneg, if_neg (by omega)]
  · rw [if_neg hword]
    dsimp only
    -- a difference that is no word lies in front of the table or behind all of it
    by_cases hneg : n < first
    · rw [if_pos hneg]
    · have hbehind : symbols.length ≤ (n - first).toNat := by
        rw [IsSigned] at hword
        omega
      rw [if_neg hneg, List.getElem?_eq_none hbehind]

end Systems

/-! ## Chinese numerals -/

theorem omitIf_eq (skip : Bool) {text : Checked (List Char)} {t : List Char} (h : text = .ok t) :
    omitIf skip text = .ok (if skip then [] else t) := by
  rw [h]
  cases skip <;> rfl

theorem character_eq {row : List Char} {i : Nat} (hi : i < row.length) :
    character row i = .ok row[i]?.toList := by
  rw [character, entry_eq (List.getElem?_eq_getElem hi), List.getElem?_eq_getElem hi]
  rfl

theorem characterFromOne_eq {row : List Char} {d : Nat} (hd : d ≤ row.length) (hrow : row.length ≤ greatest) :
    characterFromOne row d = .ok (if d = 0 then [] else row[d - 1]?.toList) := by
  rw [characterFromOne]
  by_cases hzero : d = 0
  · rw [if_pos hzero, if_pos hzero]
  · have hsub : unsigned ((d : Int) - 1) = .ok (d - 1) := unsigned_sub (d := 1) (by omega) (by omega)
    rw [if_neg hzero, if_neg hzero, hsub, ok_bind, character_eq (by omega)]

section Chinese
variable (symbols : Numeral.ChineseSymbols)

theorem character_digits {d : Nat} (hd : d < 10) :
    character symbols.digits.toList d = .ok (symbols.digit d) := by
  rw [character_eq (by simpa using hd), Numeral.ChineseSymbols.digit, Vector.getElem?_toList]

theorem characterFromOne_powers {power : Nat} (hpower : power ≤ 3) :
    characterFromOne symbols.powers.toList power = .ok (symbols.power power) := by
  rw [characterFromOne_eq (by simpa using hpower) (by simp [greatest]), Numeral.ChineseSymbols.power,
    Vector.getElem?_toList]

theorem chineseLoop_eq (teen : Bool) {length i : Nat} (gap : Bool) {ds : List Nat}
    (hlength : i + ds.length = length) (hfour : length ≤ 4) (hds : ∀ d ∈ ds, d < 10) :
    chineseLoop symbols teen length i gap ds = .ok (symbols.write teen gap ds) := by
  induction ds generalizing i gap with
  | nil => rfl
  | cons d ds ih =>
    obtain ⟨hd, hrest⟩ := List.forall_mem_cons.1 hds
    rw [List.length_cons] at hlength
    have hlast : unsigned ((length : Int) - 1) = .ok (length - 1) :=
      unsigned_sub (d := 1) (by omega) (by simp only [greatest]; omega)
    have hpower : unsigned (((length - 1 : Nat) : Int) - i) = .ok ds.length := by
      rw [unsigned_sub (by omega) (by simp only [greatest]; omega)]
      congr 1
      omega
    have hloop (gap : Bool) := ih (i := i + 1) gap (by omega) hrest
    rw [chineseLoop, Numeral.ChineseSymbols.write, hlast, ok_bind, hpower, ok_bind]
    by_cases hzero : d = 0
    · rw [if_pos hzero, if_pos hzero]
      exact hloop true
    · rw [if_neg hzero, if_neg hzero, omitIf_eq _ (character_digits symbols (by omega)), ok_bind,
        omitIf_eq _ (character_digits symbols hd), ok_bind, characterFromOne_powers symbols (by omega),
        ok_bind, hloop false, ok_bind]
      cases gap <;> cases teen <;> simp [pure, Except.pure]

theorem digitValue_digitChar : ∀ d < 10, digitValue (Nat.digitChar d) = .ok d := by decide

theorem mapM_toDigits {n : Nat} (hn : 0 < n) :
    (Nat.toDigits 10 n).mapM digitValue = .ok (Numeral.digits 10 n) := by
  rw [Numeral.toDigits_eq_map hn, List.mapM_map]
  exact (mapM_ok fun d hd => digitValue_digitChar d (Numeral.digits_lt d hd)).trans
    (congrArg _ (List.map_id _))

theorem chinese_eq (n : Int) : chinese symbols n = .ok ((CounterSystem.chinese symbols).represent? n) := by
  show _ = Except.ok (if n < 0 then none else Numeral.chinese symbols n.toNat)
  rw [chinese, Numeral.chinese]
  by_cases hneg : n < 0
  · rw [if_pos (by omega), if_pos hneg]
  rw [if_neg hneg]
  obtain ⟨k, rfl⟩ := Int.eq_ofNat_of_zero_le (Int.not_lt.1 hneg)
  rw [Int.toNat_natCast]
  by_cases hlarge : 9999 < k
  · rw [if_pos (show ¬(0 ≤ (k : Int) ∧ (k : Int) ≤ 9999) by omega), if_pos hlarge]
  rw [if_neg (show ¬¬(0 ≤ (k : Int) ∧ (k : Int) ≤ 9999) by omega), if_neg hlarge]
  by_cases hzero : k = 0
  · rw [if_pos (show (k : Int) = 0 by omega), if_pos hzero, character_digits symbols (by omega)]
    rfl
  · have hdigits : (toString (k : Int)).toList.mapM digitValue = .ok (Numeral.digits 10 k) := by
      have htext : (toString (k : Int)).toList = Nat.toDigits 10 k := Nat.toList_repr
      rw [htext, mapM_toDigits (by omega)]
    have hfour : (Numeral.digits 10 k).length ≤ 4 := Numeral.length_digits_le (by decide) (by omega)
    have hteen : decide ((10 : Int) ≤ k ∧ (k : Int) ≤ 19) = decide (10 ≤ k ∧ k ≤ 19) :=
      decide_eq_decide.2 ⟨fun h => ⟨by omega, by omega⟩, fun h => ⟨by omega, by omega⟩⟩
    rw [if_neg (show ¬(k : Int) = 0 by omega), if_neg hzero, hdigits, ok_bind,
      chineseLoop_eq symbols _ false (Nat.zero_add _) hfour fun d hd => Numeral.digits_lt d hd, ok_bind, hteen]
    rfl

end Chinese

/-! ## Ethiopic numerals -/

/-- The characters that `Ethiopic.write` gives to one group, of which so many follow. -/
def groupText (first : Bool) (behind g : Nat) : List Char :=
  (if Numeral.Ethiopic.silent first (behind % 2 == 1) g then [] else Numeral.Ethiopic.pair g) ++
    (if behind % 2 == 1 then (if g = 0 then [] else [Numeral.Ethiopic.hundred])
      else if behind = 0 then [] else [Numeral.Ethiopic.myriad])

theorem write_cons (first : Bool) (g : Nat) (gs : List Nat) :
    Numeral.Ethiopic.write first (g :: gs) = groupText first gs.length g ++ Numeral.Ethiopic.write false gs := by
  rw [Numeral.Ethiopic.write, groupText]
  cases gs <;> simp

theorem ethiopicGroup_eq {groups : List Nat} {i g : Nat} (top : Nat) (hget : groups[i]? = some g) (hg : g < 100) :
    ethiopicGroup groups top i = .ok (groupText (i == top) i g) := by
  have htens : characterFromOne Numeral.Ethiopic.tens (g / 10) =
      .ok (Numeral.Ethiopic.digit Numeral.Ethiopic.tens (g / 10)) :=
    characterFromOne_eq (show g / 10 ≤ 9 by omega) (by decide)
  have hones : characterFromOne Numeral.Ethiopic.ones (g % 10) =
      .ok (Numeral.Ethiopic.digit Numeral.Ethiopic.ones (g % 10)) :=
    characterFromOne_eq (show g % 10 ≤ 9 by omega) (by decide)
  rw [ethiopicGroup, entry_eq hget, ok_bind]
  dsimp only
  rw [omitIf_eq _ htens, ok_bind, omitIf_eq _ hones, ok_bind, groupText, Numeral.Ethiopic.silent,
    Numeral.Ethiopic.pair]
  generalize (g == 0 || (g == 1 && (i == top || i % 2 == 1))) = bare
  cases bare <;> rfl

theorem ethiopicLoop_eq {groups : List Nat} {top : Nat} (hgroups : ∀ g ∈ groups, g < 100) {i : Nat}
    (hi : i < groups.length) (htop : i ≤ top) :
    ethiopicLoop groups top i =
      .ok (Numeral.Ethiopic.write (i == top) (groups.take (i + 1)).reverse) := by
  have hget := List.getElem?_eq_getElem hi
  have hgroup := ethiopicGroup_eq top hget (hgroups _ (List.getElem_mem hi))
  have hreverse : (groups.take (i + 1)).reverse = groups[i] :: (groups.take i).reverse := by
    rw [List.take_add_one, hget, List.reverse_append]
    rfl
  have hlength : (groups.take i).reverse.length = i := by
    rw [List.length_reverse, List.length_take]
    omega
  rw [hreverse, write_cons, hlength]
  cases i with
  | zero =>
    rw [ethiopicLoop, hgroup]
    simp [Numeral.Ethiopic.write]
  | succ i =>
    have hrest := ethiopicLoop_eq hgroups (show i < groups.length by omega) (show i ≤ top by omega)
    have hbelow : (i == top) = false := beq_false_of_ne (by omega)
    rw [ethiopicLoop, hgroup, ok_bind, hrest, ok_bind, hbelow]
    rfl

theorem ethiopic_eq {n : Int} (hn : IsSigned n) :
    ethiopic n = .ok (CounterSystem.ethiopic.represent? n) := by
  show _ = Except.ok (if n < 0 then none else Numeral.ethiopic n.toNat)
  rw [ethiopic, Numeral.ethiopic]
  by_cases hsmall : n < 1
  · rw [if_pos hsmall, if_pos (show n.toNat = 0 by omega), ite_self]
  rw [if_neg hsmall, if_neg (show ¬n < 0 by omega), if_neg (show ¬n.toNat = 0 by omega)]
  by_cases hone : n = 1
  · rw [if_pos hone, if_pos (show n.toNat = 1 by omega), character_eq (by decide)]
    rfl
  · have hpos : 0 < n.toNat := by omega
    have hnonempty : 0 < (Numeral.digits 100 n.toNat).length := by
      rw [Numeral.digits_of_pos (by decide) hpos]
      simp
    have hshort : (Numeral.digits 100 n.toNat).length ≤ 10 :=
      Numeral.length_digits_le (by decide) (by have := hn.2; omega)
    have htop : unsigned (((Numeral.digits 100 n.toNat).reverse.length : Int) - 1) =
        .ok ((Numeral.digits 100 n.toNat).length - 1) := by
      rw [List.length_reverse]
      exact unsigned_sub (d := 1) hnonempty (by simp only [greatest]; omega)
    have htake : ((Numeral.digits 100 n.toNat).reverse.take
        ((Numeral.digits 100 n.toNat).length - 1 + 1)).reverse = Numeral.digits 100 n.toNat := by
      rw [Nat.sub_add_cancel hnonempty, List.take_of_length_le (by simp), List.reverse_reverse]
    rw [if_neg hone, if_neg (show ¬n.toNat = 1 by omega), digitLoop_digits (by decide) (toNat_le_greatest hn),
      ok_bind, htop, ok_bind, ethiopicLoop_eq (fun g hg => Numeral.digits_lt g (List.mem_reverse.1 hg))
        (by rw [List.length_reverse]; omega) (Nat.le_refl _), htake, ok_bind, beq_self_eq_true]
    rfl

/-- The numeral of a count is that of its system. -/
theorem core_eq {s : CounterSystem} (h : s.Fits) {n : Int} (hn : IsSigned n) :
    core s n = .ok (s.represent? n) := by
  cases s with
  | numeric symbols => exact numeric_eq hn
  | alphabetic symbols => exact alphabetic_eq hn
  | additive table => exact additive_eq table hn
  | symbolic symbols => exact symbolic_eq h hn
  | cyclic symbols => exact cyclic_eq hn
  | fixed first symbols => exact fixed_eq h.1 h.2 hn
  | chinese symbols => exact chinese_eq symbols n
  | ethiopic => exact ethiopic_eq hn

end Word
end Rubric
