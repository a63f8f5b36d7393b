import Rubric.Proofs.Counter.Injective

/-!
# Numerals of a least width

* `Affixes.takeOff? a text` : what is left of a text without the affixes;
* `CounterRule.signOf r n` : the sign around the digits of a count;
* `CounterRule.toList_wrap` : the digits with everything around them, part by part;
* `CounterRule.toList_fill` : how much fill there is;
* `CounterStyle.padded_exactly` : what stands between the affixes is as wide as the pad says or as it must be, and
  the digits are got back from it.
-/

namespace Rubric
namespace Affixes

def width (a : Affixes) : Nat := a.before.length + a.after.length

/-- What is left of a text when both affixes are taken off, if it has them. -/
def takeOff? (a : Affixes) (text : List Char) : Option (List Char) :=
  (text.dropPrefix? a.before.toList).bind (·.dropSuffix? a.after.toList)

theorem takeOff?_eq_some_iff {a : Affixes} {text inner : List Char} :
    a.takeOff? text = some inner ↔ text = a.before.toList ++ inner ++ a.after.toList := by
  rw [takeOff?, Option.bind_eq_some_iff]
  constructor
  · rintro ⟨rest, hrest, hinner⟩
    obtain ⟨before, rfl, hbefore⟩ := List.dropPrefix?_eq_some_iff.1 hrest
    obtain ⟨after, rfl, hafter⟩ := List.dropSuffix?_eq_some_iff.1 hinner
    rw [eq_of_beq hbefore, eq_of_beq hafter, List.append_assoc]
  · rintro rfl
    rw [List.append_assoc]
    exact ⟨_, List.dropPrefix?_append_of_beq _ (beq_self_eq_true _),
      List.dropSuffix?_eq_some_iff.2 ⟨_, rfl, beq_self_eq_true _⟩⟩

end Affixes

namespace CounterRule
open Numeral
variable {r : CounterRule} {n : Int} {core : String} {pad : Pad} {c : Char}

/-- The sign around the digits of a count. There is none unless the count is written with a sign. -/
def signOf (r : CounterRule) (n : Int) : Affixes := if r.isSigned n then r.sign else ⟨"", ""⟩

theorem toList_wrap (r : CounterRule) (n : Int) (core : String) :
    (r.wrap (r.isSigned n) core).toList = r.affixes.before.toList ++
      ((r.signOf n).before.toList ++ ((r.fill (r.isSigned n) core.length).toList ++ core.toList) ++
        (r.signOf n).after.toList) ++ r.affixes.after.toList := by
  rw [signOf]
  cases r.isSigned n with
  | false => simp [wrap_false, body]
  | true => simp [wrap_true, body]

/-- The fill makes up for what sign and digits are short of the width. -/
theorem toList_fill (hpad : r.pad = some pad) (hone : pad.symbol.toList = [c]) (n : Int) (width : Nat) :
    (r.fill (r.isSigned n) width).toList = List.replicate (pad.width - ((r.signOf n).width + width)) c := by
  have hsign : (if r.isSigned n then r.sign.before.length + r.sign.after.length else 0) = (r.signOf n).width := by
    rw [signOf]
    cases r.isSigned n <;> rfl
  rw [fill, hpad]
  dsimp only
  rw [hsign, toList_replicateText, hone, Nat.sub_sub]
  exact List.flatten_replicate_singleton

theorem dropWhile_fill {cs : List Char} (h : cs.head? ≠ some c) (k : Nat) :
    (List.replicate k c ++ cs).dropWhile (· == c) = cs := by
  rw [List.dropWhile_append_of_pos fun d hd => by rw [List.eq_of_mem_replicate hd, beq_self_eq_true]]
  cases cs with
  | nil => rfl
  | cons d cs => exact List.dropWhile_cons_of_neg fun hd => h (congrArg some (eq_of_beq hd))

end CounterRule

namespace CounterStyle
open CounterRule
variable {s : CounterStyle} {n : Int} {pad : Pad} {c : Char} {t : String}

/-- A count that a style writes itself, with fill of one character. The text between the affixes is as wide as the
pad says, or as sign and digits are if that is more. When the sign is taken off, the digits of the count are left, and
in front of them as much fill as the width asked for. Digits that do not begin with the fill are what is left when all
of it is dropped. -/
theorem padded_exactly (hpad : s.rule.pad = some pad) (hone : pad.symbol.toList = [c])
    (h : s.rule.represent? n = some t) :
    s.format n = t ∧ ∃ core body digits, s.rule.core? n = some core ∧
      s.rule.affixes.takeOff? t.toList = some body ∧
      body.length = max pad.width ((s.rule.signOf n).width + core.length) ∧
      (s.rule.signOf n).takeOff? body = some digits ∧
      digits = List.replicate (body.length - ((s.rule.signOf n).width + core.length)) c ++ core.toList ∧
      (core.toList.head? ≠ some c → digits.dropWhile (· == c) = core.toList) := by
  obtain ⟨-, core, hcore, rfl⟩ := represent?_eq_some h
  let fill := pad.width - ((s.rule.signOf n).width + core.length)
  let digits := List.replicate fill c ++ core.toList
  let body := (s.rule.signOf n).before.toList ++ digits ++ (s.rule.signOf n).after.toList
  have htext : s.rule.affixes.takeOff? (s.rule.wrap (s.rule.isSigned n) core).toList = some body := by
    rw [Affixes.takeOff?_eq_some_iff, toList_wrap, toList_fill hpad hone]
  have hlength : body.length = max pad.width ((s.rule.signOf n).width + core.length) := by
    simp only [body, digits, fill, List.length_append, List.length_replicate, String.length_toList, Affixes.width]
    omega
  have hfill : body.length - ((s.rule.signOf n).width + core.length) = fill := by
    simp only [fill]
    omega
  refine ⟨format_of_represent h, core, body, digits, hcore, htext, hlength, Affixes.takeOff?_eq_some_iff.2 rfl, ?_,
    fun hhead => dropWhile_fill hhead fill⟩
  rw [hfill]

/-- A sign on both sides counts towards the width, and affixes do not. -/
theorem padded_exactly_negative :
    let rule : CounterRule := {
      name := "ledger", system := .numeric (Registry.glyphs "0123456789"), sign := ⟨"(", ")"⟩,
      affixes := ⟨"no. ", ":"⟩, pad := some ⟨5, "·"⟩ }
    rule.represent? (-7) = some "no. (··7):" ∧ CounterStyle.format ⟨rule, []⟩ (-7) = "no. (··7):" ∧
      ∃ body digits, rule.affixes.takeOff? "no. (··7):".toList = some body ∧ body.length = 5 ∧
        (rule.signOf (-7)).takeOff? body = some digits ∧ digits.dropWhile (· == '·') = ['7'] := by
  intro rule
  have hwritten : rule.represent? (-7) = some "no. (··7):" := by decide +kernel
  have hseven : rule.core? (-7) = some "7" := by decide +kernel
  obtain ⟨hformat, core, body, digits, hcore, htext, hlength, hsign, -, hdrop⟩ :=
    padded_exactly (s := ⟨rule, []⟩) (c := '·') rfl (by decide) hwritten
  obtain rfl : core = "7" := Option.some.inj (hcore.symm.trans hseven)
  exact ⟨hwritten, hformat, body, digits, htext, hlength.trans (by decide), hsign, hdrop (by decide)⟩

end CounterStyle
end Rubric
