/-!
# Reading positions

* `Cursor` : a place in a text: how many characters lie before it, and the ones that follow;
* `Cursor.Reaches c d` : `d` lies at or after `c` in the same text.
-/

namespace Rubric

/-- A place in a text. -/
structure Cursor where
  /-- The number of characters before the place. -/
  pos : Nat
  /-- The characters from the place on. -/
  rest : List Char
deriving DecidableEq

namespace Cursor

def start (text : String) : Cursor := ⟨0, text.toList⟩

def peek? (c : Cursor) : Option Char := c.rest.head?

def peekAt? (c : Cursor) (n : Nat) : Option Char := c.rest[n]?

def advance (c : Cursor) (n : Nat) : Cursor :=
  ⟨c.pos + min n c.rest.length, c.rest.drop n⟩

/-- Reads one character. -/
def next? (c : Cursor) : Option (Char × Cursor) :=
  match c.rest with
  | [] => none
  | x :: r => some (x, ⟨c.pos + 1, r⟩)

def takeWhile (c : Cursor) (p : Char → Bool) : List Char × Cursor :=
  let taken := c.rest.takeWhile p
  (taken, ⟨c.pos + taken.length, c.rest.dropWhile p⟩)

/-! ## Order of places -/

/-- The second place is the first one, or comes later in the same text. -/
def Reaches (c d : Cursor) : Prop :=
  ∃ read : List Char, c.rest = read ++ d.rest ∧ d.pos = c.pos + read.length

theorem Reaches.refl (c : Cursor) : c.Reaches c := ⟨[], rfl, rfl⟩

theorem Reaches.trans {c d e : Cursor} (h : c.Reaches d) (h' : d.Reaches e) : c.Reaches e := by
  obtain ⟨r, hr, hp⟩ := h
  obtain ⟨r', hr', hp'⟩ := h'
  exact ⟨r ++ r', by rw [hr, hr', List.append_assoc], by rw [hp', hp, List.length_append]; omega⟩

theorem Reaches.length_le {c d : Cursor} (h : c.Reaches d) : d.rest.length ≤ c.rest.length := by
  obtain ⟨r, hr, -⟩ := h
  simp [hr]

theorem reaches_tail (pos : Nat) (x : Char) (r : List Char) :
    Reaches ⟨pos, x :: r⟩ ⟨pos + 1, r⟩ := ⟨[x], rfl, rfl⟩

theorem reaches_takeWhile (c : Cursor) (p : Char → Bool) : c.Reaches (c.takeWhile p).2 :=
  ⟨c.rest.takeWhile p, by simp [takeWhile], rfl⟩

end Cursor
end Rubric
