import Mathlib.Data.List.TakeDrop
import Rubric.Proofs.Toml.Strings
import Rubric.Toml.Reader

/-!
# Documents are read back

* `IsBareKey` : the keys that are written without quotes;
* `Reads text v` : a text in front of a line end is read as a value; `reads_quote`, `reads_byte` : strings
  and small numbers are read so;
* `readStatements_entry`, `readStatements_header` : the statements of a document, one line after the other;
* `foldlM_entries` : entries with new keys behind a header make up its table, in their order.
-/

namespace Rubric.Toml

/-! ## Keys -/

def IsBareKey (key : String) : Prop := key.toList ≠ [] ∧ ∀ c ∈ key.toList, isKeyChar c

instance (key : String) : Decidable (IsBareKey key) :=
  -- not by a search through all characters
  have : Decidable (∀ c ∈ key.toList, isKeyChar c) := List.decidableBAll _ _
  inferInstanceAs (Decidable (_ ∧ _))

section Characters
variable {c d : Char}

theorem ne_of_isKeyChar (h : isKeyChar c) (hd : ¬isKeyChar d) : c ≠ d := fun heq => hd (heq ▸ h)

theorem not_isSpace_of_isKeyChar (h : isKeyChar c) : ¬isSpace c := by
  simp only [isSpace, Bool.or_eq_true, beq_iff_eq, not_or]
  exact ⟨ne_of_isKeyChar h (by decide), ne_of_isKeyChar h (by decide)⟩

theorem quoteOf?_of_isKeyChar (h : isKeyChar c) : quoteOf? c = none := by
  rw [quoteOf?, if_neg (ne_of_isKeyChar h (by decide)), if_neg (ne_of_isKeyChar h (by decide))]

end Characters

section Keys
variable {key : String} {r : List Char}

theorem IsBareKey.exists_cons (h : IsBareKey key) : ∃ c s, key.toList = c :: s ∧ isKeyChar c := by
  obtain ⟨hne, hall⟩ := h
  cases hkey : key.toList with
  | nil => exact absurd hkey hne
  | cons c s => exact ⟨c, s, rfl, hall c (by rw [hkey]; exact List.mem_cons_self)⟩

theorem readName_key (h : IsBareKey key) (hr : ∀ c ∈ r.head?, ¬isKeyChar c) :
    readName (key.toList ++ r) = some (key, r) := by
  obtain ⟨c, s, hkey, hc⟩ := h.exists_cons
  have htake : (key.toList ++ r).takeWhile isKeyChar = key.toList := by
    rw [List.takeWhile_append_of_pos h.2]
    cases r with
    | nil => simp
    | cons d r => rw [List.takeWhile_cons_of_neg (hr d rfl), List.append_nil]
  have hdrop : (key.toList ++ r).dropWhile isKeyChar = r := by
    rw [List.dropWhile_append_of_pos h.2]
    cases r with
    | nil => rfl
    | cons d r => exact List.dropWhile_cons_of_neg (hr d rfl)
  have hquote : ((key.toList ++ r).head?.bind quoteOf?).isSome = false := by
    rw [hkey]
    show (quoteOf? c).isSome = false
    rw [quoteOf?_of_isKeyChar hc]
    rfl
  rw [readName, if_neg (by rw [hquote]; decide)]
  dsimp only
  rw [htake, hdrop, if_neg (by rw [hkey]; exact Bool.false_ne_true), String.ofList_toList]

theorem skipSpaces_of_not {c : Char} (h : ¬isSpace c) (r : List Char) : skipSpaces (c :: r) = c :: r :=
  List.dropWhile_cons_of_neg h

theorem readKeyEquals_key (h : IsBareKey key) (r : List Char) :
    readKeyEquals (key.toList ++ ' ' :: '=' :: ' ' :: r) = some ([key], skipSpaces r) := by
  have hkey : readKey (key.toList ++ ' ' :: '=' :: ' ' :: r) = some ([key], '=' :: ' ' :: r) := by
    rw [readKey, readName_key h fun c hc => by cases hc; decide]
    rfl
  rw [readKeyEquals, hkey]
  rfl

theorem readKey_bracket (h : IsBareKey key) (r : List Char) :
    readKey (key.toList ++ ']' :: r) = some ([key], ']' :: r) := by
  rw [readKey, readName_key h fun c hc => by cases hc; decide]
  rfl

end Keys

/-! ## Values -/

/-- A text in front of a line end is read as a value. -/
structure Reads (text : List Char) (v : Value) : Prop where
  start : ∀ c ∈ text.head?, ¬isSpace c
  read : ∀ r, readValue maxDepth (text ++ '\n' :: r) = some (v, '\n' :: r)

theorem readValue_simple {c : Char} {s : List Char} (hlist : c ≠ '[') (htable : c ≠ '\x7b') :
    readValue maxDepth (c :: s) = readSimple (c :: s) := by
  rw [maxDepth, readValue]
  dsimp only
  split
  · rename_i heq
    exact absurd (List.cons.inj heq).1 hlist
  · rename_i heq
    exact absurd (List.cons.inj heq).1 htable
  · rfl

theorem exists_quote_cons (s : String) : ∃ (q : Quote) (t : List Char), (quote s).toList = q.char :: t := by
  have hreplicate (n : Nat) (c : Char) (t : List Char) (hn : 0 < n) :
      ∃ u, List.replicate n c ++ t = c :: u := by
    cases n with
    | zero => omega
    | succ n => exact ⟨_, by rw [List.replicate_succ, List.cons_append]⟩
  have hpos : 0 < if (Form.of s.toList).block then 3 else 1 := by split <;> omega
  rw [quote, String.toList_ofList, Form.write, List.append_assoc, List.append_assoc]
  obtain ⟨u, hu⟩ := hreplicate _ (Form.of s.toList).quote.char _ hpos
  exact ⟨_, _, hu⟩

/-- Every text is read from the string that is written for it. -/
theorem reads_quote (s : String) : Reads (quote s).toList (.string s) := by
  obtain ⟨q, t, hs⟩ := exists_quote_cons s
  have hread (r : List Char) := readString_quote s (r := '\n' :: r) fun q => notQuoted_cons (by
    cases q <;> decide)
  rw [hs] at hread ⊢
  refine ⟨fun c hc => ?_, fun r => ?_⟩
  · cases hc
    cases q <;> decide
  · have hquote : ((q.char :: t ++ '\n' :: r).head?.bind quoteOf?).isSome = true := by
      show (quoteOf? q.char).isSome = true
      rw [quoteOf?_char]
      rfl
    have hstring := hread r
    rw [List.cons_append] at hstring hquote ⊢
    rw [readValue_simple (by cases q <;> decide) (by cases q <;> decide), readSimple, if_pos hquote,
      hstring, Option.map_some]
    dsimp only
    rw [String.ofList_toList]

theorem integer?_byte : ∀ n < 256, integer? (Nat.toDigits 10 n) = some (n : Int) := by decide +kernel

theorem endsWord_of_isDigit {c : Char} (h : c.isDigit) : endsWord c = false := by
  simp only [endsWord, Bool.or_eq_false_iff, beq_eq_false_iff_ne]
  refine ⟨⟨⟨⟨⟨⟨⟨?_, ?_⟩, ?_⟩, ?_⟩, ?_⟩, ?_⟩, ?_⟩, ?_⟩ <;> rintro rfl <;> exact absurd h (by decide)

/-- A number that one byte can hold is read from its digits. -/
theorem reads_byte {n : Nat} (hn : n ≤ 255) : Reads (toString n).toList (.integer n) := by
  rw [Nat.toString_eq_repr, Nat.toList_repr]
  have hdigit : ∀ c ∈ Nat.toDigits 10 n, c.isDigit := fun c hc =>
    Nat.isDigit_of_mem_toDigits (by decide) (by decide) hc
  obtain ⟨d, t, hdt⟩ : ∃ d t, Nat.toDigits 10 n = d :: t := List.exists_cons_of_ne_nil Nat.toDigits_ne_nil
  have hd : d.isDigit := hdigit d (by rw [hdt]; exact List.mem_cons_self)
  have hne {c : Char} (hc : ¬c.isDigit) : d ≠ c := fun heq => hc (heq ▸ hd)
  have hspan (r : List Char) : (Nat.toDigits 10 n ++ '\n' :: r).span (fun c => !endsWord c) =
      (Nat.toDigits 10 n, '\n' :: r) := by
    have hall : ∀ c ∈ Nat.toDigits 10 n, (!endsWord c) = true := fun c hc => by
      rw [endsWord_of_isDigit (hdigit c hc)]
      rfl
    rw [List.span_eq_takeWhile_dropWhile, List.takeWhile_append_of_pos hall,
      List.dropWhile_append_of_pos hall, List.takeWhile_cons_of_neg (by decide),
      List.dropWhile_cons_of_neg (by decide), List.append_nil]
  have hscalar : scalar? (Nat.toDigits 10 n) = some (.integer n) := by
    have htrue : Nat.toDigits 10 n ≠ "true".toList := by
      rw [hdt]
      exact fun heq => hne (c := 't') (by decide) (List.cons.inj heq).1
    have hfalse : Nat.toDigits 10 n ≠ "false".toList := by
      rw [hdt]
      exact fun heq => hne (c := 'f') (by decide) (List.cons.inj heq).1
    rw [scalar?, if_neg htrue, if_neg hfalse, integer?_byte n (by omega)]
  refine ⟨fun c hc => ?_, fun r => ?_⟩
  · rw [hdt] at hc
    cases hc
    simp only [isSpace, Bool.or_eq_true, beq_iff_eq, not_or]
    exact ⟨hne (by decide), hne (by decide)⟩
  · have hquote : quoteOf? d = none := by
      rw [quoteOf?, if_neg (hne (by decide)), if_neg (hne (by decide))]
    have hread := hspan r
    rw [hdt, List.cons_append] at hread ⊢
    rw [readValue_simple (hne (by decide)) (hne (by decide)), readSimple,
      if_neg (by rw [List.head?_cons, Option.bind_some, hquote]; decide), readScalar, readWord, hread]
    show (scalar? (d :: t)).map (·, '\n' :: r) = _
    rw [← hdt, hscalar]
    rfl

/-! ## Statements -/

section Statements
variable {key : String} {text s r rest : List Char} {v : Value} {statement : Statement}
  {statements : List Statement}

theorem readStatements_nil : readStatements [] = some [] := by
  rw [readStatements, skipGaps]
  rfl

theorem readStatements_cons (hgaps : skipGaps s = r) (hne : r ≠ [])
    (hread : readStatement r = some (statement, '\n' :: rest)) (hlength : rest.length < s.length)
    (h : readStatements rest = some statements) : readStatements s = some (statement :: statements) := by
  have hend : endLine ('\n' :: rest) = some rest := rfl
  have hempty : r.isEmpty = false := by
    cases r with
    | nil => exact absurd rfl hne
    | cons => rfl
  rw [readStatements]
  simp only [hgaps, hempty, hread, hend, Bool.false_eq_true, if_false]
  rw [dif_pos hlength, h]
  rfl

theorem skipGaps_of_not {c : Char} (hspace : ¬isSpace c) (hmark : c ≠ '#')
    (hline : afterNewline? (c :: r) = none) : skipGaps (c :: r) = c :: r := by
  rw [skipGaps, if_neg hspace, if_neg hmark, hline]

/-- An entry on a line. -/
theorem readStatements_entry (hkey : IsBareKey key) (hv : Reads text v)
    (h : readStatements r = some statements) :
    readStatements (key.toList ++ ' ' :: '=' :: ' ' :: (text ++ '\n' :: r)) =
      some (.entry [key] v :: statements) := by
  obtain ⟨c, t, hct, hc⟩ := hkey.exists_cons
  have hvalue : skipSpaces (text ++ '\n' :: r) = text ++ '\n' :: r := by
    cases text with
    | nil => rfl
    | cons d text => exact skipSpaces_of_not (hv.start d rfl) _
  have hread : readStatement (key.toList ++ ' ' :: '=' :: ' ' :: (text ++ '\n' :: r)) =
      some (.entry [key] v, '\n' :: r) := by
    have hequals := readKeyEquals_key hkey (text ++ '\n' :: r)
    rw [hvalue] at hequals
    rw [hct, List.cons_append] at hequals ⊢
    unfold readStatement
    split
    · rename_i heq
      exact absurd (List.cons.inj heq).1 (ne_of_isKeyChar hc (by decide))
    · rename_i heq
      exact absurd (List.cons.inj heq).1 (ne_of_isKeyChar hc (by decide))
    · rw [hequals]
      dsimp only
      rw [hv.read]
      rfl
  refine readStatements_cons ?_ (by simp) hread (by simp; omega) h
  rw [hct, List.cons_append]
  exact skipGaps_of_not (not_isSpace_of_isKeyChar hc) (ne_of_isKeyChar hc (by decide))
    (afterNewline?_cons (ne_of_isKeyChar hc (by decide)) (ne_of_isKeyChar hc (by decide)) _)

/-- A header on a line, behind an empty line or not. -/
theorem readStatements_header (hkey : IsBareKey key) (h : readStatements r = some statements)
    {gap : List Char} (hgap : gap = [] ∨ gap = ['\n']) :
    readStatements (gap ++ '[' :: (key.toList ++ ']' :: '\n' :: r)) = some (.table [key] :: statements) := by
  obtain ⟨c, t, hct, hc⟩ := hkey.exists_cons
  have hread : readStatement ('[' :: (key.toList ++ ']' :: '\n' :: r)) =
      some (.table [key], '\n' :: r) := by
    have hbracket := readKey_bracket hkey ('\n' :: r)
    rw [hct, List.cons_append] at hbracket ⊢
    unfold readStatement
    split
    · rename_i heq
      exact absurd (List.cons.inj (List.cons.inj heq).2).1 (ne_of_isKeyChar hc (by decide))
    · rename_i heq
      rw [← (List.cons.inj heq).2, skipSpaces_of_not (not_isSpace_of_isKeyChar hc), hbracket]
      rfl
    · rename_i hno
      exact absurd rfl (hno _)
  have hgaps : skipGaps (gap ++ '[' :: (key.toList ++ ']' :: '\n' :: r)) =
      '[' :: (key.toList ++ ']' :: '\n' :: r) := by
    have hbracket (u : List Char) : skipGaps ('[' :: u) = '[' :: u :=
      skipGaps_of_not (by decide) (by decide) rfl
    rcases hgap with rfl | rfl
    · exact hbracket _
    · rw [List.singleton_append, skipGaps, if_neg (by decide), if_neg (by decide)]
      exact (dif_pos (Nat.le_refl _)).trans (hbracket _)
  exact readStatements_cons hgaps (by simp) hread (by simp; omega) h

end Statements

/-! ## Tables -/

section Tables
variable {key name : String} {v : Value} {t inner entries before : Table}

theorem Table.set_of_not_mem (h : key ∉ t.map Prod.fst) : t.set key v = t ++ [(key, v)] := by
  induction t with
  | nil => rfl
  | cons entry t ih =>
    obtain ⟨k, w⟩ := entry
    simp only [List.map_cons, List.mem_cons, not_or] at h
    rw [Table.set, if_neg (Ne.symm h.1), ih h.2]
    rfl

theorem Table.get?_of_not_mem (h : key ∉ t.map Prod.fst) : t.get? key = none := by
  induction t with
  | nil => rfl
  | cons entry t ih =>
    obtain ⟨k, w⟩ := entry
    simp only [List.map_cons, List.mem_cons, not_or] at h
    rw [Table.get?, List.lookup_cons, beq_false_of_ne h.1]
    exact ih h.2

theorem Table.get?_append_cons (h : key ∉ t.map Prod.fst) : Table.get? (t ++ [(key, v)]) key = some v := by
  rw [Table.get?, List.lookup_append]
  have hnone : List.lookup key t = none := Table.get?_of_not_mem h
  rw [hnone, List.lookup_cons_self]
  rfl

theorem Table.set_append_cons {w : Value} (h : key ∉ t.map Prod.fst) :
    Table.set (t ++ [(key, v)]) key w = t ++ [(key, w)] := by
  induction t with
  | nil =>
    rw [List.nil_append, Table.set, if_pos rfl]
    rfl
  | cons entry t ih =>
    obtain ⟨k, u⟩ := entry
    simp only [List.map_cons, List.mem_cons, not_or] at h
    rw [List.cons_append, Table.set, if_neg (Ne.symm h.1), ih h.2]
    rfl

theorem add?_entry (h : key ∉ t.map Prod.fst) :
    Draft.add? ⟨t, []⟩ (.entry [key] v) = some ⟨t ++ [(key, v)], []⟩ := by
  have hinsert : Table.insert? [key] v .header t = some (.header, t ++ [(key, v)]) := by
    show (if Origin.header = .dotted ↔ ([] : List String) = [] then none
      else if (Table.get? t key).isSome then none else some (Origin.header, Table.set t key v)) = _
    rw [if_neg (by simp), Table.get?_of_not_mem h, Table.set_of_not_mem h]
    rfl
  show Option.map _ (Table.insert? [key] v .header t) = _
  rw [hinsert]
  rfl

theorem add?_header (h : name ∉ t.map Prod.fst) {path : List String} :
    Draft.add? ⟨t, path⟩ (.table [name]) = some ⟨t ++ [(name, .table .header [])], [name]⟩ := by
  have hopen : Table.open? [name] .header t = some (.header, t ++ [(name, .table .header [])]) := by
    simp only [Table.open?, List.getLast?_singleton, List.dropLast_singleton, Table.update?,
      Table.get?_of_not_mem h, Table.set_of_not_mem h]
  show Option.map _ (Table.open? [name] .header t) = _
  rw [hopen]
  rfl

theorem add?_inner (hname : name ∉ before.map Prod.fst) (h : key ∉ inner.map Prod.fst) :
    Draft.add? ⟨before ++ [(name, .table .header inner)], [name]⟩ (.entry [key] v) =
      some ⟨before ++ [(name, .table .header (inner ++ [(key, v)]))], [name]⟩ := by
  have hinsert : Table.insert? [key] v .header inner = some (.header, inner ++ [(key, v)]) := by
    show (if Origin.header = .dotted ↔ ([] : List String) = [] then none
      else if (Table.get? inner key).isSome then none
      else some (Origin.header, Table.set inner key v)) = _
    rw [if_neg (by simp), Table.get?_of_not_mem h, Table.set_of_not_mem h]
    rfl
  have hupdate : Table.update? false (Table.insert? [key] v) [name] .header
      (before ++ [(name, .table .header inner)]) =
        some (.header, before ++ [(name, .table .header (inner ++ [(key, v)]))]) := by
    rw [Table.update?]
    dsimp only
    rw [Table.get?_append_cons hname]
    dsimp only
    rw [Table.changeValue?, if_neg (by simp), Table.update?, hinsert]
    dsimp only [Option.map_some]
    rw [Table.set_append_cons hname]
  show Option.map _ (Table.update? false (Table.insert? [key] v) [name] .header
    (before ++ [(name, .table .header inner)])) = _
  rw [hupdate]
  rfl

/-- Entries with new keys behind a header make up its table. -/
theorem foldlM_entries (hname : name ∉ before.map Prod.fst)
    (h : ((inner ++ entries).map Prod.fst).Nodup) :
    (entries.map fun e => Statement.entry [e.1] e.2).foldlM Draft.add?
        ⟨before ++ [(name, .table .header inner)], [name]⟩ =
      some ⟨before ++ [(name, .table .header (inner ++ entries))], [name]⟩ := by
  induction entries generalizing inner with
  | nil => rw [List.append_nil]; rfl
  | cons e entries ih =>
    have hnew : e.1 ∉ inner.map Prod.fst := by
      rw [List.map_append, List.map_cons] at h
      exact fun hmem => (List.nodup_append.1 h).2.2 _ hmem _ List.mem_cons_self rfl
    have hsplit : inner ++ e :: entries = inner ++ [e] ++ entries := by simp
    rw [hsplit] at h ⊢
    rw [List.map_cons, List.foldlM_cons, add?_inner hname hnew]
    exact ih h

end Tables

end Rubric.Toml
