import Rubric.Proofs.Template.Reading
import Rubric.Template.Printer

/-!
# Printed templates

* `Literal.quote` : a text between quotes, with its quotes doubled, stands for the text;
* `Name.of_style` : the name of a style is a name, and stands for the style;
* `Level.toText`, `Derives.toText` : the canonical source of a level, and of a template, stands for it;
* `parse_toText` : a template that has been read is read again from its canonical source.
-/

namespace Rubric

/-! ## Names -/

theorem Registry.readName_known : ∀ name ∈ known,
    name.toList ≠ [] ∧ Template.readName name.toList = (name.toList, []) := by decide +kernel

namespace Template

/-- The name of a style is a name. -/
theorem Name.of_style {style : CounterStyle} (h : style ∈ Registry.styles) : Name style.name.toList := by
  obtain ⟨hne, hread⟩ := Registry.readName_known style.name
    (List.mem_append_right _ (List.mem_map_of_mem h))
  have hname := name_of_readName style.name.toList
  rw [hread] at hname
  exact (hname.resolve_left hne).1

/-! ## Literals and markers -/

theorem Quoted.doubled (quote : Char) (s : List Char) :
    Quoted quote (s.flatMap fun c => if c = quote then [c, c] else [c]) s := by
  induction s with
  | nil => exact .nil
  | cons c s ih =>
    rw [List.flatMap_cons]
    by_cases hc : c = quote
    · rw [if_pos hc, hc]
      exact .twice ih
    · rw [if_neg hc]
      exact .char hc ih

/-- A text between quotes, with its quotes doubled, stands for the text. -/
theorem Literal.quote (s : String) : Literal (quote s).toList s.toList := by
  rw [Template.quote, String.toList_ofList]
  have h := Literal.quoted (Or.inl rfl) (Quoted.doubled '\x22' s.toList) (by simp) Literal.nil
  rwa [List.append_nil] at h

theorem Literal.optional (s : String) : Literal (if s.isEmpty then "" else Template.quote s).toList s.toList := by
  split
  · rename_i hempty
    rw [String.isEmpty_iff.1 hempty]
    exact .nil
  · exact .quote s

theorem Marker.toText (selector : Selector) : Marker selector.toText.toList selector := by
  cases selector with
  | any => exact .any (Or.inr rfl)
  | list => exact .list (Or.inr rfl)
  | heading => exact .heading (Or.inr rfl)
  | level l =>
    have hdigit : ∀ n < 7, ("H" ++ toString n).toList = ['H', Nat.digitChar n] := by decide
    rw [Selector.toText, hdigit _ (Nat.lt_succ_of_le l.le_six)]
    exact .level (Or.inr rfl) l

/-! ## Levels -/

/-- What canonical sources begin with: a quote, a letter or a digit. -/
def Opens (s : List Char) : Prop := ∃ c r, s = c :: r ∧ (c = '\x22' ∨ c.isAlphanum)

theorem Opens.append {s : List Char} (h : Opens s) (r : List Char) : Opens (s ++ r) := by
  obtain ⟨c, s, rfl, hc⟩ := h
  exact ⟨c, s ++ r, rfl, hc⟩

theorem Opens.quote (s : String) : Opens (Template.quote s).toList :=
  ⟨'\x22', _, String.toList_ofList, Or.inl rfl⟩

theorem Opens.optional {s : List Char} (h : Opens s) (t : String) :
    Opens ((if t.isEmpty then "" else Template.quote t).toList ++ s) := by
  split
  · exact h
  · exact (Opens.quote t).append s

theorem not_isBlank_of_isAlphanum {c : Char} (h : c.isAlphanum) : ¬Text.isBlank c := by
  have hrange : 48 ≤ c.toNat ∧ c.toNat ≤ 122 := by
    delta Char.isAlphanum Char.isAlpha Char.isUpper Char.isLower Char.isDigit at h
    simp only [Bool.or_eq_true, Bool.and_eq_true, decide_eq_true_eq, ge_iff_le, UInt32.le_iff_toNat_le] at h
    have hranges : (65 ≤ c.toNat ∧ c.toNat ≤ 90 ∨ 97 ≤ c.toNat ∧ c.toNat ≤ 122) ∨
      48 ≤ c.toNat ∧ c.toNat ≤ 57 := h
    omega
  simp only [Text.isBlank, Bool.or_eq_true, Bool.and_eq_true, decide_eq_true_eq, beq_iff_eq]
  omega

theorem Opens.not_isBlank {s : List Char} (h : Opens s) : ∀ c ∈ s.head?, ¬Text.isBlank c := by
  obtain ⟨c, r, rfl, hc⟩ := h
  rintro e ⟨⟩
  rcases hc with rfl | hc
  · decide
  · exact not_isBlank_of_isAlphanum hc

theorem Opens.not_star {s : List Char} (h : Opens s) : ¬Star s := by
  rintro @⟨blanks, blanks', hblanks, -⟩
  cases blanks with
  | nil =>
    obtain ⟨c, r, hs, hc⟩ := h
    cases hs
    exact absurd hc (by decide)
  | cons c blanks => exact h.not_isBlank c rfl (hblanks c (List.mem_cons_self ..))

theorem Opens.not_allBlank {s : List Char} (h : Opens s) : ¬∀ c ∈ s, Text.isBlank c := by
  intro hblank
  obtain ⟨c, r, rfl, -⟩ := id h
  exact h.not_isBlank c rfl (hblank c (List.mem_cons_self ..))

/-- The canonical source of a level spells it. -/
theorem Spells.toText {s : List Char} {segment : Segment} (h : Spells s segment) :
    Spells segment.toText.toList segment ∧ Opens segment.toText.toList := by
  have hnamed : ∀ {name : String} {style : CounterStyle}, Registry.find? name = some style →
      Name style.name.toList ∧ Registry.find? (String.ofList style.name.toList) = some style := by
    intro name style h
    have hmem : style ∈ Registry.styles := List.mem_of_find?_eq_some h
    exact ⟨.of_style hmem, by rw [String.ofList_toList, Registry.find?_name hmem]⟩
  cases h with
  | @literal s t h =>
    have hquote := Literal.quote (String.ofList t)
    rw [String.toList_ofList] at hquote
    exact ⟨.literal hquote, .quote _⟩
  | @numeral s t name s' t' style h hname hstyle h' =>
    obtain ⟨hname, hstyle⟩ := hnamed hstyle
    have hbefore := Literal.optional (String.ofList t)
    have hafter := Literal.optional (String.ofList t')
    rw [String.toList_ofList] at hbefore hafter
    simp only [Segment.toText, Segment.numeralText, String.toList_append, String.toList_empty, List.nil_append]
    refine ⟨.numeral hbefore hname hstyle hafter, ?_⟩
    obtain ⟨c, r, hcons, hc⟩ := hname.exists_cons
    exact .optional (.append ⟨c, r, hcons, Or.inr hc⟩ _) _
  | @marked s t marker u v name s' t' selector style h hmarker hseparator hname hstyle h' =>
    obtain ⟨hname, hstyle⟩ := hnamed hstyle
    have hbefore := Literal.optional (String.ofList t)
    have hseparator := Literal.quote (String.ofList v)
    have hafter := Literal.optional (String.ofList t')
    rw [String.toList_ofList] at hbefore hseparator hafter
    simp only [Segment.toText, Segment.numeralText, String.toList_append, List.append_assoc]
    refine ⟨.marked hbefore (.toText selector) hseparator hname hstyle hafter, ?_⟩
    obtain ⟨c, r, hcons, hc⟩ := (Marker.toText selector).exists_cons
    exact .optional (.append ⟨c, r, hcons, Or.inr hc⟩ _) _

/-- The canonical source of a level stands for it. -/
theorem Level.toText {s : List Char} {segment : Segment} (h : Level s segment) :
    Level segment.toText.toList segment ∧ Opens segment.toText.toList := by
  obtain ⟨-, -, h⟩ := h
  obtain ⟨hspells, hopens⟩ := h.toText
  exact ⟨.mk (List.forall_mem_nil _) hopens.not_isBlank hspells, hopens⟩

/-! ## Templates -/

theorem toText_last (segment : Segment) (repeats : Bool) :
    toText ⟨segment, [], repeats⟩ = segment.toText ++ if repeats then ",*" else "" := rfl

theorem toText_cons (segment : Segment) (t : Template) :
    (cons segment t).toText = segment.toText ++ "," ++ t.toText := by
  have hne : t.segments.map Segment.toText ≠ [] := by simp [segments]
  rw [Template.toText, segments_cons, List.map_cons, String.intercalate_cons_of_ne_nil hne, String.append_assoc]
  rfl

/-- The canonical source of a template stands for it. -/
theorem Derives.toText {s : List Char} {t : Template} (h : Derives s t) :
    Derives t.toText.toList t ∧ Opens t.toText.toList := by
  induction h with
  | @last s segment hlevel =>
    obtain ⟨hlevel, hopens⟩ := hlevel.toText
    rw [toText_last, if_neg (by decide), String.append_empty]
    exact ⟨.last hlevel, hopens⟩
  | @repeated s r segment hlevel =>
    obtain ⟨hlevel, hopens⟩ := hlevel.toText
    rw [toText_last, if_pos rfl, String.toList_append]
    exact ⟨.repeated hlevel (.mk (List.forall_mem_nil _) (List.forall_mem_nil _)), hopens.append _⟩
  | @next s r segment t hlevel _ _ _ ih =>
    obtain ⟨hlevel, hopens⟩ := hlevel.toText
    obtain ⟨hderives, hopens'⟩ := ih
    rw [toText_cons, String.append_assoc, String.toList_append, String.toList_append]
    exact ⟨.next hlevel hopens'.not_star hopens'.not_allBlank hderives, hopens.append _⟩

/-- A template that has been read is read again from its canonical source, which is then the canonical source of
what has been read. -/
theorem parse_toText {source : String} {t : Template} (h : parse source = .ok t) :
    parse t.toText = .ok t ∧ (parse t.toText).map Template.toText = .ok t.toText := by
  have hparse : parse t.toText = .ok t := parse_eq_ok_iff.2 (parse_eq_ok_iff.1 h).toText.1
  exact ⟨hparse, by rw [hparse]; rfl⟩

/-- A literal star, a marker with a separator, an alias, a marker without a separator in front of a style that
begins like one, and the mark of repetition. -/
theorem parse_toText_aliases :
    let t : Template :=
      ⟨{ before := "*", separator := ".", after := ":", parent := some (.level ⟨1, by decide, by decide⟩),
         style := Registry.find? "a" },
        [{ parent := some .any, style := Registry.find? "lao" }], true⟩
    parse "'*'H1.a:,Xlao,*" = .ok t ∧ parse t.toText = .ok t ∧
      (parse t.toText).map Template.toText = .ok t.toText := by
  intro t
  have h : parse "'*'H1.a:,Xlao,*" = .ok t := by decide +kernel
  exact ⟨h, parse_toText h⟩

end Template
end Rubric
