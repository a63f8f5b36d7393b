import Rubric.Files.Basic

/-!
# Changes to files

* `Files.Keeps before after` : directories stay where they are, so that paths lead where they led;
* `Files.Makes before after` : all that is new are directories where nothing was;
* `makes_makeDirectories` : making directories does nothing else, also where it fails;
* `writeText_ok` : a text that has been written is what the file holds, and other locations are as they
  were.
-/

namespace Rubric
namespace Files

variable {before after after' fs : Files} {l m : Location} {p : Path}

/-! ## Locations -/

theorem lookup_filter_ne (entries : List (Location × Entry)) (h : m ≠ l) :
    (entries.filter fun entry => entry.1 ≠ l).lookup m = entries.lookup m := by
  induction entries with
  | nil => rfl
  | cons entry rest ih =>
    obtain ⟨k, e⟩ := entry
    by_cases hk : k = l
    · subst hk
      rw [List.filter_cons_of_neg (by simp), ih, List.lookup_cons, beq_false_of_ne h]
    · rw [List.filter_cons_of_pos (by simpa using hk), List.lookup_cons, List.lookup_cons, ih]

theorem get?_set_self (e : Entry) (hl : ¬(l = [] ∨ l = root)) : (fs.set l e).get? l = some e := by
  rw [get?, if_neg hl, set, List.lookup_cons_self]

theorem get?_set_of_ne (e : Entry) (h : m ≠ l) : (fs.set l e).get? m = fs.get? m := by
  rw [get?, get?, set, List.lookup_cons, beq_false_of_ne h, lookup_filter_ne _ h]

theorem not_fixed (h : fs.get? l ≠ some .directory) : ¬(l = [] ∨ l = root) := fun hl => by
  rw [get?, if_pos hl] at h
  exact h rfl

theorem content?_congr (h : after.get? l = before.get? l) : after.content? l = before.content? l := by
  rw [content?, h, content?]

/-! ## Directories that stay -/

/-- Directories stay where they are. -/
def Keeps (before after : Files) : Prop :=
  ∀ l, before.get? l = some .directory → after.get? l = some .directory

theorem Keeps.enter (h : Keeps before after) {s : Path.Step} (he : before.enter l s = .ok m) :
    after.enter l s = .ok m := by
  rw [Files.enter] at he ⊢
  cases ht : target l s with
  | error e =>
    rw [ht] at he
    cases he
  | ok k =>
    rw [ht] at he
    dsimp only at he ⊢
    cases hk : before.get? k with
    | none =>
      rw [hk] at he
      cases he
    | some e =>
      cases e with
      | file =>
        rw [hk] at he
        cases he
      | directory =>
        rw [hk] at he
        rw [h k hk]
        exact he

theorem Keeps.walk (h : Keeps before after) {steps : List Path.Step} (hw : before.walk l steps = .ok m) :
    after.walk l steps = .ok m := by
  induction steps generalizing l with
  | nil => exact hw
  | cons s rest ih =>
    rw [Files.walk, List.foldlM_cons] at hw ⊢
    cases he : before.enter l s with
    | error e =>
      rw [he] at hw
      cases hw
    | ok k =>
      rw [he] at hw
      rw [h.enter he]
      exact ih hw

theorem Keeps.find (h : Keeps before after) (hf : before.find p = .ok l) : after.find p = .ok l := by
  rw [Files.find] at hf ⊢
  split at hf
  · cases hf
  · rename_i hp
    rw [if_neg hp]
    rw [locate] at hf ⊢
    split at hf
    · exact hf
    · cases hw : before.walk (start p.isAbsolute) p.steps.dropLast with
      | error e =>
        rw [hw] at hf
        cases hf
      | ok k =>
        rw [hw] at hf
        rw [h.walk hw]
        exact hf

/-! ## New directories -/

/-- All that is new are directories where nothing was. -/
def Makes (before after : Files) : Prop :=
  ∀ l, after.get? l = before.get? l ∨ before.get? l = none ∧ after.get? l = some .directory

theorem Makes.refl (fs : Files) : Makes fs fs := fun _ => Or.inl rfl

theorem Makes.trans (h : Makes before after) (h' : Makes after after') : Makes before after' := by
  intro l
  rcases h' l with heq | ⟨hnone, hnew⟩
  · rw [heq]
    exact h l
  · rcases h l with heq | ⟨-, hdir⟩
    · exact Or.inr ⟨heq ▸ hnone, hnew⟩
    · rw [hdir] at hnone
      cases hnone

theorem Makes.content? (h : Makes before after) (l : Location) : after.content? l = before.content? l := by
  rcases h l with heq | ⟨hnone, hnew⟩
  · exact content?_congr heq
  · rw [Files.content?, hnew, Files.content?, hnone]

theorem makes_makeDirectory {absolute : Bool} {steps : List Path.Step}
    (h : fs.makeDirectory absolute steps = .ok after) : Makes fs after := by
  rw [makeDirectory] at h
  split at h
  · cases h
  · rename_i l _
    split at h
    · cases h
    · rename_i hfree
      cases h
      have hnone : fs.get? l = none := by simpa using hfree
      have hnot : fs.get? l ≠ some .directory := by simp [hnone]
      intro m
      by_cases hm : m = l
      · rw [hm]
        exact Or.inr ⟨hnone, get?_set_self _ (not_fixed hnot)⟩
      · exact Or.inl (get?_set_of_ne _ hm)

theorem makes_ensureDirectory (fs : Files) (absolute : Bool) (steps : List Path.Step) :
    Makes fs (fs.ensureDirectory absolute steps).1 := by
  rw [ensureDirectory]
  split
  · rename_i h
    exact makes_makeDirectory h
  · exact .refl fs

theorem makes_makeDirectoriesBack (absolute : Bool) (steps : List Path.Step) (fs : Files) :
    Makes fs (makeDirectoriesBack absolute steps fs).1 := by
  induction steps with
  | nil => exact .refl fs
  | cons s rest ih =>
    rw [makeDirectoriesBack]
    split
    · split
      · rename_i made hmade
        rw [hmade] at ih
        exact ih.trans (makes_ensureDirectory made absolute _)
      · rename_i made e hmade
        rw [hmade] at ih
        exact ih
    · exact makes_ensureDirectory fs absolute _

/-- Making directories makes no file and changes none, also where it fails. -/
theorem makes_makeDirectories (fs : Files) (p : Path) : Makes fs (fs.makeDirectories p).1 :=
  makes_makeDirectoriesBack p.isAbsolute p.ancestors.reverse fs

/-! ## Written files -/

theorem fromUTF8?_toUTF8 (text : String) : String.fromUTF8? text.toUTF8 = some text := by
  rw [String.fromUTF8?]
  exact dif_pos text.isValidUTF8

/-- A text that has been written is what the file holds. All other locations are as they were. -/
theorem writeText_ok {text : String} (h : fs.writeText p text = .ok after) :
    after.readText p = .ok text ∧ ∃ l, after.find p = .ok l ∧ ∀ m, m ≠ l → after.get? m = fs.get? m := by
  rw [writeText] at h
  split at h
  · cases h
  · rename_i l hfind
    split at h
    · cases h
    · rename_i hplace
      cases h
      obtain ⟨hfile, hdir⟩ : p.namesDirectory = false ∧ ¬(fs.get? l).any Entry.isDirectory := by
        simpa [not_or] using hplace
      have hnot : fs.get? l ≠ some .directory := fun heq => by
        rw [heq] at hdir
        exact hdir rfl
      have hkeeps : Keeps fs (fs.set l (.file text.toUTF8)) := by
        intro m hm
        have hne : m ≠ l := fun heq => hnot (heq ▸ hm)
        rwa [get?_set_of_ne _ hne]
      have hfind' := hkeeps.find hfind
      refine ⟨?_, l, hfind', fun m hm => get?_set_of_ne _ hm⟩
      rw [readText, hfind']
      dsimp only
      rw [get?_set_self _ (not_fixed hnot)]
      dsimp only
      rw [hfile, fromUTF8?_toUTF8]
      rfl

end Files
end Rubric
