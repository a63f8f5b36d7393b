import Rubric.Host
import Rubric.Proofs.Files.Changes

/-!
# Hosts that keep their files

* `Action σ ε α` : an action that can fail, on a host that is a state;
* `Host.Lawful view` : a host on which each action does what it is for. What is looked at stays as it is, and
  an action that fails makes and changes no file. It may fail for any reason;
* `Action.Looks` : an action that leaves all that is seen of a host as it was;
* `Machine.lawful`, `Guarded.lawful` : two such hosts, one of which refuses to write some files.
-/

namespace Rubric

/-- An action that can fail, on a host that is a state. -/
abbrev Action (σ ε α : Type) := ExceptT ε (StateM σ) α

abbrev OnMachine (ε α : Type) := Action Machine ε α

/-- What is seen of a host that is a state are its files and what has been printed on it. Nothing is said of
when an action fails. -/
structure Host.Lawful {σ : Type} [Host (StateM σ)] (view : σ → Machine) : Prop where
  holds (p : Path) (s : σ) : view ((Host.holds p : StateM σ Bool).run s).2 = view s
  readText (p : Path) (s : σ) : view ((Host.readText p : StateM σ (Except FileError String)).run s).2 = view s
  /-- A text that is read is that of the file. -/
  text {p : Path} {s : σ} {text : String}
    (h : ((Host.readText p : StateM σ (Except FileError String)).run s).1 = .ok text) :
    (view s).files.readText p = .ok text
  /-- All that is new are directories, also if not all of them can be made. -/
  makeDirectories (p : Path) (s : σ) :
    let after := view ((Host.makeDirectories p : StateM σ (Except FileError Unit)).run s).2
    (view s).files.Makes after.files ∧ after.printed = (view s).printed
  /-- Where a text cannot be written, all is as it was. -/
  unwritten {p : Path} {text : String} {s : σ} {e : FileError}
    (h : ((Host.writeText p text : StateM σ (Except FileError Unit)).run s).1 = .error e) :
    view ((Host.writeText p text : StateM σ (Except FileError Unit)).run s).2 = view s
  /-- A text that has been written is what the file holds, and no other file is made or changed. -/
  written {p : Path} {text : String} {s : σ}
    (h : ((Host.writeText p text : StateM σ (Except FileError Unit)).run s).1 = .ok ()) :
    let after := view ((Host.writeText p text : StateM σ (Except FileError Unit)).run s).2
    after.printed = (view s).printed ∧ after.files.readText p = .ok text ∧
      ∃ l, after.files.find p = .ok l ∧ ∀ m, m ≠ l → after.files.content? m = (view s).files.content? m
  print (text : String) (s : σ) : view ((Host.print text : StateM σ Unit).run s).2 = (view s).print text

/-! ## Actions -/

namespace Action
variable {σ ε ε' α β : Type}

theorem run_bind (x : Action σ ε α) (f : α → Action σ ε β) (s : σ) :
    (x >>= f).run.run s =
      match x.run.run s with
      | (.ok a, after) => (f a).run.run after
      | (.error e, after) => (.error e, after) := by
  show (match x.run.run s with
    | (r, after) => StateT.run (ExceptT.bindCont f r) after) = _
  rcases x.run.run s with ⟨r, after⟩
  cases r <;> rfl

theorem run_lift (x : StateM σ α) (s : σ) :
    (liftM x : Action σ ε α).run.run s = (.ok (x.run s).1, (x.run s).2) := rfl

theorem run_mk (x : StateM σ (Except ε α)) (s : σ) : (ExceptT.mk x : Action σ ε α).run.run s = x.run s := rfl

/-- The action leaves all that is seen of the host as it was. -/
def Looks (view : σ → Machine) (x : Action σ ε α) : Prop := ∀ s, view (x.run.run s).2 = view s

variable {view : σ → Machine}

theorem Looks.pure (a : α) : Looks view (pure a : Action σ ε α) := fun _ => rfl

theorem Looks.throw (e : ε) : Looks view (throw e : Action σ ε α) := fun _ => rfl

theorem Looks.adapt {x : Action σ ε α} (h : x.Looks view) (f : ε → ε') :
    Looks view (x.adapt f : Action σ ε' α) := h

theorem Looks.bind {x : Action σ ε α} {f : α → Action σ ε β} (h : x.Looks view) (hf : ∀ a, (f a).Looks view) :
    (x >>= f).Looks view := by
  intro s
  have hx := h s
  rw [run_bind]
  generalize x.run.run s = result at hx
  obtain ⟨r, after⟩ := result
  cases r with
  | error e => exact hx
  | ok a => exact (hf a after).trans hx

end Action

/-! ## Machines -/

namespace Machine
variable {machine after : Machine} {p : Path} {text : String} {e : FileError}

theorem writeText_error (h : (machine.writeText p text).1 = .error e) : (machine.writeText p text).2 = machine := by
  rw [writeText] at h ⊢
  split at h
  · cases h
  · rfl

theorem writeText_ok (h : machine.writeText p text = (.ok (), after)) :
    after.printed = machine.printed ∧ after.files.readText p = .ok text ∧
      ∃ l, after.files.find p = .ok l ∧ ∀ m, m ≠ l → after.files.content? m = machine.files.content? m := by
  rw [writeText] at h
  split at h
  · rename_i files hfiles
    cases h
    obtain ⟨hread, l, hfind, hother⟩ := Files.writeText_ok hfiles
    exact ⟨rfl, hread, l, hfind, fun m hm => Files.content?_congr (hother m hm)⟩
  · cases h

/-- A machine shows all that it is. -/
theorem lawful : Host.Lawful fun machine : Machine => machine where
  holds _ _ := rfl
  readText _ _ := rfl
  text h := h
  makeDirectories p machine := ⟨Files.makes_makeDirectories machine.files p, rfl⟩
  unwritten h := writeText_error h
  written h := writeText_ok (Prod.ext h rfl)
  print _ _ := rfl

end Machine

/-- A machine on which some files must not be written. -/
structure Guarded where
  machine : Machine
  denied : List Path

instance : Host (StateM Guarded) where
  holds p := fun s => (s.machine.files.holds p, s)
  readText p := fun s => (s.machine.files.readText p, s)
  makeDirectories p := fun s =>
    let (result, machine) := s.machine.makeDirectories p
    (result, { s with machine })
  writeText p text := fun s =>
    if p ∈ s.denied then (.error (.other "Permission denied (os error 13)"), s)
    else
      let (result, machine) := s.machine.writeText p text
      (result, { s with machine })
  print text := fun s => ((), { s with machine := s.machine.print text })

namespace Guarded
variable {s : Guarded} {p : Path} {text : String}

theorem run_writeText_denied (h : p ∈ s.denied) :
    (Host.writeText p text : StateM Guarded (Except FileError Unit)).run s =
      (.error (.other "Permission denied (os error 13)"), s) := if_pos h

theorem run_writeText (h : p ∉ s.denied) :
    (Host.writeText p text : StateM Guarded (Except FileError Unit)).run s =
      ((s.machine.writeText p text).1, { s with machine := (s.machine.writeText p text).2 }) := if_neg h

theorem lawful : Host.Lawful Guarded.machine where
  holds _ _ := rfl
  readText _ _ := rfl
  text h := h
  makeDirectories p s := Machine.lawful.makeDirectories p s.machine
  unwritten {p text s e} h := by
    by_cases hp : p ∈ s.denied
    · rw [run_writeText_denied hp]
    · rw [run_writeText hp] at h ⊢
      exact Machine.writeText_error h
  written {p text s} h := by
    by_cases hp : p ∈ s.denied
    · rw [run_writeText_denied hp] at h
      cases h
    · rw [run_writeText hp] at h ⊢
      exact Machine.writeText_ok (Prod.ext h rfl)
  print _ _ := rfl

end Guarded
end Rubric
