import Rubric.Config.Store
import Rubric.Proofs.CommandLine.Hosts
import Rubric.Proofs.Toml.Documents

/-!
# Saved configurations are loaded again

* `Settings.entries` : what is written of settings; `Settings.ofValue?_entries` : they describe the settings;
* `Config.parse?_text` : the text of a configuration is read as the configuration;
* `Config.load_save` : what is loaded from where a configuration has been saved is the configuration, if its
  path names no variables, whatever file was there before.
-/

namespace Rubric

/-! ## Settings as a table -/

namespace Settings

def textEntry (key : String) (s : Option String) : Toml.Table := s.toList.map fun t => (key, .string t)

/-- The entries of settings: those that are set, in order. -/
def entries (s : Settings) : Toml.Table :=
  textEntry "h_labels" s.headingLabels ++ ("h_level", .integer s.headingLevel) ::
    (textEntry "ol_labels" s.orderedLabels ++
      (textEntry "ul_labels" s.unorderedLabels ++ [("mode", .string s.mode.name)]))

theorem nodup_entries (s : Settings) : (s.entries.map Prod.fst).Nodup := by
  obtain ⟨headings, level, ordered, unordered, mode⟩ := s
  cases headings <;> cases ordered <;> cases unordered <;>
    simp only [entries, textEntry, Option.toList_none, Option.toList_some, List.map_nil, List.map_cons,
      List.nil_append, List.cons_append] <;> decide

/-- Settings are described by their entries. What is not set has no entry, and that is its default. -/
theorem ofValue?_entries {s : Settings} (h : s.headingLevel ≤ 255) :
    ofValue? (.table .header s.entries) = some s := by
  obtain ⟨headings, level, ordered, unordered, mode⟩ := s
  have hlevel : Toml.Value.byte? (.integer level) = some level := by
    have hbounds : (0 : Int) ≤ level ∧ (level : Int) ≤ 255 := ⟨Int.natCast_nonneg _, Int.ofNat_le.2 h⟩
    rw [Toml.Value.byte?, if_pos hbounds, Int.toNat_natCast]
  have hmode : Toml.Value.mode? (.string mode.name) = some mode := Mode.ofName?_name mode
  show ofFields? (Toml.Table.get? (entries ⟨headings, level, ordered, unordered, mode⟩)) = _
  cases headings <;> cases ordered <;> cases unordered <;>
    simp [ofFields?, entries, textEntry, Toml.Table.get?, List.lookup_cons, Toml.Value.field?, hlevel,
      hmode, Toml.Value.text?]

end Settings

/-! ## Texts of configurations -/

namespace Config
open Toml Settings

section Lines
variable {key value : String} {v : Value} {r : List Char} {statements : List Statement}

theorem toList_line (key value : String) (r : List Char) :
    (line key value).toList ++ r = key.toList ++ ' ' :: '=' :: ' ' :: (value.toList ++ '\n' :: r) := by
  simp [line]

theorem readStatements_line (hkey : IsBareKey key) (hv : Reads value.toList v)
    (h : readStatements r = some statements) :
    readStatements ((line key value).toList ++ r) = some (.entry [key] v :: statements) := by
  rw [toList_line]
  exact readStatements_entry hkey hv h

/-- There is a line for a text exactly if it is set. -/
theorem readStatements_textLine (hkey : IsBareKey key) (s : Option String)
    (h : readStatements r = some statements) :
    readStatements ((textLine key s).toList ++ r) =
      some ((textEntry key s).map (fun e => Statement.entry [e.1] e.2) ++ statements) := by
  cases s with
  | none => exact h
  | some t => exact readStatements_line hkey (reads_quote t) h

end Lines

theorem readStatements_settingsText {s : Settings} (h : s.headingLevel ≤ 255) {gap : List Char}
    (hgap : gap = [] ∨ gap = ['\n']) :
    readStatements (gap ++ (settingsText s).toList) =
      some (.table ["labels"] :: s.entries.map fun e => .entry [e.1] e.2) := by
  have hmode := readStatements_line (show IsBareKey "mode" by decide) (reads_quote s.mode.name)
    readStatements_nil
  have hunordered := readStatements_textLine (show IsBareKey "ul_labels" by decide) s.unorderedLabels hmode
  have hordered := readStatements_textLine (show IsBareKey "ol_labels" by decide) s.orderedLabels hunordered
  have hlevel := readStatements_line (show IsBareKey "h_level" by decide) (reads_byte h) hordered
  have hheadings := readStatements_textLine (show IsBareKey "h_labels" by decide) s.headingLabels hlevel
  have hheader := readStatements_header (show IsBareKey "labels" by decide) hheadings hgap
  have htext : (settingsText s).toList =
      '[' :: ("labels".toList ++ ']' :: '\n' ::
        ((textLine "h_labels" s.headingLabels).toList ++
          ((line "h_level" (toString s.headingLevel)).toList ++
            ((textLine "ol_labels" s.orderedLabels).toList ++
              ((textLine "ul_labels" s.unorderedLabels).toList ++
                ((line "mode" (quote s.mode.name)).toList ++ [])))))) := by
    simp [settingsText]
  rw [htext, hheader, entries]
  simp

def pathEntry (c : Config) : Table := textEntry "stylesheet_path" (c.stylesheetPath.map Path.text)

theorem not_mem_pathEntry (c : Config) : "labels" ∉ c.pathEntry.map Prod.fst := by
  rw [pathEntry]
  cases c.stylesheetPath with
  | none => exact List.not_mem_nil
  | some p => exact (by decide : "labels" ∉ ["stylesheet_path"])

theorem readStatements_text {c : Config} (h : c.settings.headingLevel ≤ 255) :
    readStatements c.text.toList =
      some (c.pathEntry.map (fun e => .entry [e.1] e.2) ++
        .table ["labels"] :: c.settings.entries.map fun e => .entry [e.1] e.2) := by
  rw [text, pathEntry]
  cases c.stylesheetPath with
  | none => exact readStatements_settingsText h (Or.inl rfl)
  | some p =>
    have hline := readStatements_line (show IsBareKey "stylesheet_path" by decide) (reads_quote p.text)
      (readStatements_settingsText h (Or.inr rfl))
    rw [← List.append_assoc] at hline
    simpa [textEntry] using hline

theorem dropMark_text (c : Config) : dropMark c.text.toList = c.text.toList := by
  rw [text]
  cases c.stylesheetPath with
  | none => simp [settingsText, dropMark]
  | some p => simp [line, dropMark]

theorem parse?_toml {c : Config} (h : c.settings.headingLevel ≤ 255) :
    Toml.parse? c.text = some (c.pathEntry ++ [("labels", .table .header c.settings.entries)]) := by
  have hpath : (c.pathEntry.map fun e => Statement.entry [e.1] e.2).foldlM Draft.add? {} =
      some ⟨c.pathEntry, []⟩ := by
    rw [pathEntry]
    cases c.stylesheetPath with
    | none => rfl
    | some p => exact (congrArg (· >>= _) (add?_entry (t := []) List.not_mem_nil)).trans rfl
  have hnodup : (([] ++ c.settings.entries).map Prod.fst).Nodup := c.settings.nodup_entries
  have hsettings := foldlM_entries c.not_mem_pathEntry hnodup
  rw [List.nil_append] at hsettings
  rw [Toml.parse?, dropMark_text, readStatements_text h, Option.bind_some, ofStatements?,
    List.foldlM_append, hpath, Option.bind_eq_bind, Option.bind_some, List.foldlM_cons,
    add?_header c.not_mem_pathEntry, Option.bind_eq_bind, Option.bind_some, hsettings]
  rfl

/-- The text of a configuration is read as the configuration. -/
theorem parse?_text {c : Config} (h : c.settings.headingLevel ≤ 255) : parse? c.text = some c := by
  obtain ⟨stylesheet, settings⟩ := c
  have hsettings := ofValue?_entries h
  rw [parse?, parse?_toml h, Option.bind_some, ofTable?, pathEntry]
  cases stylesheet <;>
    simp [textEntry, Table.get?, List.lookup_cons, Value.field?, hsettings, Value.text?]

/-! ## Files of configurations -/

open Rubric.Action

theorem expand_eq {env : Environment} {c : Config}
    (h : ∀ p ∈ c.stylesheetPath, (env.expand? p).getD p = p) : c.expand env = c := by
  obtain ⟨stylesheet, settings⟩ := c
  cases stylesheet with
  | none => rfl
  | some p => rw [expand, Option.map_some, h p rfl]

theorem holds_of_readText {fs : Files} {p : Path} {text : String} (h : fs.readText p = .ok text) :
    fs.holds p := by
  rw [Files.readText] at h
  rw [Files.holds]
  cases hfind : fs.find p with
  | error e =>
    rw [hfind] at h
    cases h
  | ok l =>
    rw [hfind] at h
    dsimp only at h ⊢
    cases hget : fs.get? l with
    | none =>
      rw [hget] at h
      cases h
    | some e =>
      rw [hget] at h
      cases e with
      | directory => rfl
      | file content =>
        dsimp only at h ⊢
        split at h
        · cases h
        · rename_i hdir
          rw [Bool.eq_false_iff.2 hdir]
          rfl

/-- What a saved configuration leaves in its file is its text. -/
theorem readText_of_save {c : Config} {p : Path} {machine machine' : Machine}
    (h : (c.save p : OnMachine FileError Unit).run.run machine = (.ok (), machine')) :
    machine'.files.readText p = .ok c.text := by
  rw [save, run_bind, run_mk] at h
  split at h
  · rename_i after heq
    rw [run_mk] at h
    exact (Machine.writeText_ok h).2.1
  · cases h

/-- A configuration in a file is loaded with the variables in its path replaced. -/
theorem run_load (env : Environment) {c : Config} {p : Path} {machine : Machine} {s : String}
    (hread : machine.files.readText p = .ok s) (hparse : parse? s = some c) :
    (load env p : OnMachine ConfigError (Option Config)).run.run machine =
      (.ok (some (c.expand env)), machine) := by
  have hholds : (Host.holds p : StateM Machine Bool).run machine = (machine.files.holds p, machine) := rfl
  have htext : (Host.readText p : StateM Machine (Except FileError String)).run machine =
      (machine.files.readText p, machine) := rfl
  rw [load, run_bind, run_lift, hholds, holds_of_readText hread]
  dsimp only
  rw [if_pos rfl, run_bind, run_lift, htext, hread]
  dsimp only
  rw [hparse]
  rfl

/-- What is loaded from where a configuration has been saved is the configuration, if its path names no
variables, whatever file was there before. -/
theorem load_save {c : Config} {env : Environment} {p : Path} {machine machine' : Machine}
    (hlevel : c.settings.headingLevel ≤ 255)
    (hpath : ∀ path ∈ c.stylesheetPath, (env.expand? path).getD path = path)
    (hsave : (c.save p : OnMachine FileError Unit).run.run machine = (.ok (), machine')) :
    (load env p : OnMachine ConfigError (Option Config)).run.run machine' = (.ok (some c), machine') := by
  have hload := run_load env (readText_of_save hsave) (parse?_text hlevel)
  rwa [expand_eq hpath] at hload

/-- A configuration with quotes, backslashes, line breaks and control characters in its templates takes the
place of an older file. -/
theorem load_save_quoted :
    let c : Config :=
      { stylesheetPath := some ⟨"site/it's.css"⟩
        settings :=
          { headingLabels := some "\"'\\\n\"\"\"\x07", headingLevel := 255
            unorderedLabels := some "• \t'", mode := .css } }
    let machine : Machine := { files := ⟨[(["config.toml"], .file "[labels]\nh_level = 2".toUTF8)]⟩ }
    let saved := (c.save ⟨"config.toml"⟩ : OnMachine FileError Unit).run.run machine
    saved.1 = .ok () ∧
      (load {} ⟨"config.toml"⟩ : OnMachine ConfigError (Option Config)).run.run saved.2 =
        (.ok (some c), saved.2) := by
  intro c machine saved
  have hsaved : saved.1 = .ok () := rfl
  refine ⟨hsaved, load_save (by decide) (fun path hpath => ?_) (Prod.ext hsaved rfl)⟩
  cases hpath
  decide +kernel

end Config
end Rubric
