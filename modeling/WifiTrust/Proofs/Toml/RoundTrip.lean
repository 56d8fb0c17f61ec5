import WifiTrust.Proofs.Action
import WifiTrust.Proofs.Files.Tree
import WifiTrust.Proofs.Toml.Document
import WifiTrust.Saved

/-!
# Configuration is read as it was written

A policy is read back unless its interface has no name, and settings are loaded as they were saved,
with what is set and what is not.
-/

namespace WifiTrust

namespace Toml

/-! ## Fields -/

section Fields

variable {lines : List (String × Plain)} {key : String}

theorem textField_of_lookup {text : String} (h : lines.lookup key = some (.string text))
    (default : String) : textField (entries lines) key default = some text := by
  rw [textField, get?_entries, h]
  exact congrArg some String.ofList_toList

theorem flagField_of_lookup {b : Bool} (h : lines.lookup key = some (.boolean b))
    (default : Bool) : flagField (entries lines) key default = some b := by
  rw [flagField, get?_entries, h]
  rfl

theorem pathField_of_lookup {path : Option Path}
    (h : lines.lookup key = path.map fun p => .string p.text) :
    pathField (entries lines) key = some path := by
  rw [pathField, get?_entries, h]
  cases path with
  | none => rfl
  | some p => exact congrArg (fun text => some (some (Path.mk text))) String.ofList_toList

theorem outputField_of_lookup {format : Option OutputFormat}
    (h : lines.lookup key = format.map fun f => .string f.name) :
    outputField (entries lines) key = some format := by
  rw [outputField, get?_entries, h]
  cases format with
  | none => rfl
  | some f =>
      cases f with
      | pretty => rfl
      | json => rfl

end Fields

end Toml

open Script (World)
open Toml

/-! ## Policies -/

namespace Policy

def lines (p : Policy) : List (String × Plain) := [
  ("interface_name", .string p.interfaceName),
  ("trust_on_first_use_supported", .boolean p.trustOnFirstUseSupported),
  ("insecure_enterprise_allowed", .boolean p.insecureEnterpriseAllowed),
  ("ca_cert_help_link", .string p.caCertHelpLink)]

def keys : List String := [
  "interface_name", "trust_on_first_use_supported", "insecure_enterprise_allowed",
  "ca_cert_help_link"]

theorem ofEntries?_lines (p : Policy) : ofEntries? (entries p.lines) = some p := by
  have hname : p.lines.lookup "interface_name" = some (.string p.interfaceName) := rfl
  have htofu : p.lines.lookup "trust_on_first_use_supported" =
      some (.boolean p.trustOnFirstUseSupported) := rfl
  have hinsecure : p.lines.lookup "insecure_enterprise_allowed" =
      some (.boolean p.insecureEnterpriseAllowed) := rfl
  have hlink : p.lines.lookup "ca_cert_help_link" = some (.string p.caCertHelpLink) := rfl
  unfold ofEntries?
  dsimp only
  rw [textField_of_lookup hname, flagField_of_lookup htofu, flagField_of_lookup hinsecure,
    textField_of_lookup hlink]
  rfl

theorem parse_toToml (p : Policy) : parse p.toToml = some (entries p.lines) := by
  have known : (p.lines.map (·.1)).Sublist keys := List.Sublist.refl keys
  exact parse_document (by decide) (by decide) known

theorem ofToml_toToml (p : Policy) :
    ofToml p.toToml = if p.interfaceName = "" then .error .namelessInterface else .ok p := by
  unfold ofToml
  rw [parse_toToml, Option.bind_some, ofEntries?_lines]

end Policy

/-! ## Settings -/

namespace Settings

def line (key : String) (text : Option String) : List (String × Plain) :=
  text.toList.map fun text => (key, .string text)

def lines (s : Settings) : List (String × Plain) :=
  line "output_format" (s.outputFormat.map OutputFormat.name) ++
    line "handler_config" (s.policyPath.map Path.text) ++
    line "state_file" (s.statePath.map Path.text)

def keys : List String := ["output_format", "handler_config", "state_file"]

theorem known_line (key : String) (text : Option String) :
    ((line key text).map (·.1)).Sublist [key] := by
  cases text with
  | none => exact List.nil_sublist [key]
  | some text => exact List.Sublist.refl [key]

theorem known_lines (s : Settings) : (s.lines.map (·.1)).Sublist keys := by
  rw [lines, List.map_append, List.map_append]
  exact ((known_line _ _).append (known_line _ _)).append (known_line _ _)

theorem lookup_line (key key' : String) (text : Option String) :
    (line key text).lookup key' = if key' = key then text.map .string else none := by
  cases text with
  | none => exact (ite_self none).symm
  | some text =>
      split
      · next h =>
          subst h
          exact List.lookup_cons_self
      · next h => simp [line, List.lookup_cons, beq_false_of_ne h]

theorem ofEntries?_lines (s : Settings) : ofEntries? (entries s.lines) = some s := by
  have hformat : s.lines.lookup "output_format" =
      s.outputFormat.map fun f => .string f.name := by
    simp [lines, List.lookup_append, lookup_line, Function.comp_def]
  have hpolicy : s.lines.lookup "handler_config" =
      s.policyPath.map fun p => .string p.text := by
    simp [lines, List.lookup_append, lookup_line, Function.comp_def]
  have hstate : s.lines.lookup "state_file" = s.statePath.map fun p => .string p.text := by
    simp [lines, List.lookup_append, lookup_line, Function.comp_def]
  unfold ofEntries?
  rw [outputField_of_lookup hformat, pathField_of_lookup hpolicy, pathField_of_lookup hstate]
  rfl

theorem ofToml?_toToml (s : Settings) : ofToml? s.toToml = some s := by
  have hparse : parse s.toToml = some (entries s.lines) :=
    parse_document (by decide) (by decide) (known_lines s)
  unfold ofToml?
  rw [hparse, Option.bind_some, ofEntries?_lines]

theorem load_of_save {s : Settings} {p : Path} {w w₁ w₂ : World}
    (saved : (s.save p).perform w = (.ok (), w₁))
    (untouched : w₂.files.read p = w₁.files.read p) :
    (load p).perform w₂ = (.ok s, w₂) := by
  obtain ⟨_, w', -, hwrite⟩ := Action.perform_bind_eq_ok saved
  have hfile : w₂.files.read p = .ok (Utf8.encode s.toToml.toList) :=
    untouched.trans (FileTree.read_of_write (Action.perform_write_eq_ok hwrite))
  have hexists : (Action.pathExists p).perform w₂ = (.ok true, w₂) := by
    rw [Action.perform_pathExists, FileTree.pathExists_of_read hfile]
  have hread : (Action.readText p .ownFile).perform w₂ = (.ok s.toToml, w₂) :=
    Action.perform_readText hfile .ownFile
  unfold load
  rw [Action.perform_bind_of_ok hexists, if_pos rfl, Action.perform_bind_of_ok hread,
    ofToml?_toToml]
  rfl

end Settings

/-- A policy is read as it was written, or refused for the empty name of its interface, and settings
are read and loaded as they were written and saved. -/
theorem configuration_round_trips :
    (∀ p : Policy, Policy.ofToml p.toToml =
      if p.interfaceName = "" then .error .namelessInterface else .ok p) ∧
    (∀ s : Settings, Settings.ofToml? s.toToml = some s) ∧
    ∀ (s : Settings) (p : Path) (w w₁ w₂ : World), (s.save p).perform w = (.ok (), w₁) →
      w₂.files.read p = w₁.files.read p → (Settings.load p).perform w₂ = (.ok s, w₂) :=
  ⟨Policy.ofToml_toToml, Settings.ofToml?_toToml, fun _ _ _ _ _ => Settings.load_of_save⟩

/-- Paths with quotes of both kinds, a backslash, line ends and a control character. -/
def quotedSettings : Settings where
  policyPath := some ⟨"'''\"\"\"\"\\\r\n\x1f"⟩
  statePath := some ⟨"C:\\state\n''.json"⟩

/-- The settings are saved in an empty directory. -/
theorem quotedSettings_round_trip :
    ∃ w', (quotedSettings.save ⟨"config.toml"⟩).perform { files := {} } = (.ok (), w') ∧
      (Settings.load ⟨"config.toml"⟩).perform w' = (.ok quotedSettings, w') := by
  obtain ⟨w', saved⟩ :
      ∃ w', (quotedSettings.save ⟨"config.toml"⟩).perform { files := {} } = (.ok (), w') := ⟨_, rfl⟩
  obtain ⟨-, -, hsettings⟩ := configuration_round_trips
  exact ⟨w', saved, hsettings quotedSettings ⟨"config.toml"⟩ _ w' w' saved rfl⟩

end WifiTrust
