import WifiTrust.Policy
import WifiTrust.Settings
import WifiTrust.Toml.Reader
import WifiTrust.Toml.Writer

/-!
# TOML forms of the policy and the settings

Each is a document with one key for each field. Reading ignores other keys, and a field that is
left out has its default; writing leaves out what is not set.
-/

namespace WifiTrust

namespace Toml

def textField (es : Entries) (key : String) (default : String) : Option String :=
  match es.get? key.toList with
  | none => some default
  | some (.string text) => some (String.ofList text)
  | some _ => none

def flagField (es : Entries) (key : String) (default : Bool) : Option Bool :=
  match es.get? key.toList with
  | none => some default
  | some (.boolean b) => some b
  | some _ => none

def pathField (es : Entries) (key : String) : Option (Option Path) :=
  match es.get? key.toList with
  | none => some none
  | some (.string text) => some (some ⟨String.ofList text⟩)
  | some _ => none

def isVoid : Toml → Bool
  | .table _ [] | .array [] | .tables [] => true
  | _ => false

/-- The output format that a value names: a word, or a table with the word as its one key and
nothing behind it. -/
def outputFormat? : Toml → Option OutputFormat
  | .string text => OutputFormat.all.find? fun f => f.name.toList = text
  | .table _ [(key, v)] =>
      if v.isVoid then OutputFormat.all.find? fun f => f.name.toList = key else none
  | _ => none

def outputField (es : Entries) (key : String) : Option (Option OutputFormat) :=
  match es.get? key.toList with
  | none => some none
  | some v => (outputFormat? v).map some

end Toml

inductive PolicyError where
  /-- It is no TOML, or a value has the wrong type. -/
  | malformed
  | namelessInterface
  deriving DecidableEq, Repr

def PolicyError.message : PolicyError → String
  | malformed => "malformed policy"
  | namelessInterface => "interface_name must not be empty"

namespace Policy

def ofEntries? (es : Toml.Entries) : Option Policy := do
  let standard : Policy := {}
  return {
    interfaceName := ← Toml.textField es "interface_name" standard.interfaceName
    trustOnFirstUseSupported :=
      ← Toml.flagField es "trust_on_first_use_supported" standard.trustOnFirstUseSupported
    insecureEnterpriseAllowed :=
      ← Toml.flagField es "insecure_enterprise_allowed" standard.insecureEnterpriseAllowed
    caCertHelpLink := ← Toml.textField es "ca_cert_help_link" standard.caCertHelpLink }

/-- Read a policy. The interface needs a name. -/
def ofToml (text : String) : Except PolicyError Policy :=
  match (Toml.parse text).bind ofEntries? with
  | none => .error .malformed
  | some p => if p.interfaceName = "" then .error .namelessInterface else .ok p

def toToml (p : Policy) : String :=
  Toml.document [
    ("interface_name", .string p.interfaceName),
    ("trust_on_first_use_supported", .boolean p.trustOnFirstUseSupported),
    ("insecure_enterprise_allowed", .boolean p.insecureEnterpriseAllowed),
    ("ca_cert_help_link", .string p.caCertHelpLink)]

end Policy

namespace Settings

def ofEntries? (es : Toml.Entries) : Option Settings := do
  return {
    outputFormat := ← Toml.outputField es "output_format"
    policyPath := ← Toml.pathField es "handler_config"
    statePath := ← Toml.pathField es "state_file" }

def ofToml? (text : String) : Option Settings := (Toml.parse text).bind ofEntries?

private def optional (key : String) (text : Option String) : List (String × Toml.Plain) :=
  text.toList.map fun text => (key, .string text)

def toToml (s : Settings) : String :=
  Toml.document (
    optional "output_format" (s.outputFormat.map OutputFormat.name) ++
    optional "handler_config" (s.policyPath.map Path.text) ++
    optional "state_file" (s.statePath.map Path.text))

end Settings

end WifiTrust
