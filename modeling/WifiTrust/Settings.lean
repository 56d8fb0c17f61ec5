import WifiTrust.Files.Path
import WifiTrust.Output

namespace WifiTrust

/-- The user's settings; what is not set is left to the defaults. -/
structure Settings where
  outputFormat : Option OutputFormat := none
  policyPath : Option Path := none
  statePath : Option Path := none
  deriving DecidableEq, Inhabited, Repr

/-- The directories of the program for one user. -/
structure Places where
  config : Path
  data : Path
  deriving DecidableEq, Inhabited, Repr

namespace Places

private def below (base : Path) (names : List String) : Path :=
  names.foldl (fun p name => p.join ⟨name⟩) base

private def absolute? (text : Option String) : Option Path :=
  (text.map Path.mk).filter Path.isAbsolute

/-- The directories below a home directory. A configuration or data directory that is set by an
absolute path takes its place. -/
def ofHome (home : Path) (configHome dataHome : Option String) : Places where
  config := below ((absolute? configHome).getD (below home [".config"])) ["eaptrust"]
  data := below ((absolute? dataHome).getD (below home [".local", "share"])) ["eaptrust"]

def settingsPath (p : Places) : Path := p.config.join ⟨"config.toml"⟩

end Places

namespace Settings

/-- Where the device policy lies: as set, or next to the settings. -/
def policyPathIn (s : Settings) (p : Places) : Path :=
  s.policyPath.getD (p.config.join ⟨"handler.toml"⟩)

def statePathIn (s : Settings) (p : Places) : Path :=
  s.statePath.getD (p.data.join ⟨"networks.json"⟩)

end Settings

end WifiTrust
