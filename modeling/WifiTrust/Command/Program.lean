import WifiTrust.Command.Arguments
import WifiTrust.Command.Configure
import WifiTrust.Command.Connect
import WifiTrust.Command.Inspect

namespace WifiTrust

/-- What the program finds around it. -/
structure Environment where
  valueOf : Command.Variables
  /-- The home directory that the system keeps for the user. -/
  accountHome : Option Path := none
  terminal : Bool := false
  clock : Timestamp

namespace Environment

/-- The home directory, from the variable for it unless that is empty. -/
def home? (e : Environment) : Option Path :=
  (((e.valueOf "HOME").filter (· ≠ "")).map Path.mk) <|> e.accountHome

/-- The directories of the program. -/
def places? (e : Environment) : Option Places :=
  e.home?.map fun home =>
    .ofHome home (e.valueOf "XDG_CONFIG_HOME") (e.valueOf "XDG_DATA_HOME")

/-- Whether reports are coloured: always if that is forced, and otherwise on a terminal unless
that is unwanted. -/
def colours (e : Environment) : Bool :=
  if (e.valueOf "CLICOLOR_FORCE").any (· ≠ "0") then true
  else if (e.valueOf "NO_COLOR").isSome then false
  else e.terminal && (e.valueOf "CLICOLOR").all (· ≠ "0")

end Environment

namespace Context

/-- The context of an invocation: what it says goes before the settings. -/
def of (e : Environment) (places : Places) (settings : Settings) (i : Invocation) : Context where
  format := (i.output <|> settings.outputFormat).getD .pretty
  settingsPath := places.settingsPath
  policyPath := i.policyPath.getD (settings.policyPathIn places)
  statePath := settings.statePathIn places
  verbose := i.verbose
  colours := e.colours && !i.noColour
  clock := e.clock

/-- Carry out a request. -/
def carryOut (c : Context) : Request → Action Unit
  | .inspect chain reverse => c.inspect chain reverse
  | .connect attempt => c.connect attempt
  | .showPolicy => c.showPolicy
  | .showPaths => c.showPaths
  | .writePolicy force => c.writePolicy force

end Context

namespace Program

/-- Carry out an invocation. -/
def carryOut (e : Environment) (i : Invocation) : Action Unit := do
  let some places := e.places? | throw .noHome
  let settings ← Settings.load places.settingsPath
  (Context.of e places settings i).carryOut i.request

inductive Ending where
  | done
  | failed (f : Failure)
  /-- The command line asks for nothing that can be carried out. -/
  | misused (u : Command.UsageError)
  deriving DecidableEq, Repr

/-- The exit status: help and the version are no errors. -/
def Ending.status : Ending → UInt32
  | done => 0
  | failed _ => 1
  | misused .helpAsked => 0
  | misused .versionAsked => 0
  | misused _ => 2

/-- Run the program on the words of a command line. -/
def run (e : Environment) (words : List String) : Script Ending :=
  match Command.parse e.valueOf words with
  | .error u => pure (.misused u)
  | .ok i => do
      match ← (carryOut e i).run with
      | .ok () => return .done
      | .error f => return .failed f

end Program

end WifiTrust
