import WifiTrust.Command.Request
import WifiTrust.Text.Decimal

namespace WifiTrust.Command

/-- Why a command line is not carried out. -/
inductive UsageError where
  | helpAsked
  | versionAsked
  /-- There is neither a subcommand nor an option. -/
  | nothingAsked
  | missingSubcommand
  | unknownSubcommand
  /-- An option that does not exist, or a word too many. -/
  | unknownArgument
  | repeated
  /-- A value is missing, empty, or none of the choices. -/
  | invalidValue
  | unreadableValue
  | needlessValue
  | missingOption
  deriving DecidableEq, Repr

/-- The program and its subcommands. -/
inductive Verb where
  | program
  | inspect
  | connect
  | config
  | showPolicy
  | showPaths
  | writePolicy
  deriving DecidableEq, Repr

/-- An option or a positional argument. -/
inductive Slot where
  | output
  | policyPath
  | verbose
  | noColour
  | help
  | version
  | chain
  | reverse
  | ssid
  | networkId
  | eapMethod
  | innerMethod
  | identity
  | password
  | auto
  | background
  | noTofu
  | state
  | force
  deriving DecidableEq, Repr

/-- What values an option takes. -/
inductive Kind where
  | switch
  | text
  | path
  | format
  /-- One of the two answers, or none for the first of them. -/
  | answer
  | eapMethod
  | innerMethod
  | integer
  deriving DecidableEq, Repr

namespace Slot

def long : Slot → String
  | output => "output"
  | policyPath => "handler-config"
  | verbose => "verbose"
  | noColour => "no-color"
  | help => "help"
  | version => "version"
  | chain => "chain"
  | reverse => "reverse"
  | ssid => "ssid"
  | networkId => "network-id"
  | eapMethod => "eap"
  | innerMethod => "phase2"
  | identity => "identity"
  | password => "password"
  | auto => "auto"
  | background => "background"
  | noTofu => "no-tofu"
  | state => "state"
  | force => "force"

def short? : Slot → Option Char
  | output => some 'o'
  | verbose => some 'v'
  | help => some 'h'
  | version => some 'V'
  | _ => none

def kind : Slot → Kind
  | output => .format
  | policyPath | chain | state => .path
  | ssid | identity | password => .text
  | networkId => .integer
  | eapMethod => .eapMethod
  | innerMethod => .innerMethod
  | auto => .answer
  | _ => .switch

/-- The variable of the environment that stands in for the option. -/
def standIn? : Slot → Option String
  | policyPath => some "EAPTRUST_HANDLER_CONFIG"
  | password => some "EAPTRUST_PASSWORD"
  | _ => none

/-- All variables of the environment that stand in for an option. -/
def standIns : List String := [policyPath, password].filterMap standIn?

/-- The options that may stand behind any subcommand. -/
def everywhere : List Slot := [output, policyPath, verbose, noColour, help, version]

end Slot

namespace Verb

def subcommands : Verb → List (String × Verb)
  | program => [("inspect", inspect), ("connect", connect), ("config", config)]
  | config => [("show", showPolicy), ("path", showPaths), ("init", writePolicy)]
  | _ => []

def subcommand? (v : Verb) (name : String) : Option Verb :=
  (v.subcommands.find? (·.1 = name)).map (·.2)

def ownOptions : Verb → List Slot
  | inspect => [.reverse]
  | connect => [.ssid, .networkId, .eapMethod, .innerMethod, .identity, .password, .chain, .reverse,
      .auto, .background, .noTofu, .state]
  | writePolicy => [.force]
  | _ => []

def options (v : Verb) : List Slot := v.ownOptions ++ Slot.everywhere

/-- The argument without a name. -/
def positional? : Verb → Option Slot
  | inspect => some .chain
  | _ => none

def required : Verb → List Slot
  | inspect => [.chain]
  | connect => [.ssid, .eapMethod, .chain]
  | _ => []

/-- The word that asks for help on a subcommand, where there are any. -/
def helpWord : String := "help"

/-- The answer to a request for help on what the names lead to. -/
def helpOn : Verb → List String → UsageError
  | _, [] => .helpAsked
  | v, name :: names =>
      match v.subcommand? name with
      | some w => helpOn w names
      | none =>
          if name = helpWord ∧ v.subcommands ≠ [] ∧ names = [] then .helpAsked
          else .unknownSubcommand

end Verb

def integer? (text : String) : Option Int :=
  let digits? (cs : List Char) : Option Nat :=
    if cs ≠ [] ∧ cs.all Decimal.isDigit then some (Decimal.value cs) else none
  match text.toList with
  | '+' :: cs => (digits? cs).map fun n => (n : Int)
  | '-' :: cs => (digits? cs).map fun n => -(n : Int)
  | cs => (digits? cs).map fun n => (n : Int)

def networkId? (text : String) : Option NetworkId := do
  let i ← integer? text
  guard (-2147483648 ≤ i ∧ i ≤ 2147483647)
  return Int32.ofInt i

/-- The output format that a text names, in small letters only. -/
def format? (text : String) : Option OutputFormat := OutputFormat.all.find? (·.name = text)

def answer? (text : String) : Option StandingAnswer :=
  if text = "accept" then some .accept
  else if text = "reject" then some .reject
  else none

/-- Whether a value can be taken. -/
def Kind.check (k : Kind) (value : String) : Except UsageError Unit :=
  let choice (found : Bool) : Except UsageError Unit :=
    if found then .ok () else .error .invalidValue
  let readable (found : Bool) : Except UsageError Unit :=
    if found then .ok () else .error .unreadableValue
  match k with
  | .switch | .text => .ok ()
  | .path => choice (value ≠ "")
  | .format => choice (format? value).isSome
  | .answer => choice (answer? value).isSome
  | .eapMethod => readable (EapMethod.ofText? value).isSome
  | .innerMethod => readable (InnerMethod.ofText? value).isSome
  | .integer => readable (networkId? value).isSome

end WifiTrust.Command
