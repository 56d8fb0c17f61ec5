import WifiTrust.Command.Grammar

namespace WifiTrust.Command

namespace UsageError

def message : UsageError → String
  | helpAsked => "help was asked for"
  | versionAsked => "the version was asked for"
  | nothingAsked => "a subcommand is needed"
  | missingSubcommand => "a subcommand is needed"
  | unknownSubcommand => "there is no such subcommand"
  | unknownArgument => "unexpected argument"
  | repeated => "an option is given twice"
  | invalidValue => "a value is missing or none of the choices"
  | unreadableValue => "a value cannot be read"
  | needlessValue => "an option that takes no value has one"
  | missingOption => "a required argument is missing"

end UsageError

def version : String := "eaptrust 0.3.0"

private def optionLine (s : Slot) : String :=
  let letter := match s.short? with
    | some c => "-" ++ c.toString ++ ", "
    | none => "    "
  "  " ++ letter ++ "--" ++ s.long

def usage : String :=
  "\n".intercalate (
    ["Trust-on-first-use for enterprise Wi-Fi networks without a CA certificate", "",
      "Usage: eaptrust [OPTIONS] <COMMAND>", "",
      "Commands:",
      "  inspect <CHAIN>      Decode a PEM chain and check it",
      "  connect              Replay a connection attempt to a network without a CA certificate",
      "  config show          Show current configuration",
      "  config path          Show configuration file paths",
      "  config init          Write a default handler config", "",
      "Options:"] ++ Slot.everywhere.map optionLine ++
    ["", "Options of inspect:"] ++ Verb.inspect.ownOptions.map optionLine ++
    ["", "Options of connect:"] ++ Verb.connect.ownOptions.map optionLine ++
    ["", "Options of config init:"] ++ Verb.writePolicy.ownOptions.map optionLine)

end WifiTrust.Command
