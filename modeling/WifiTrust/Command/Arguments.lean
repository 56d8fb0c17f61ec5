import WifiTrust.Command.Grammar

/-!
# Reading command lines

The words of a command line are taken one after the other. Each subcommand opens a level of its own
inside the one before, and at the end the levels are closed from the innermost outwards. An option
that waits for its value is settled when the next one comes or its level is closed.
-/

namespace WifiTrust.Command

/-- A subcommand with what has been given to it so far. -/
structure Level where
  verb : Verb
  found : List (Slot × String) := []
  /-- The latest option or positional argument, not yet settled. -/
  pending : Option (Slot × Option String) := none
  /-- Whether the pending option takes the next word. -/
  awaiting : Bool := false
  deriving DecidableEq, Repr

namespace Level

/-- Settle an option with its value. -/
def settle (l : Level) (s : Slot) (value : Option String) : Except UsageError Level := do
  if s = .help then throw .helpAsked
  if s = .version then throw .versionAsked
  let value ← match s.kind, value with
    | _, some value => pure value
    | .switch, none => pure "true"
    | .answer, none => pure "accept"
    | _, none => throw .invalidValue
  if l.found.any (·.1 = s) then throw .repeated
  s.kind.check value
  return { l with found := l.found ++ [(s, value)] }

/-- Settle what is pending. -/
def resolve (l : Level) : Except UsageError Level :=
  match l.pending with
  | none => .ok { l with awaiting := false }
  | some (s, value) => ({ l with pending := none, awaiting := false } : Level).settle s value

def give (l : Level) (s : Slot) (value : Option String) : Except UsageError Level := do
  (← l.resolve).settle s value

def await (l : Level) (s : Slot) : Except UsageError Level := do
  return { (← l.resolve) with pending := some (s, none), awaiting := true }

def longOption (l : Level) (cs : List Char) : Except UsageError Level :=
  let name := String.ofList (cs.takeWhile (· ≠ '='))
  let attached := match cs.dropWhile (· ≠ '=') with
    | [] => none
    | _ :: value => some (String.ofList value)
  match l.verb.options.find? (·.long = name) with
  | none => .error .unknownArgument
  | some s =>
      match s.kind, attached with
      | .switch, some _ => .error .needlessValue
      | .switch, none => l.give s none
      | _, some value => l.give s (some value)
      | _, none => l.await s

/-- Take letters behind one dash. The letters after an option that takes a value are its value; an
equals sign may come between. -/
def shortOptions (l : Level) : List Char → Except UsageError Level
  | [] => .ok l
  | c :: cs =>
      match l.verb.options.find? (·.short? = some c) with
      | none => .error .unknownArgument
      | some s =>
          if s.kind = .switch then
            match l.give s none with
            | .ok l => l.shortOptions cs
            | .error e => .error e
          else
            match cs with
            | [] => l.await s
            | '=' :: value => l.give s (some (String.ofList value))
            | value => l.give s (some (String.ofList value))

/-- Take a word that is no option and no value. Names of subcommands do not count behind two
dashes. -/
def positional (l : Level) (trailing : Bool) (word : String) : Except UsageError Level :=
  let taken (s : Slot) : Bool := l.found.any (·.1 = s) || l.pending.any (·.1 = s)
  match l.verb.positional? with
  | some s =>
      if taken s then .error .unknownArgument
      else do return { (← l.resolve) with pending := some (s, some word) }
  | none =>
      if l.verb.subcommands = [] then .error .unknownArgument
      else if trailing && (l.verb.subcommand? word).isSome then .error .unknownArgument
      else if trailing && word = Verb.helpWord then .error .unknownArgument
      else .error .unknownSubcommand

def take (l : Level) (word : String) : Except UsageError Level :=
  match word.toList with
  | '-' :: '-' :: cs => l.longOption cs
  | '-' :: c :: cs => l.shortOptions (c :: cs)
  | _ =>
      match l.awaiting, l.pending with
      | true, some (s, _) => .ok { l with pending := some (s, some word), awaiting := false }
      | _, _ => l.positional false word

def value? (l : Level) (s : Slot) : Option String := (l.found.find? (·.1 = s)).map (·.2)

def has (l : Level) (s : Slot) : Bool := l.found.any (·.1 = s)

end Level

/-- Take words from the innermost level on. Behind two dashes every word is positional. The levels
come back innermost first. -/
def scan (outer : List Level) (l : Level) : Bool → List String → Except UsageError (List Level)
  | _, [] => .ok (l :: outer)
  | true, word :: words =>
      match l.positional true word with
      | .ok l => scan outer l true words
      | .error e => .error e
  | false, word :: words =>
      let named := if l.awaiting then none else l.verb.subcommand? word
      match named with
      | some verb => scan (l :: outer) { verb := verb } false words
      | none =>
          if !l.awaiting && l.verb.subcommands ≠ [] && word = Verb.helpWord then
            .error (l.verb.helpOn words)
          else if word = "--" then scan outer l true words
          else
            match l.take word with
            | .ok l => scan outer l false words
            | .error e => .error e

abbrev Variables := String → Option String

/-- A level with the variables that stand in for its options. -/
def Level.ambient (l : Level) (env : Variables) : Except UsageError (List (Slot × String)) :=
  let absent := l.verb.options.filter fun s => !l.has s
  let pairs := absent.filterMap fun s => do return (s, ← env (← s.standIn?))
  pairs.foldlM (fun all (s, value) => do
    s.kind.check value
    return all ++ [(s, value)]) []

structure Closed where
  verb : Verb
  given : Level
  ambient : List (Slot × String)

/-- Close a level; the innermost must be complete, and every other has its subcommand. -/
def Level.close (l : Level) (env : Variables) (innermost : Bool) : Except UsageError Closed := do
  let l ← l.resolve
  let ambient ← l.ambient env
  if innermost && l.verb.subcommands ≠ [] then
    if l.found = [] ∧ ambient = [] then throw .nothingAsked
    throw .missingSubcommand
  if l.verb.required.any fun s => !l.has s then throw .missingOption
  return ⟨l.verb, l, ambient⟩

def closeAll (env : Variables) : Bool → List Level → Except UsageError (List Closed)
  | _, [] => .ok []
  | innermost, l :: outer => do
      let c ← l.close env innermost
      return c :: (← closeAll env false outer)

/-- The value of an option that may stand anywhere: the innermost one that was given, or else the
one from the environment. -/
def shared? (levels : List Closed) (s : Slot) : Option String :=
  levels.findSome? (fun c => c.given.value? s) <|>
    levels.findSome? fun c => (c.ambient.find? (·.1 = s)).map (·.2)

/-- The attempt that a closed level describes. -/
def Closed.attempt? (c : Closed) : Option Attempt := do
  let value? (s : Slot) : Option String :=
    c.given.value? s <|> (c.ambient.find? (·.1 = s)).map (·.2)
  let id ← match value? .networkId with
    | none => some 1
    | some text => networkId? text
  let inner ← match value? .innerMethod with
    | none => some InnerMethod.none
    | some text => InnerMethod.ofText? text
  return {
    ssid := ← value? .ssid
    networkId := id
    eapMethod := ← (value? .eapMethod).bind EapMethod.ofText?
    innerMethod := inner
    identity := (value? .identity).getD ""
    password := (value? .password).getD ""
    chain := ⟨← value? .chain⟩
    reverse := c.given.has .reverse
    auto := (value? .auto).bind answer?
    background := c.given.has .background
    noTofu := c.given.has .noTofu
    state := (value? .state).map Path.mk }

/-- The request that a closed level describes. -/
def Closed.request? (c : Closed) : Option Request :=
  match c.verb with
  | .program | .config => none
  | .inspect => do return .inspect ⟨← c.given.value? .chain⟩ (c.given.has .reverse)
  | .connect => c.attempt?.map .connect
  | .showPolicy => some .showPolicy
  | .showPaths => some .showPaths
  | .writePolicy => some (.writePolicy (c.given.has .force))

/-- Read a command line. -/
def parse (env : Variables) (words : List String) : Except UsageError Invocation := do
  let levels ← closeAll env true (← scan [] { verb := .program } false words)
  let some request := levels.head?.bind Closed.request? | throw .missingOption
  return {
    output := (shared? levels .output).bind format?
    policyPath := (shared? levels .policyPath).map Path.mk
    verbose := levels.any fun c => c.given.has .verbose
    noColour := levels.any fun c => c.given.has .noColour
    request := request }

end WifiTrust.Command
