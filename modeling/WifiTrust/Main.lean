import Std.Time.DateTime.Timestamp
import WifiTrust.Account
import WifiTrust.Command.Program
import WifiTrust.Command.Usage

namespace WifiTrust.Main

def fileError (e : IO.Error) : FileError :=
  match e with
  | .noFileOrDirectory _ _ _ => .notFound
  | .alreadyExists _ _ _ => .alreadyThere
  | .inappropriateType _ code _ => if code = 20 then .notDirectory else .isDirectory
  | .invalidArgument _ code _ => if code = 36 then .nameTooLong else .other (toString e)
  | e => .other (toString e)

/-- An action on what a path leads to, with the reason if it fails. -/
def attempt {α : Type} (p : Path) (action : IO α) : IO (Except FileError α) := do
  if let some e := p.fault? then return .error e
  match ← action.toBaseIO with
  | .ok a => return .ok a
  | .error e => return .error (fileError e)

def readFile (p : Path) : IO (Except FileError Bytes) :=
  attempt p do return (← IO.FS.readBinFile p.text).toList

/-- Whether a path leads to something, which then can be opened or keeps to itself. -/
def pathExists (p : Path) : IO Bool := do
  match ← attempt p (IO.FS.Handle.mk p.text .read) with
  | .ok _ => return true
  | .error .notFound => return false
  | .error .notDirectory => return false
  | .error .nameTooLong => return false
  | .error .nullInName => return false
  | .error _ => return true

/-- Whether a path leads to a directory. Making the directory itself inside it fails because it is
there, and inside anything else for another reason. -/
def reachesDirectory (p : Path) : IO Bool := do
  match ← attempt p (IO.FS.createDir (p.text ++ "/.")) with
  | .error .alreadyThere => return true
  | _ => return false

def ensureDirectory (p : Path) : IO (Except FileError Unit) := do
  match ← attempt p (IO.FS.createDir p.text) with
  | .error .notFound => return .error .notFound
  | .error e => return if ← reachesDirectory p then .ok () else .error e
  | .ok () => return .ok ()

partial def makeDirectories (p : Path) : IO (Except FileError Unit) := do
  if p.text = "" then return .ok ()
  match ← ensureDirectory p, p.parent? with
  | .error .notFound, some parent =>
      match ← makeDirectories parent with
      | .ok () => ensureDirectory p
      | .error e => return .error e
  | result, _ => return result

def writeFile (p : Path) (content : Bytes) : IO (Except FileError Unit) :=
  attempt p (IO.FS.writeBinFile p.text ⟨content.toArray⟩)

/-- Show a numbered menu and read a line. An empty one takes the first entry, and what is no number
of an entry leaves the menu. -/
def choose (labels : List String) : IO Choice := do
  if !(← (← IO.getStderr).isTty) then return .failed "not a terminal"
  let mut number := 0
  for label in labels do
    number := number + 1
    IO.eprintln (toString number ++ ") " ++ label)
  IO.eprint "Choose [1]: "
  match ← (← IO.getStdin).getLine.toBaseIO with
  | .error e => return .failed (toString e)
  | .ok "\n" => return .entry 0
  | .ok line =>
      match line.trimAscii.toNat? with
      | some (index + 1) => return if index < labels.length then .entry index else .left
      | _ => return .left

def perform {α : Type} : Script α → IO α
  | .done a => return a
  | .pathExists p next => do perform (next (← Main.pathExists p))
  | .read p next => do perform (next (← readFile p))
  | .makeDirectories p next => do perform (next (← Main.makeDirectories p))
  | .write p content next => do perform (next (← writeFile p content))
  | .print text next => do
      IO.print text
      perform (next ())
  | .choose labels next => do perform (next (← Main.choose labels))

def lookUp : IO Command.Variables := do
  let names := ["HOME", "XDG_CONFIG_HOME", "XDG_DATA_HOME", "CLICOLOR", "CLICOLOR_FORCE",
    "NO_COLOR"] ++ Command.Slot.standIns
  let mut found : List (String × String) := []
  for name in names do
    if let some value ← IO.getEnv name then found := (name, value) :: found
  return fun name => (found.find? (·.1 = name)).map (·.2)

/-- The home directory that the system keeps for the user of the process. -/
def accountHome : IO (Option Path) := do
  let read (name : String) : IO String := do
    match ← (IO.FS.readFile name).toBaseIO with
    | .ok text => return text
    | .error _ => return ""
  let status := (← read "/proc/self/status").splitOn "\n"
  let some line := status.find? (·.startsWith "Uid:") | return none
  let some number := (line.splitOn "\t")[1]? | return none
  return Account.home? (← read "/etc/passwd") number

def clock : IO Timestamp := do
  return .ofUnix (← Std.Time.Timestamp.now).val.toNanoseconds.val

def announce : Program.Ending → IO Unit
  | .done => return ()
  | .failed f => IO.eprintln ("Error: " ++ f.message)
  | .misused .helpAsked => IO.println Command.usage
  | .misused .versionAsked => IO.println Command.version
  | .misused u => IO.eprintln ("error: " ++ u.message ++ "\n\n" ++ Command.usage)

end WifiTrust.Main

def main (arguments : List String) : IO UInt32 := do
  let environment : WifiTrust.Environment := {
    valueOf := ← WifiTrust.Main.lookUp
    accountHome := ← WifiTrust.Main.accountHome
    terminal := ← (← IO.getStdout).isTty
    clock := ← WifiTrust.Main.clock }
  let ending ← WifiTrust.Main.perform (WifiTrust.Program.run environment arguments)
  WifiTrust.Main.announce ending
  return ending.status
