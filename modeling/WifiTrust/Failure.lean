import WifiTrust.Certificate.Bundle
import WifiTrust.Name.Basic
import WifiTrust.Script
import WifiTrust.Toml.Form

namespace WifiTrust

/-- Why a command fails. -/
inductive Failure where
  | bundle (source : Path) (e : Bundle.Error)
  | name (e : NameError)
  | file (p : Path) (e : FileError)
  | policy (e : PolicyError)
  | state
  | settings
  /-- A file of the program's own cannot be read or written. -/
  | ownFile (e : FileError)
  | occupied (p : Path)
  /-- The user cannot choose from a menu. -/
  | noChoice (reason : String)
  | noHome
  /-- A chain has more certificates than there are depths. -/
  | tooManyCertificates
  deriving DecidableEq, Repr

namespace Failure

def message : Failure → String
  | bundle _ .badCertificate => "certificate parse failed: not a certificate"
  | bundle source e => "PEM decode failed for " ++ source.text ++ ": " ++ e.message
  | name e => "invalid distinguished name: " ++ e.message
  | file p e => "I/O error on " ++ p.text ++ ": " ++ e.message
  | policy e => "configuration error: " ++ e.message
  | state => "JSON error: malformed network state"
  | settings => "malformed settings"
  | ownFile e => e.message
  | occupied p => p.text ++ " already exists\n\nUse --force to overwrite it."
  | noChoice reason => reason
  | noHome => "Could not determine config directory"
  | tooManyCertificates => "too many certificates"

end Failure

/-- A script that may fail. -/
abbrev Action := ExceptT Failure Script

namespace Action

def pathExists (p : Path) : Action Bool := ExceptT.lift (.pathExists p .done)

private def checked {α : Type} (cause : FileError → Failure)
    (action : (Except FileError α → Script (Except Failure α)) → Script (Except Failure α)) :
    Action α :=
  ExceptT.mk (action fun result => .done (result.mapError cause))

def read (p : Path) (cause : FileError → Failure) : Action Bytes := checked cause (.read p)

def readText (p : Path) (cause : FileError → Failure) : Action String :=
  checked cause fun next => .read p fun result => next (result.bind FileError.textOf)

/-- Make the directory of a file and those on the way to it. -/
def makeRoomFor (p : Path) (cause : Path → FileError → Failure) : Action Unit :=
  match p.parent? with
  | none => pure ()
  | some parent => checked (cause parent) (.makeDirectories parent)

def write (p : Path) (text : String) (cause : FileError → Failure) : Action Unit :=
  checked cause (.write p (Utf8.encode text.toList))

def printLine (text : String) : Action Unit :=
  ExceptT.lift (.print (text ++ "\n") .done)

/-- Let the user choose from a menu, or leave it. -/
def choose (labels : List String) : Action (Option Nat) :=
  ExceptT.mk (.choose labels fun
    | .entry index => .done (.ok (some index))
    | .left => .done (.ok none)
    | .failed reason => .done (.error (.noChoice reason)))

end Action

end WifiTrust
