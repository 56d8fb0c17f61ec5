import WifiTrust.Bytes.Utf8
import WifiTrust.Files.Path

/-!
# File trees

Directories and files as a program finds them, and the four things a program does with them: ask
whether a path exists, read a file, make directories and write a file. A path is followed step by
step, so that a missing directory and a file in the place of a directory are told apart. Names have
255 bytes at most.
-/

namespace WifiTrust

/-- Why a file operation fails. -/
inductive FileError where
  | notFound
  | alreadyThere
  | notDirectory
  | isDirectory
  | nameTooLong
  | nullInName
  | notText
  | other (reason : String)
  deriving DecidableEq, Inhabited, Repr

def FileError.message : FileError → String
  | notFound => "No such file or directory (os error 2)"
  | alreadyThere => "File exists (os error 17)"
  | notDirectory => "Not a directory (os error 20)"
  | isDirectory => "Is a directory (os error 21)"
  | nameTooLong => "File name too long (os error 36)"
  | nullInName => "file name contained an unexpected NUL byte"
  | notText => "stream did not contain valid UTF-8"
  | other reason => reason

/-- What is wrong with a path wherever it leads. -/
def Path.fault? (p : Path) : Option FileError :=
  if p.holdsNull then some .nullInName
  else if p.isTooLong then some .nameTooLong
  else none

def FileError.textOf (bs : Bytes) : Except FileError String :=
  match Utf8.decode? bs with
  | some cs => .ok (String.ofList cs)
  | none => .error notText

/-- Files and directories by place; a place is the list of names on the way from the root. -/
structure FileTree where
  /-- The place that relative paths start from. It and all above it are directories. -/
  here : List String := []
  files : List (List String × Bytes) := []
  directories : List (List String) := []
  deriving DecidableEq, Inhabited, Repr

namespace FileTree

/-- What is at a place. -/
inductive Node where
  | file (content : Bytes)
  | directory
  deriving DecidableEq, Repr

def content? (t : FileTree) (place : List String) : Option Bytes :=
  (t.files.find? (·.1 = place)).map (·.2)

def isDirectory (t : FileTree) (place : List String) : Bool :=
  place.isPrefixOf t.here || t.directories.contains place

def node? (t : FileTree) (place : List String) : Option Node :=
  if t.isDirectory place then some .directory else (t.content? place).map .file

/-- Where one step leads. -/
def move (place : List String) (step : String) : List String :=
  if step = "." then place
  else if step = ".." then place.dropLast
  else place ++ [step]

/-- Where steps lead from a place. Only a directory can be left, and only by a name that is short
enough; the last step may lead to a vacant place. -/
def follow (t : FileTree) : List String → List String → Except FileError (List String)
  | place, [] => .ok place
  | place, step :: steps =>
      match t.node? place with
      | some .directory =>
          if 255 < step.utf8ByteSize then .error .nameTooLong else t.follow (move place step) steps
      | some (.file _) => .error .notDirectory
      | none => .error .notFound

def start (t : FileTree) (p : Path) : List String := if p.isAbsolute then [] else t.here

/-- Where a path leads if it is taken by the given steps. The empty path leads nowhere. -/
def along (t : FileTree) (p : Path) (steps : List String) : Except FileError (List String) :=
  match p.fault? with
  | some e => .error e
  | none => if p.text = "" then .error .notFound else t.follow (t.start p) steps

/-- Where a path leads. -/
def locate (t : FileTree) (p : Path) : Except FileError (List String) := t.along p p.steps

def pathExists (t : FileTree) (p : Path) : Bool :=
  match t.locate p with
  | .ok place => (t.node? place).isSome
  | .error _ => false

def read (t : FileTree) (p : Path) : Except FileError Bytes :=
  match t.locate p with
  | .error e => .error e
  | .ok place =>
      match t.node? place with
      | some (.file content) => .ok content
      | some .directory => .error .isDirectory
      | none => .error .notFound

/-- Put a file at a place; it replaces the one that is there. -/
def put (t : FileTree) (place : List String) (content : Bytes) : FileTree :=
  { t with files := (place, content) :: t.files.filter (·.1 ≠ place) }

/-- Where a file is to be written. A slash at the end asks for a directory, which cannot be
written; its own name is not looked at. -/
def target (t : FileTree) (p : Path) : Except FileError (List String) := do
  if p.endsWithSlash then
    let _ ← t.along p (p.stem.steps.dropLast ++ ["."])
    throw .isDirectory
  let place ← t.locate p
  if t.isDirectory place then throw .isDirectory
  return place

/-- Write a file, a new one or in the place of an old one. -/
def write (t : FileTree) (p : Path) (content : Bytes) : Except FileError FileTree :=
  match t.target p with
  | .ok place => .ok (t.put place content)
  | .error e => .error e

/-- Make the directories along steps from a place, which is a directory. `made` tells whether one on
the way to it had to be made: then each further step is asked for as a directory of its own, and
otherwise the last one is, the others being no more than passed. -/
def ensureAll (t : FileTree) (made : Bool) (place : List String) :
    List String → Except FileError FileTree
  | [] => .ok t
  | step :: steps =>
      if 255 < step.utf8ByteSize then .error .nameTooLong
      else
        let next := move place step
        match t.node? next with
        | some .directory => t.ensureAll made next steps
        | some (.file _) => .error (if made || steps.isEmpty then .alreadyThere else .notDirectory)
        | none => { t with directories := next :: t.directories }.ensureAll true next steps

/-- Make the directory that a path names and those on the way to it. -/
def makeDirectories (t : FileTree) (p : Path) : Except FileError FileTree :=
  match p.fault? with
  | some e => .error e
  | none => t.ensureAll false (t.start p) p.moves

end FileTree

end WifiTrust
