import WifiTrust.Files.Tree

/-!
# Scripts

What a command does to the world, as data: each node is one action, and the rest of the script
depends on its answer. Main statement: running a script that is followed by another is running one
after the other.
-/

namespace WifiTrust

/-- What comes of a menu. -/
inductive Choice where
  | entry (index : Nat)
  | left
  | failed (reason : String)
  deriving DecidableEq, Inhabited, Repr

/-- A course of actions on files and the terminal. -/
inductive Script (α : Type) where
  | done (a : α)
  | pathExists (p : Path) (next : Bool → Script α)
  | read (p : Path) (next : Except FileError Bytes → Script α)
  | makeDirectories (p : Path) (next : Except FileError Unit → Script α)
  | write (p : Path) (content : Bytes) (next : Except FileError Unit → Script α)
  | print (text : String) (next : Unit → Script α)
  | choose (labels : List String) (next : Choice → Script α)

namespace Script

variable {α β : Type}

def andThen : Script α → (α → Script β) → Script β
  | done a, f => f a
  | pathExists p next, f => pathExists p fun b => (next b).andThen f
  | read p next, f => read p fun r => (next r).andThen f
  | makeDirectories p next, f => makeDirectories p fun r => (next r).andThen f
  | write p content next, f => write p content fun r => (next r).andThen f
  | print text next, f => print text fun u => (next u).andThen f
  | choose labels next, f => choose labels fun c => (next c).andThen f

instance : Monad Script where
  pure := done
  bind := andThen

/-- What a script works on: the files, what has been printed, in order, and what the user is going
to choose. -/
structure World where
  files : FileTree
  output : List String := []
  choices : List Choice := []
  deriving DecidableEq, Inhabited, Repr

namespace World

def printed (w : World) : String := String.join w.output

/-- Replace the files where an action succeeds. -/
def changed (w : World) : Except FileError FileTree → Except FileError Unit × World
  | .ok files => (.ok (), { w with files := files })
  | .error e => (.error e, w)

end World

/-- Run a script on a world. Where the user chooses nothing more there is no terminal. -/
def run : Script α → World → α × World
  | done a, w => (a, w)
  | pathExists p next, w => (next (w.files.pathExists p)).run w
  | read p next, w => (next (w.files.read p)).run w
  | makeDirectories p next, w =>
      let (result, w) := w.changed (w.files.makeDirectories p)
      (next result).run w
  | write p content next, w =>
      let (result, w) := w.changed (w.files.write p content)
      (next result).run w
  | print text next, w => (next ()).run { w with output := w.output ++ [text] }
  | choose _ next, w =>
      (next (w.choices.headD (.failed "not a terminal"))).run { w with choices := w.choices.tail }

theorem run_andThen (s : Script α) (f : α → Script β) (w : World) :
    (s.andThen f).run w = (f (s.run w).1).run (s.run w).2 := by
  induction s generalizing w with
  | done a => rfl
  | pathExists p next ih => exact ih _ w
  | read p next ih => exact ih _ w
  | makeDirectories p next ih => exact ih _ _
  | write p content next ih => exact ih _ _
  | print text next ih => exact ih _ _
  | choose labels next ih => exact ih _ _

end Script

end WifiTrust
