import WifiTrust.Proofs.Action
import WifiTrust.Proofs.Files.Places

/-!
# Scripts on a system that may refuse

A system may refuse to read a file, to make directories or to write a file, for reasons of its own;
directories may then have been made in part, but a file is written as a whole or not at all. Carrying
out a script as the files allow is one such run. Main statement: an action that spares the files, then
writes one and then cannot fail has changed no file if it fails, and that one if it goes through.
-/

namespace WifiTrust

namespace Script

variable {α β : Type}

/-- A script takes the files to others and ends in a value. Whether a path exists is told truly, and
the user may choose anything. -/
inductive Runs : Script α → FileTree → α → FileTree → Prop where
  | done (a : α) (t : FileTree) : Runs (.done a) t a t
  | pathExists {p : Path} {next : Bool → Script α} {t t' : FileTree} {a : α}
      (rest : Runs (next (t.pathExists p)) t a t') : Runs (.pathExists p next) t a t'
  | read {p : Path} {next : Except FileError Bytes → Script α} {t t' : FileTree} {a : α}
      (rest : Runs (next (t.read p)) t a t') : Runs (.read p next) t a t'
  | readRefused {p : Path} {next : Except FileError Bytes → Script α} {t t' : FileTree} {a : α}
      (e : FileError) (rest : Runs (next (.error e)) t a t') : Runs (.read p next) t a t'
  | make {p : Path} {next : Except FileError Unit → Script α} {t t₁ t' : FileTree} {a : α}
      (made : t.makeDirectories p = .ok t₁) (rest : Runs (next (.ok ())) t₁ a t') :
      Runs (.makeDirectories p next) t a t'
  | makeRefused {p : Path} {next : Except FileError Unit → Script α} {t t₁ t' : FileTree} {a : α}
      (e : FileError) (part : t.Widens t₁) (rest : Runs (next (.error e)) t₁ a t') :
      Runs (.makeDirectories p next) t a t'
  | write {p : Path} {content : Bytes} {next : Except FileError Unit → Script α}
      {t t₁ t' : FileTree} {a : α} (written : t.write p content = .ok t₁)
      (rest : Runs (next (.ok ())) t₁ a t') : Runs (.write p content next) t a t'
  | writeRefused {p : Path} {content : Bytes} {next : Except FileError Unit → Script α}
      {t t' : FileTree} {a : α} (e : FileError) (rest : Runs (next (.error e)) t a t') :
      Runs (.write p content next) t a t'
  | print {text : String} {next : Unit → Script α} {t t' : FileTree} {a : α}
      (rest : Runs (next ()) t a t') : Runs (.print text next) t a t'
  | choose {labels : List String} {next : Choice → Script α} {t t' : FileTree} {a : α}
      (choice : Choice) (rest : Runs (next choice) t a t') : Runs (.choose labels next) t a t'

theorem runs_run (s : Script α) (w : World) : Runs s w.files (s.run w).1 (s.run w).2.files := by
  induction s generalizing w with
  | done a => exact .done a w.files
  | pathExists p next ih => exact .pathExists (ih _ w)
  | read p next ih => exact .read (ih _ w)
  | makeDirectories p next ih =>
      rw [run]
      cases hmade : w.files.makeDirectories p with
      | ok files => exact .make hmade (ih (.ok ()) { w with files := files })
      | error e => exact .makeRefused e (.refl _) (ih (.error e) w)
  | write p content next ih =>
      rw [run]
      cases hwritten : w.files.write p content with
      | ok files => exact .write hwritten (ih (.ok ()) { w with files := files })
      | error e => exact .writeRefused e (ih (.error e) w)
  | print text next ih => exact .print (ih () { w with output := w.output ++ [text] })
  | choose labels next ih => exact .choose _ (ih _ { w with choices := w.choices.tail })

theorem runs_of_run {s : Script α} {w : World} {a : α} (h : (s.run w).1 = a) :
    Runs s w.files a (s.run w).2.files := by
  subst h
  exact runs_run s w

theorem runs_andThen {s : Script α} {f : α → Script β} {t t' : FileTree} {b : β}
    (ran : Runs (s.andThen f) t b t') : ∃ a t₁, Runs s t a t₁ ∧ Runs (f a) t₁ b t' := by
  induction s generalizing t with
  | done a => exact ⟨a, t, .done a t, ran⟩
  | pathExists p next ih =>
      cases ran with
      | pathExists rest =>
          obtain ⟨a, t₁, hfirst, hthen⟩ := ih _ rest
          exact ⟨a, t₁, .pathExists hfirst, hthen⟩
  | read p next ih =>
      cases ran with
      | read rest =>
          obtain ⟨a, t₁, hfirst, hthen⟩ := ih _ rest
          exact ⟨a, t₁, .read hfirst, hthen⟩
      | readRefused e rest =>
          obtain ⟨a, t₁, hfirst, hthen⟩ := ih _ rest
          exact ⟨a, t₁, .readRefused e hfirst, hthen⟩
  | makeDirectories p next ih =>
      cases ran with
      | make made rest =>
          obtain ⟨a, t₁, hfirst, hthen⟩ := ih _ rest
          exact ⟨a, t₁, .make made hfirst, hthen⟩
      | makeRefused e part rest =>
          obtain ⟨a, t₁, hfirst, hthen⟩ := ih _ rest
          exact ⟨a, t₁, .makeRefused e part hfirst, hthen⟩
  | write p content next ih =>
      cases ran with
      | write written rest =>
          obtain ⟨a, t₁, hfirst, hthen⟩ := ih _ rest
          exact ⟨a, t₁, .write written hfirst, hthen⟩
      | writeRefused e rest =>
          obtain ⟨a, t₁, hfirst, hthen⟩ := ih _ rest
          exact ⟨a, t₁, .writeRefused e hfirst, hthen⟩
  | print text next ih =>
      cases ran with
      | print rest =>
          obtain ⟨a, t₁, hfirst, hthen⟩ := ih _ rest
          exact ⟨a, t₁, .print hfirst, hthen⟩
  | choose labels next ih =>
      cases ran with
      | choose choice rest =>
          obtain ⟨a, t₁, hfirst, hthen⟩ := ih _ rest
          exact ⟨a, t₁, .choose choice hfirst, hthen⟩

end Script

namespace Action

variable {α β : Type} {t t' : FileTree}

def Comes (a : Action α) (t : FileTree) (r : Except Failure α) (t' : FileTree) : Prop :=
  Script.Runs a.run t r t'

/-- An action has gone through before what follows it, or it has failed and nothing has. -/
theorem comes_bind {a : Action α} {f : α → Action β} {r : Except Failure β}
    (came : (a >>= f).Comes t r t') :
    (∃ x t₁, a.Comes t (.ok x) t₁ ∧ (f x).Comes t₁ r t') ∨
      ∃ e, a.Comes t (.error e) t' ∧ r = .error e := by
  obtain ⟨first, t₁, hfirst, hthen⟩ := Script.runs_andThen came
  cases first with
  | ok x => exact .inl ⟨x, t₁, hfirst, hthen⟩
  | error e =>
      cases hthen
      exact .inr ⟨e, hfirst, rfl⟩

theorem comes_pure {x : α} {r : Except Failure α} (came : (pure x : Action α).Comes t r t') :
    r = .ok x ∧ t' = t := by
  cases came
  exact ⟨rfl, rfl⟩

theorem comes_throw {e : Failure} {r : Except Failure α}
    (came : (throw e : Action α).Comes t r t') : r = .error e ∧ t' = t := by
  cases came
  exact ⟨rfl, rfl⟩

theorem comes_pathExists {p : Path} {r : Except Failure Bool}
    (came : (Action.pathExists p).Comes t r t') : r = .ok (t.pathExists p) ∧ t' = t := by
  cases came with
  | pathExists rest =>
      cases rest
      exact ⟨rfl, rfl⟩

theorem comes_write {p : Path} {text : String} {cause : FileError → Failure}
    {r : Except Failure Unit} (came : (Action.write p text cause).Comes t r t') :
    (∃ e, r = .error e ∧ t' = t) ∨ r = .ok () ∧ t.write p (Utf8.encode text.toList) = .ok t' := by
  cases came with
  | write written rest =>
      cases rest
      exact .inr ⟨rfl, written⟩
  | writeRefused e rest =>
      cases rest
      exact .inl ⟨cause e, rfl, rfl⟩

/-- The action changes no file, though it may make directories. -/
def Spares (a : Action α) : Prop := ∀ t r t', a.Comes t r t' → t.Widens t'

def OnlyPrints (a : Action α) : Prop := ∀ t r t', a.Comes t r t' → (∃ x, r = .ok x) ∧ t' = t

namespace Spares

theorem of_pure (x : α) : Spares (pure x) := fun _ _ _ came => (comes_pure came).2 ▸ .refl _

theorem of_throw (e : Failure) : Spares (throw e : Action α) :=
  fun _ _ _ came => (comes_throw came).2 ▸ .refl _

theorem bind {a : Action α} {f : α → Action β} (ha : a.Spares) (hf : ∀ x, (f x).Spares) :
    Spares (a >>= f) := by
  intro t r t' came
  rcases comes_bind came with ⟨x, t₁, hfirst, hthen⟩ | ⟨e, hfirst, -⟩
  · exact (ha _ _ _ hfirst).trans (hf x _ _ _ hthen)
  · exact ha _ _ _ hfirst

theorem ofExcept (r : Except Failure α) : Spares (MonadExcept.ofExcept r : Action α) := by
  cases r with
  | ok x => exact of_pure x
  | error e => exact of_throw e

theorem choose (labels : List String) : (Action.choose labels).Spares := by
  intro t r t' came
  cases came with
  | choose choice rest =>
      cases choice with
      | entry | left | failed =>
          cases rest
          exact .refl t

theorem makeRoomFor (p : Path) (cause : Path → FileError → Failure) :
    (Action.makeRoomFor p cause).Spares := by
  unfold Action.makeRoomFor
  split
  · exact of_pure ()
  · intro t r t' came
    cases came with
    | make made rest =>
        cases rest
        exact FileTree.widens_of_makeDirectories made
    | makeRefused e part rest =>
        cases rest
        exact part

end Spares

namespace OnlyPrints

theorem of_pure (x : α) : OnlyPrints (pure x) := by
  intro t r t' came
  obtain ⟨hr, ht⟩ := comes_pure came
  exact ⟨⟨x, hr⟩, ht⟩

theorem bind {a : Action α} {f : α → Action β} (ha : a.OnlyPrints) (hf : ∀ x, (f x).OnlyPrints) :
    OnlyPrints (a >>= f) := by
  intro t r t' came
  rcases comes_bind came with ⟨x, t₁, hfirst, hthen⟩ | ⟨e, hfirst, -⟩
  · obtain ⟨-, rfl⟩ := ha _ _ _ hfirst
    exact hf x _ _ _ hthen
  · obtain ⟨⟨x, hx⟩, -⟩ := ha _ _ _ hfirst
    cases hx

theorem printLine (text : String) : (Action.printLine text).OnlyPrints := by
  intro t r t' came
  cases came with
  | print rest =>
      cases rest
      exact ⟨⟨(), rfl⟩, rfl⟩

theorem spares {a : Action α} (ha : a.OnlyPrints) : a.Spares :=
  fun _ _ _ came => (ha _ _ _ came).2 ▸ .refl _

end OnlyPrints

theorem Looks.spares {a : Action α} (ha : a.Looks) : a.Spares := by
  intro t r t' came
  induction ha with
  | done =>
      cases came
      exact .refl t
  | asking _ ih =>
      cases came with
      | pathExists rest => exact ih _ rest
  | reading _ _ ih =>
      cases came with
      | read rest | readRefused e rest => exact ih _ rest

theorem Looks.perform_of_comes {a : Action α} (ha : a.Looks) {x : α}
    (came : a.Comes t (.ok x) t') :
    t' = t ∧ ∀ w : Script.World, w.files = t → a.perform w = (.ok x, w) := by
  induction ha with
  | done =>
      cases came
      exact ⟨rfl, fun _ _ => rfl⟩
  | asking _ ih =>
      cases came with
      | pathExists rest =>
          obtain ⟨rfl, hperform⟩ := ih _ rest
          refine ⟨rfl, ?_⟩
          rintro w rfl
          exact hperform w rfl
  | reading _ refused ih =>
      cases came with
      | read rest =>
          obtain ⟨rfl, hperform⟩ := ih _ rest
          refine ⟨rfl, ?_⟩
          rintro w rfl
          exact hperform w rfl
      | readRefused e rest =>
          obtain ⟨failure, hfails⟩ := refused e
          rw [hfails] at rest
          cases rest

/-- An action that writes one file after everything that can go wrong has changed nothing if it
fails, and has written that file and no other if it goes through. -/
theorem comes_writing {a : Action α} {p : Path} {text : α → String} {cause : FileError → Failure}
    {f : α → Action β} {r : Except Failure β} (before : a.Spares) (after : ∀ x, (f x).OnlyPrints)
    (came : (a >>= fun x => Action.write p (text x) cause >>= fun _ => f x).Comes t r t') :
    (∃ e, r = .error e ∧ t'.files = t.files) ∨
      ∃ x y t₁, r = .ok y ∧ a.Comes t (.ok x) t₁ ∧ t.Widens t₁ ∧
        t₁.write p (Utf8.encode (text x).toList) = .ok t' := by
  rcases comes_bind came with ⟨x, t₁, hbefore, hrest⟩ | ⟨e, hbefore, rfl⟩
  · have hwidens := before _ _ _ hbefore
    rcases comes_bind hrest with ⟨_, t₂, hwrite, hafter⟩ | ⟨e, hwrite, rfl⟩
    · rcases comes_write hwrite with ⟨e, he, -⟩ | ⟨-, hwritten⟩
      · cases he
      · obtain ⟨⟨y, rfl⟩, rfl⟩ := after x _ _ _ hafter
        exact .inr ⟨x, y, t₁, rfl, hbefore, hwidens, hwritten⟩
    · rcases comes_write hwrite with ⟨_, -, rfl⟩ | ⟨h, -⟩
      · exact .inl ⟨e, rfl, hwidens.files⟩
      · cases h
  · exact .inl ⟨e, rfl, (before _ _ _ hbefore).files⟩

end Action

end WifiTrust
