import WifiTrust.Failure
import WifiTrust.Proofs.Bytes.Utf8

/-!
# Actions one after the other

An action that goes through hands on its answer and the world as it left it; the first failure ends
the rest. What does nothing but look at the files leaves the world as it is.
-/

namespace WifiTrust

namespace Script

variable {α β γ : Type}

theorem andThen_done (s : Script α) : s.andThen done = s := by
  induction s with
  | done a => rfl
  | pathExists p next ih => exact congrArg (pathExists p) (funext ih)
  | read p next ih => exact congrArg (read p) (funext ih)
  | makeDirectories p next ih => exact congrArg (makeDirectories p) (funext ih)
  | write p content next ih => exact congrArg (write p content) (funext ih)
  | print text next ih => exact congrArg (print text) (funext ih)
  | choose labels next ih => exact congrArg (choose labels) (funext ih)

theorem andThen_andThen (s : Script α) (f : α → Script β) (g : β → Script γ) :
    (s.andThen f).andThen g = s.andThen fun a => (f a).andThen g := by
  induction s with
  | done a => rfl
  | pathExists p next ih => exact congrArg (pathExists p) (funext ih)
  | read p next ih => exact congrArg (read p) (funext ih)
  | makeDirectories p next ih => exact congrArg (makeDirectories p) (funext ih)
  | write p content next ih => exact congrArg (write p content) (funext ih)
  | print text next ih => exact congrArg (print text) (funext ih)
  | choose labels next ih => exact congrArg (choose labels) (funext ih)

instance : LawfulMonad Script :=
  LawfulMonad.mk' Script andThen_done (fun _ _ => rfl) andThen_andThen

end Script

namespace Action

open Script (World)

variable {α β : Type}

def perform (a : Action α) (w : World) : Except Failure α × World := Script.run a.run w

theorem perform_bind (a : Action α) (f : α → Action β) (w : World) :
    (a >>= f).perform w = Script.run (ExceptT.bindCont f (a.perform w).1) (a.perform w).2 :=
  Script.run_andThen a.run (ExceptT.bindCont f) w

theorem perform_bind_of_ok {a : Action α} {w w' : World} {x : α} (h : a.perform w = (.ok x, w'))
    (f : α → Action β) : (a >>= f).perform w = (f x).perform w' := by
  rw [perform_bind, h]
  rfl

theorem perform_bind_eq_ok {a : Action α} {f : α → Action β} {w w'' : World} {y : β}
    (h : (a >>= f).perform w = (.ok y, w'')) :
    ∃ x w', a.perform w = (.ok x, w') ∧ (f x).perform w' = (.ok y, w'') := by
  rw [perform_bind] at h
  cases hfirst : a.perform w with
  | mk result w' =>
      rw [hfirst] at h
      cases result with
      | ok x => exact ⟨x, w', rfl, h⟩
      | error e => cases h

theorem perform_pathExists (p : Path) (w : World) :
    (pathExists p).perform w = (.ok (w.files.pathExists p), w) := rfl

theorem perform_readText {p : Path} {w : World} {text : String}
    (h : w.files.read p = .ok (Utf8.encode text.toList)) (cause : FileError → Failure) :
    (readText p cause).perform w = (.ok text, w) := by
  have htext : FileError.textOf (Utf8.encode text.toList) = .ok text := by
    unfold FileError.textOf
    rw [Utf8.decode?_encode]
    exact congrArg Except.ok String.ofList_toList
  change ((((w.files.read p).bind FileError.textOf).mapError cause), w) = _
  rw [h]
  change ((FileError.textOf (Utf8.encode text.toList)).mapError cause, w) = _
  rw [htext]
  rfl

theorem perform_write_eq_ok {p : Path} {w w' : World} {text : String} {cause : FileError → Failure}
    (h : (write p text cause).perform w = (.ok (), w')) :
    w.files.write p (Utf8.encode text.toList) = .ok w'.files := by
  change Script.run (.write p (Utf8.encode text.toList) fun result =>
    .done (result.mapError cause)) w = _ at h
  rw [Script.run] at h
  cases hwrite : w.files.write p (Utf8.encode text.toList) with
  | ok files =>
      rw [hwrite] at h
      cases h
      rfl
  | error e =>
      rw [hwrite] at h
      cases h

theorem output_changed (w : World) (r : Except FileError FileTree) :
    (w.changed r).2.output = w.output := by
  cases r with
  | ok => rfl
  | error => rfl

theorem output_write {p : Path} {text : String} {cause : FileError → Failure} {w w' : World}
    {r : Except Failure Unit} (h : (write p text cause).perform w = (r, w')) :
    w'.output = w.output := by
  cases h
  exact output_changed w (w.files.write p (Utf8.encode text.toList))

theorem output_makeRoomFor {p : Path} {cause : Path → FileError → Failure} {w w' : World}
    {r : Except Failure Unit} (h : (makeRoomFor p cause).perform w = (r, w')) :
    w'.output = w.output := by
  unfold makeRoomFor at h
  split at h
  · cases h
    rfl
  · next parent _ =>
      cases h
      exact output_changed w (w.files.makeDirectories parent)

/-- The action leaves the world as it is. -/
def OnlyLooks (a : Action α) : Prop := ∀ w, (a.perform w).2 = w

theorem OnlyLooks.eq_of_perform {a : Action α} (ha : a.OnlyLooks) {w w' : World}
    {x : Except Failure α} (h : a.perform w = (x, w')) : w' = w := by
  rw [← ha w, h]

/-- The action does nothing but look at the files, and it fails at once where it cannot read one. -/
inductive Looks : Action α → Prop where
  | done (r : Except Failure α) : Looks (Script.done r)
  | asking {p : Path} {next : Bool → Action α} (rest : ∀ found, (next found).Looks) :
      Looks (Script.pathExists p next)
  | reading {p : Path} {next : Except FileError Bytes → Action α}
      (rest : ∀ result, (next result).Looks)
      (refused : ∀ e, ∃ f, next (.error e) = throw f) : Looks (Script.read p next)

namespace Looks

theorem of_pure (x : α) : Looks (pure x) := .done (.ok x)

theorem of_throw (e : Failure) : Looks (throw e : Action α) := .done (.error e)

theorem bind {a : Action α} {f : α → Action β} (ha : a.Looks) (hf : ∀ x, (f x).Looks) :
    Looks (a >>= f) := by
  induction ha with
  | done r =>
      cases r with
      | ok x => exact hf x
      | error e => exact .of_throw e
  | asking _ ih => exact .asking ih
  | reading _ refused ih =>
      refine .reading ih fun e => ?_
      obtain ⟨failure, hfails⟩ := refused e
      exact ⟨failure, by rw [hfails]; rfl⟩

theorem pathExists (p : Path) : (Action.pathExists p).Looks :=
  .asking fun found => .done (.ok found)

theorem read (p : Path) (cause : FileError → Failure) : (Action.read p cause).Looks :=
  .reading (fun _ => .done _) fun e => ⟨cause e, rfl⟩

theorem readText (p : Path) (cause : FileError → Failure) : (Action.readText p cause).Looks :=
  .reading (fun _ => .done _) fun e => ⟨cause e, rfl⟩

theorem ifThere (p : Path) (cause : FileError → Failure) {f : String → Action α}
    (hf : ∀ text, (f text).Looks) (default : α) :
    Looks (do
      if ← Action.pathExists p then f (← Action.readText p cause) else return default) := by
  refine .bind (.pathExists p) fun found => ?_
  cases found with
  | true => exact .bind (.readText p cause) hf
  | false => exact .of_pure default

theorem onlyLooks {a : Action α} (ha : a.Looks) : a.OnlyLooks := by
  induction ha with
  | done r => exact fun _ => rfl
  | asking _ ih => exact fun w => ih _ w
  | reading _ _ ih => exact fun w => ih _ w

end Looks

end Action

end WifiTrust
