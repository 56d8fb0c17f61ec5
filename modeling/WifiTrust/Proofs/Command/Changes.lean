import WifiTrust.Command.Program
import WifiTrust.Proofs.Command.Connection
import WifiTrust.Proofs.Script

/-!
# What a command changes

Everything that can go wrong in a command comes before the one file that it writes, whatever the
system refuses on the way. Main statement: a run that fails has changed no file, and one that goes
through has changed at most the file that its request is about. A default policy that may not take
the place of another does so only where its path makes a detour.
-/

namespace WifiTrust

theorem Action.Looks.settingsLoad (p : Path) : (Settings.load p).Looks := by
  refine .ifThere p _ (fun text => ?_) _
  split
  · exact .of_pure _
  · exact .of_throw _

namespace Replay

variable {σ : Type} [NetworkStore σ] {answer : ShownPrompt → Action (Option PromptReply)}

theorem spares_converse (asks : ∀ shown, (answer shown).Spares) (n : Nat) (h : Handler σ) :
    Action.Spares (converse answer n h) := by
  induction n generalizing h with
  | zero => exact .of_pure h
  | succ n ih =>
      rw [converse]
      split
      · refine .bind (asks _) fun reply => ?_
        cases reply with
        | some reply => exact ih _
        | none => exact .of_pure h
      · exact .of_pure h

theorem spares_drive (asks : ∀ shown, (answer shown).Spares) (h : Handler σ) (n : Network)
    (cs : List Certificate) (userSelected : Bool) :
    Action.Spares (drive h n cs userSelected answer) :=
  .bind (.ofExcept _) fun _ => .bind (spares_converse asks rounds _) fun _ => .of_pure _

end Replay

namespace Context

open WifiTrust.Action (Looks Spares OnlyPrints)

section Printing

variable (c : Context) (json : Json) (lines : List String)

theorem onlyPrints_printAll : (printAll lines).OnlyPrints := by
  induction lines with
  | nil => exact .of_pure ()
  | cons line lines ih => exact .bind (.printLine line) fun _ => ih

theorem onlyPrints_report : (c.report json lines).OnlyPrints := by
  unfold report
  split
  · exact .printLine _
  · exact onlyPrints_printAll lines

theorem spares_ask (shown : ShownPrompt) : (c.ask shown).Spares :=
  .bind (onlyPrints_printAll _).spares fun _ => .bind (.choose _) fun _ => .of_pure _

end Printing

theorem spares_replay (c : Context) (a : Attempt) (h : Handler MemoryStore) (n : Network)
    (cs : List Certificate) : (c.replay a h n cs).Spares := by
  unfold replay
  split
  · exact .ofExcept _
  · exact Replay.spares_drive c.spares_ask h n cs _

def beforeSaving (c : Context) (a : Attempt) : Action (Replayed MemoryStore) := do
  let policy ← Policy.load c.policyPath
  let store ← MemoryStore.load c.clock (c.stateOf a)
  let certificates ← Bundle.load a.chain a.reverse
  let replayed ←
    c.replay a { policy := policy, store := store } (store.applyTo a.network) certificates
  Action.makeRoomFor (c.stateOf a) .file
  return replayed

theorem connect_eq_saving (c : Context) (a : Attempt) :
    c.connect a = c.beforeSaving a >>= fun r =>
      Action.write (c.stateOf a) r.handler.store.toJson.pretty (.file (c.stateOf a)) >>= fun _ =>
        c.report (⟨r, c.stateOf a⟩ : ConnectionReport).json
          (ConnectionReport.lines c ⟨r, c.stateOf a⟩) := by
  simp [connect, beforeSaving, stateOf, MemoryStore.save]

theorem spares_beforeSaving (c : Context) (a : Attempt) : (c.beforeSaving a).Spares :=
  .bind (Looks.policyLoad _).spares fun _ => .bind (Looks.storeLoad _ _).spares fun _ =>
    .bind (Looks.bundleLoad _ _).spares fun _ => .bind (c.spares_replay a _ _ _) fun _ =>
    .bind (.makeRoomFor _ _) fun _ => .of_pure _

def beforePolicy (c : Context) (force : Bool) : Action Unit := do
  let found ← Action.pathExists c.policyPath
  if found && !force then throw (.occupied c.policyPath)
  else Action.makeRoomFor c.policyPath fun _ => .ownFile

theorem writePolicy_eq (c : Context) (force : Bool) :
    c.writePolicy force = c.beforePolicy force >>= fun _ =>
      Action.write c.policyPath (Policy.toToml {}) .ownFile >>= fun _ =>
        Action.printLine (c.labelled .good "Success:" ("wrote " ++ c.policyPath.text)) := by
  unfold writePolicy beforePolicy
  rw [bind_assoc]
  refine bind_congr fun found => ?_
  by_cases refused : (found && !force) = true
  · rw [if_pos refused, if_pos refused]
    rfl
  · rw [if_neg refused, if_neg refused]

theorem spares_beforePolicy (c : Context) (force : Bool) : (c.beforePolicy force).Spares := by
  refine .bind (Looks.pathExists _).spares fun found => ?_
  split
  · exact .of_throw _
  · exact .makeRoomFor _ _

section Requests

variable {c : Context} {t t' : FileTree}

theorem absent_of_beforePolicy
    (came : (c.beforePolicy false).Comes t (.ok ()) t') : t.pathExists c.policyPath = false := by
  rcases Action.comes_bind came with ⟨found, t₁, hfound, hthen⟩ | ⟨e, -, h⟩
  · obtain ⟨h, -⟩ := Action.comes_pathExists hfound
    cases h
    by_contra there
    rw [Bool.not_eq_false] at there
    rw [there] at hthen
    cases (Action.comes_throw hthen).1
  · cases h

theorem policyLoad_default (p : Path) {w : Script.World}
    (there : w.files.read p = .ok (Utf8.encode (Policy.toToml {}).toList)) :
    (Policy.load p).perform w = (.ok {}, w) := by
  have hfound : (Action.pathExists p).perform w = (.ok true, w) := by
    rw [Action.perform_pathExists, FileTree.pathExists_of_read there]
  have hdefault : Policy.ofToml (Policy.toToml {}) = .ok {} := by decide +kernel
  unfold Policy.load
  rw [Action.perform_bind_of_ok hfound, if_pos rfl,
    Action.perform_bind_of_ok (Action.perform_readText there _), hdefault]
  rfl

/-- What a request that has been carried out has changed. -/
def Changes (c : Context) (t t' : FileTree) : Request → Prop
  | .inspect _ _ | .showPolicy | .showPaths => t'.files = t.files
  | .connect a =>
      ∃ s : MemoryStore, t.Wrote (c.stateOf a) (Utf8.encode s.toJson.pretty.toList) t'
  | .writePolicy force =>
      t.Wrote c.policyPath (Utf8.encode (Policy.toToml {}).toList) t' ∧
      (∀ w : Script.World, w.files = t' → (Policy.load c.policyPath).perform w = (.ok {}, w)) ∧
      (force = false →
        (t.content? (t.goal c.policyPath) = none ↔ ¬t.Detour c.policyPath) ∧
        (t.Rooted → ".." ∉ c.policyPath.steps → t.content? (t.goal c.policyPath) = none))

theorem connect_changes {a : Attempt} {r : Except Failure Unit}
    (came : (c.connect a).Comes t r t') :
    (∃ e, r = .error e ∧ t'.files = t.files) ∨ r = .ok () ∧ c.Changes t t' (.connect a) := by
  rw [connect_eq_saving] at came
  rcases Action.comes_writing (spares_beforeSaving c a) (fun _ => c.onlyPrints_report _ _) came with
    failed | ⟨replayed, -, t₁, rfl, -, before, written⟩
  · exact .inl failed
  · exact .inr ⟨rfl, replayed.handler.store, FileTree.wrote_of_write before written⟩

theorem writePolicy_changes {force : Bool} {r : Except Failure Unit}
    (came : (c.writePolicy force).Comes t r t') :
    (∃ e, r = .error e ∧ t'.files = t.files) ∨
      r = .ok () ∧ c.Changes t t' (.writePolicy force) := by
  rw [writePolicy_eq] at came
  rcases Action.comes_writing (spares_beforePolicy c force) (fun _ => OnlyPrints.printLine _) came with
    failed | ⟨⟨⟩, ⟨⟩, t₁, rfl, hbefore, before, written⟩
  · exact .inl failed
  · have wrote := FileTree.wrote_of_write before written
    refine .inr ⟨rfl, wrote, fun w hw => policyLoad_default _ (hw ▸ wrote.read), ?_⟩
    rintro rfl
    obtain ⟨place, hlocate, -⟩ := FileTree.write_eq_ok written
    have detour := FileTree.detour_iff before (absent_of_beforePolicy hbefore) hlocate
    refine ⟨by rw [← detour, not_ne_iff], fun rooted forward => ?_⟩
    by_contra there
    exact forward ((detour.1 there).goes_back rooted)

theorem carryOut_changes {request : Request} {r : Except Failure Unit}
    (came : (c.carryOut request).Comes t r t') :
    (∃ e, r = .error e ∧ t'.files = t.files) ∨ r = .ok () ∧ c.Changes t t' request := by
  have looking {a : Action Unit} (spares : a.Spares) (came : a.Comes t r t') :
      (∃ e, r = .error e ∧ t'.files = t.files) ∨ r = .ok () ∧ t'.files = t.files := by
    have hfiles := (spares _ _ _ came).files
    cases r with
    | error e => exact .inl ⟨e, rfl, hfiles⟩
    | ok _ => exact .inr ⟨rfl, hfiles⟩
  cases request with
  | inspect chain reverse =>
      exact looking (.bind (Looks.bundleLoad _ _).spares fun _ => .bind (.ofExcept _) fun _ =>
        (c.onlyPrints_report _ _).spares) came
  | showPolicy =>
      exact looking (.bind (Looks.policyLoad _).spares fun _ => (c.onlyPrints_report _ _).spares) came
  | showPaths => exact looking (c.onlyPrints_report _ _).spares came
  | connect a => exact connect_changes came
  | writePolicy force => exact writePolicy_changes came

end Requests

end Context

namespace Program

variable {e : Environment} {words : List String} {t t' : FileTree}

theorem carryOut_changes {i : Invocation} {r : Except Failure Unit}
    (came : (carryOut e i).Comes t r t') :
    (∃ f, r = .error f ∧ t'.files = t.files) ∨
      r = .ok () ∧ ∃ places settings, e.places? = some places ∧
        (∀ w : Script.World, w.files = t →
          (Settings.load places.settingsPath).perform w = (.ok settings, w)) ∧
        (Context.of e places settings i).Changes t t' i.request := by
  unfold carryOut at came
  cases hplaces : e.places? with
  | none =>
      rw [hplaces] at came
      obtain ⟨rfl, rfl⟩ := Action.comes_throw came
      exact .inl ⟨.noHome, rfl, rfl⟩
  | some places =>
      rw [hplaces] at came
      dsimp only at came
      rcases Action.comes_bind came with ⟨settings, t₁, hloaded, hthen⟩ | ⟨f, hloaded, rfl⟩
      · obtain ⟨rfl, hsettings⟩ := (Action.Looks.settingsLoad _).perform_of_comes hloaded
        rcases Context.carryOut_changes hthen with failed | ⟨rfl, changes⟩
        · exact .inl failed
        · exact .inr ⟨rfl, places, settings, rfl, hsettings, changes⟩
      · exact .inl ⟨f, rfl, ((Action.Looks.settingsLoad _).spares _ _ _ hloaded).files⟩

/-- A run that fails changes no file, wherever it fails. One that goes through changes no file if it
was asked to look at something, and otherwise one file: a connection writes the state, and the
request for a default policy writes that policy, which then can be loaded. Without leave to replace
a policy it writes where no file was before, unless the path makes a detour; a path without `..`
makes none. -/
theorem run_changes {ending : Ending} (ran : (run e words).Runs t ending t') :
    (ending ≠ .done → t'.files = t.files) ∧
    (ending = .done → ∃ i places settings,
      Command.parse e.valueOf words = .ok i ∧ e.places? = some places ∧
      (∀ w : Script.World, w.files = t →
        (Settings.load places.settingsPath).perform w = (.ok settings, w)) ∧
      (Context.of e places settings i).Changes t t' i.request) := by
  unfold run at ran
  cases hparsed : Command.parse e.valueOf words with
  | error u =>
      rw [hparsed] at ran
      cases ran
      exact ⟨fun _ => rfl, fun h => by cases h⟩
  | ok i =>
      rw [hparsed] at ran
      obtain ⟨r, t₁, hcarried, hends⟩ := Script.runs_andThen ran
      rcases carryOut_changes hcarried with
        ⟨f, rfl, hfiles⟩ | ⟨rfl, places, settings, hplaces, hsettings, changes⟩
      · cases hends
        exact ⟨fun _ => hfiles, fun h => by cases h⟩
      · cases hends
        exact ⟨fun h => absurd rfl h,
          fun _ => ⟨i, places, settings, rfl, hplaces, hsettings, changes⟩⟩

end Program

namespace Corporate

def staff : Environment where
  valueOf name := if name = "HOME" then some "/home/alice" else none
  clock := ⟨2024, 5, 17, 12, 0, 0, 0⟩

def handwritten : Bytes := Utf8.encode "interface_name = \"wlan9\"\n".toList

end Corporate

namespace Program

open Corporate

/-- The default policy is written for the first time, and an approval given at the terminal is saved
for the first time. -/
theorem first_runs_write_their_file :
    (∃ (c : Context) (t' : FileTree), (run staff ["config", "init"]).Runs {} .done t' ∧
      c.policyPath = ⟨"/home/alice/.config/eaptrust/handler.toml"⟩ ∧
      c.Changes {} t' (.writePolicy false)) ∧
    ∃ (c : Context) (a : Attempt) (t' : FileTree),
      (run staff ["connect", "--ssid", "corp", "--eap", "peap", "--chain", "corp.pem"]).Runs
        disk .done t' ∧
      a.auto = none ∧ c.stateOf a = ⟨"/home/alice/.local/share/eaptrust/networks.json"⟩ ∧
      c.Changes disk t' (.connect a) := by
  constructor
  · let words := ["config", "init"]
    have hdone : (Script.run (run staff words) { files := {} }).1 = .done := by decide +kernel
    have ran := Script.runs_of_run hdone
    obtain ⟨i, places, settings, hparsed, hplaces, hloaded, changes⟩ := (run_changes ran).2 rfl
    have hasked : Command.parse staff.valueOf words = .ok { request := .writePolicy false } := by
      decide +kernel
    rw [hasked] at hparsed
    cases hparsed
    cases hplaces
    cases hloaded { files := {} } rfl
    refine ⟨_, _, ran, ?_, changes⟩
    decide +kernel
  · let words := ["connect", "--ssid", "corp", "--eap", "peap", "--chain", "corp.pem"]
    let a : Attempt := { chain := ⟨"corp.pem"⟩, ssid := "corp", eapMethod := .peap }
    let w : Script.World := { files := disk, choices := [.entry 0] }
    have hdone : (Script.run (run staff words) w).1 = .done := by decide +kernel
    have ran := Script.runs_of_run hdone
    obtain ⟨i, places, settings, hparsed, hplaces, hloaded, changes⟩ := (run_changes ran).2 rfl
    have hasked : Command.parse staff.valueOf words = .ok { request := .connect a } := by
      decide +kernel
    rw [hasked] at hparsed
    cases hparsed
    cases hplaces
    cases hloaded w rfl
    refine ⟨_, a, _, ran, rfl, ?_, changes⟩
    decide +kernel

/-- Without leave to replace it, a policy that is there is replaced all the same if the path to it
goes through a directory that is missing. -/
theorem init_replaces_policy :
    ∃ t t', (run staff ["--handler-config", "new/../handler.toml", "config", "init"]).Runs
        t .done t' ∧
      Command.parse staff.valueOf ["--handler-config", "new/../handler.toml", "config", "init"] =
        .ok { policyPath := some ⟨"new/../handler.toml"⟩, request := .writePolicy false } ∧
      t.content? (t.goal ⟨"new/../handler.toml"⟩) = some handwritten ∧
      t.read ⟨"handler.toml"⟩ = .ok handwritten ∧
      t'.read ⟨"handler.toml"⟩ = .ok (Utf8.encode (Policy.toToml {}).toList) := by
  let words := ["--handler-config", "new/../handler.toml", "config", "init"]
  let t : FileTree := { files := [(["handler.toml"], handwritten)] }
  have hdone : (Script.run (run staff words) { files := t }).1 = .done := by decide +kernel
  exact ⟨t, _, Script.runs_of_run hdone, by decide +kernel, by decide +kernel, by decide +kernel, by decide +kernel⟩

end Program

end WifiTrust
