import WifiTrust.Proofs.Chain.Inspection
import WifiTrust.Proofs.Command.Report
import WifiTrust.Proofs.Replay.Enrolment
import WifiTrust.Proofs.Store.Loaded

/-!
# Connecting again

A connection loads the state of the networks, replays the attempt and saves what has become of the
state. After an approval the state that was saved lists an authority for the network, so whoever
connects to it on that state is asked nothing, and the state is saved as it was.
-/

namespace WifiTrust

open Script (World)

namespace Action.Looks

theorem policyLoad (p : Path) : (Policy.load p).Looks := by
  refine .ifThere p _ (fun text => ?_) _
  split
  · exact .of_pure _
  · exact .of_throw _

theorem storeLoad (clock : Timestamp) (p : Path) : (MemoryStore.load clock p).Looks := by
  refine .ifThere p _ (fun text => ?_) _
  split
  · exact .of_pure _
  · exact .of_throw _

theorem bundleLoad (p : Path) (reverse : Bool) : (Bundle.load p reverse).Looks := by
  refine .bind (.read p _) fun content => ?_
  split
  · exact .of_pure _
  · exact .of_throw _

end Action.Looks

namespace Replay

open Handler

theorem drive_of_free {m : Type → Type} [Monad m] [LawfulMonad m] [MonadExceptOf Failure m]
    {σ : Type} [NetworkStore σ] {h : Handler σ} {n : Network}
    (free : (h.prepare n).1 = .notRequired) (cs : List Certificate) (userSelected : Bool)
    (answer : ShownPrompt → m (Option PromptReply)) :
    drive h n cs userSelected answer = pure ⟨.notRequired, 0, n, (h.prepare n).2.2⟩ := by
  have hunasked := unasked_prepare free
  have hnetwork : (h.prepare n).2.1 = n := (Passes.of_notRequired free).network
  have htoken : (h.prepare n).2.2.activeToken = none := by simp [activeToken, hunasked.screen]
  have hdelivered : deliverChain (h.prepare n).2.2 .notRequired n.ssid cs =
      .ok (0, (h.prepare n).2.2) := rfl
  have htalked : converse answer rounds (h.prepare n).2.2 = pure (h.prepare n).2.2 := by
    simp [rounds, converse, htoken]
  have hleft : leave (h.prepare n).2.2 = (h.prepare n).2.2 := by simp [leave, hunasked.screen]
  simp only [drive, free, hnetwork, hdelivered, MonadExcept.ofExcept, pure_bind, hunasked.start,
    htalked, hleft]

end Replay

namespace Context

def stateOf (c : Context) (a : Attempt) : Path := a.state.getD c.statePath

def attempted (c : Context) (a : Attempt) : Action ConnectionReport := do
  let policy ← Policy.load c.policyPath
  let store ← MemoryStore.load c.clock (c.stateOf a)
  let certificates ← Bundle.load a.chain a.reverse
  let replayed ←
    c.replay a { policy := policy, store := store } (store.applyTo a.network) certificates
  replayed.handler.store.save (c.stateOf a)
  return ⟨replayed, c.stateOf a⟩

theorem connect_eq (c : Context) (a : Attempt) :
    c.connect a = c.attempted a >>= fun r => c.report r.json (r.lines c) := by
  simp [connect, attempted, stateOf]

/-- A connection goes through and prints a report. -/
def Reports (c : Context) (a : Attempt) (w : World) (r : ConnectionReport) (w' : World) : Prop :=
  ∃ w₁, (c.attempted a).perform w = (.ok r, w₁) ∧
    (c.report r.json (r.lines c)).perform w₁ = (.ok (), w')

section Stages

variable {c : Context} {a : Attempt} {w w' : World} {r : ConnectionReport}

theorem connect_eq_ok_iff :
    (c.connect a).perform w = (.ok (), w') ↔ ∃ r, c.Reports a w r w' := by
  rw [connect_eq]
  constructor
  · intro h
    obtain ⟨r, w₁, hattempted, hreport⟩ := Action.perform_bind_eq_ok h
    exact ⟨r, w₁, hattempted, hreport⟩
  · rintro ⟨r, w₁, hattempted, hreport⟩
    rw [Action.perform_bind_of_ok hattempted, hreport]

/-- The stages of a connection up to the saved state. -/
structure Stages (c : Context) (a : Attempt) (w w₁ w₂ : World) (policy : Policy)
    (store : MemoryStore) (cs : List Certificate) (r : Replayed MemoryStore) : Prop where
  configured : (Policy.load c.policyPath).perform w = (.ok policy, w)
  loaded : (MemoryStore.load c.clock (c.stateOf a)).perform w = (.ok store, w)
  presented : (Bundle.load a.chain a.reverse).perform w = (.ok cs, w)
  replayed :
    (c.replay a { policy := policy, store := store } (store.applyTo a.network) cs).perform w =
      (.ok r, w₁)
  saved : (r.handler.store.save (c.stateOf a)).perform w₁ = (.ok (), w₂)

theorem Reports.stages (reported : c.Reports a w r w') :
    ∃ w₁ w₂ policy store cs, Stages c a w w₁ w₂ policy store cs r.replayed ∧
      r.statePath = c.stateOf a ∧
      w' = { w₂ with output := w₂.output ++ c.printed r.json (r.lines c) } := by
  obtain ⟨w₂, hattempted, hreport⟩ := reported
  rw [perform_report] at hreport
  cases hreport
  obtain ⟨policy, _, hpolicy, hrest⟩ := Action.perform_bind_eq_ok hattempted
  obtain ⟨store, _, hstore, hrest⟩ := Action.perform_bind_eq_ok hrest
  obtain ⟨cs, _, hbundle, hrest⟩ := Action.perform_bind_eq_ok hrest
  obtain ⟨replayed, w₁, hreplayed, hrest⟩ := Action.perform_bind_eq_ok hrest
  obtain ⟨_, _, hsaved, hend⟩ := Action.perform_bind_eq_ok hrest
  cases hend
  obtain rfl := (Action.Looks.policyLoad c.policyPath).onlyLooks.eq_of_perform hpolicy
  obtain rfl := (Action.Looks.storeLoad c.clock (c.stateOf a)).onlyLooks.eq_of_perform hstore
  obtain rfl := (Action.Looks.bundleLoad a.chain a.reverse).onlyLooks.eq_of_perform hbundle
  exact ⟨w₁, w₂, policy, store, cs, ⟨hpolicy, hstore, hbundle, hreplayed, hsaved⟩, rfl, rfl⟩

end Stages

section Course

variable {c : Context} {a : Attempt} {w w₁ w₂ : World} {policy : Policy} {store : MemoryStore}
  {cs : List Certificate} {r : Replayed MemoryStore}

theorem Stages.reports (stages : Stages c a w w₁ w₂ policy store cs r) :
    ∃ w', c.Reports a w ⟨r, c.stateOf a⟩ w' ∧ w'.files = w₂.files := by
  refine ⟨_, ⟨w₂, ?_, perform_report ..⟩, rfl⟩
  unfold attempted
  rw [Action.perform_bind_of_ok stages.configured, Action.perform_bind_of_ok stages.loaded,
    Action.perform_bind_of_ok stages.presented, Action.perform_bind_of_ok stages.replayed,
    Action.perform_bind_of_ok stages.saved]
  rfl

theorem replay_of_free {h : Handler MemoryStore} {n : Network}
    (free : (h.prepare n).1 = .notRequired) (cs : List Certificate) :
    c.replay a h n cs = pure ⟨.notRequired, 0, n, (h.prepare n).2.2⟩ := by
  unfold replay
  cases a.auto with
  | none => exact Replay.drive_of_free free cs _ _
  | some answer =>
      dsimp only
      rw [Replay.drive_of_free free]
      rfl

theorem driven_of_replay {answer : StandingAnswer} (auto : a.auto = some answer)
    {h : Handler MemoryStore} {n : Network}
    (replayed : (c.replay a h n cs).perform w = (.ok r, w₁)) :
    Replay.drive h n cs (!a.background) (Replay.answering answer) = .ok r := by
  unfold replay at replayed
  rw [auto] at replayed
  change (MonadExcept.ofExcept (Replay.drive h n cs (!a.background)
    (Replay.answering answer)) : Action _).perform w = _ at replayed
  cases hdriven : Replay.drive h n cs (!a.background) (Replay.answering answer) with
  | error e =>
      rw [hdriven] at replayed
      cases replayed
  | ok r' =>
      rw [hdriven] at replayed
      cases replayed
      rfl

/-- An approval by a standing answer is in the state that is saved. -/
theorem Stages.trusted (stages : Stages c a w w₁ w₂ policy store cs r) (time : c.clock.IsValid)
    (auto : a.auto ≠ none) (gated : r.preparation = .gated) {ssid : String}
    (accepted : .accept ssid ∈ r.handler.decisions) :
    r.handler.store.Timely ∧ (r.handler.store.entry a.networkId).trustedCa ≠ none := by
  obtain ⟨answer, hauto⟩ := Option.ne_none_iff_exists'.1 auto
  have hdriven := driven_of_replay hauto stages.replayed
  obtain ⟨htimely, hworks⟩ := MemoryStore.timely_of_load time stages.loaded
  let h : Handler MemoryStore := { policy := policy, store := store }
  obtain ⟨g, course⟩ := Replay.exists_course hdriven
  have hgated : (h.prepare (store.applyTo a.network)).1 = .gated := by
    rw [← course.preparation, gated]
  have henrolling : h.Enrolling :=
    ⟨Handler.coherent_fresh policy store {} {} [], ((Handler.gated_iff h _).1 hgated).2, hworks⟩
  constructor
  · exact Replay.drive_keeps (fun h op => (Handler.step_effect h op).timely) htimely hdriven
  · have htrusted := course.trusted_of_accepted henrolling rfl accepted
    rwa [MemoryStore.applyTo_id] at htrusted

/-- Where the state lists the network as trusted, the store is handed on as it was loaded. -/
theorem Stages.undisturbed (stages : Stages c a w w₁ w₂ policy store cs r)
    (trusted : (store.entry a.networkId).trustedCa ≠ none) :
    w₁ = w ∧ r.preparation = .notRequired ∧ r.accepted = 0 ∧ r.network = store.applyTo a.network ∧
      Handler.Undisturbed { policy := policy, store := store } r.handler := by
  have hpasses : Handler.Passes { policy := policy, store := store } (store.applyTo a.network) :=
    .of_secure (MemoryStore.insecureEnterprise_applyTo_of_trusted trusted)
  have hreplayed := stages.replayed
  rw [replay_of_free hpasses.answer] at hreplayed
  cases hreplayed
  exact ⟨rfl, rfl, rfl, rfl, Handler.undisturbed_prepare hpasses.answer⟩

end Course

/-- Connecting again after an approval does nothing. If a connection whose prompts have a standing
answer collects a chain and ends with an acceptance, then every other connection to that network
that goes through on the state that was saved, be it with other arguments and another policy,
another bundle and another clock, needs no decision: it takes no certificate, shows no prompt,
decides nothing and calls nothing. Just that is printed, and the state is left as it was, to the
byte. -/
theorem reconnecting_is_uneventful {c c' : Context} {a a' : Attempt} {w w₁ w₂ w₃ : World}
    {r : ConnectionReport} {ssid : String} (time : c.clock.IsValid) (auto : a.auto ≠ none)
    (first : c.Reports a w r w₁) (gated : r.replayed.preparation = .gated)
    (accepted : r.decision? = some (.accept ssid)) (sameNetwork : a'.networkId = a.networkId)
    (untouched : w₂.files.read (c'.stateOf a') = w₁.files.read (c.stateOf a))
    (second : (c'.connect a').perform w₂ = (.ok (), w₃)) :
    ∃ r', c'.Reports a' w₂ r' w₃ ∧ r'.Uneventful ∧
      w₃.output = w₂.output ++ c'.quietReport a'.ssid a'.networkId (c'.stateOf a') ∧
      w₃.files.read (c'.stateOf a') = w₂.files.read (c'.stateOf a') := by
  obtain ⟨_, w₄, _, _, _, stages, -, rfl⟩ := first.stages
  obtain ⟨htimely, htrusted⟩ := stages.trusted time auto gated (List.mem_of_getLast? accepted)
  obtain ⟨r', hreports⟩ := connect_eq_ok_iff.1 second
  obtain ⟨_, w₅, policy, store', _, stages', hpath, rfl⟩ := hreports.stages
  have hsaved : r.replayed.handler.store.SavedAt (c.stateOf a) w₄ :=
    MemoryStore.savedAt_of_save stages.saved
  have hfile : r.replayed.handler.store.SavedAt (c'.stateOf a') w₂ := untouched.trans hsaved
  have hloaded := stages'.loaded
  rw [MemoryStore.load_of_savedAt htimely hfile] at hloaded
  cases hloaded
  have htrusted' : (r.replayed.handler.store.entry a'.networkId).trustedCa ≠ none := by
    rwa [sameNetwork]
  obtain ⟨rfl, hpreparation, haccepted, hnetwork, undisturbed⟩ := stages'.undisturbed htrusted'
  have huneventful : r'.Uneventful := .of_undisturbed hpreparation haccepted undisturbed
  refine ⟨r', hreports, huneventful, ?_, ?_⟩
  · dsimp only
    rw [huneventful.printed, hnetwork, hpath, MemoryStore.applyTo_ssid, MemoryStore.applyTo_id,
      MemoryStore.output_save stages'.saved]
    rfl
  · have hsaved := MemoryStore.savedAt_of_save stages'.saved
    rw [undisturbed.store] at hsaved
    exact hsaved.trans hfile.symm

end Context

namespace Corporate

open Context

/-- A server presents one certificate, which it has signed itself. -/
def bundle : Bytes :=
  ["-----BEGIN CERTIFICATE-----",
    "MGAwVQIBATADBgEqMA8xDTALBgNVBAMMBGNvcnAwHhcNMjQw",
    "MTAxMDAwMDAwWhcNMzQwMTAxMDAwMDAwWjAPMQ0wCwYDVQQD",
    "DARjb3JwMAkwAwYBKgMCAAEwAwYBKgMCAAc=",
    "-----END CERTIFICATE-----"].flatMap fun line => Pem.ascii line ++ [10]

set_option maxRecDepth 2000 in
theorem parse_bundle :
    ∃ server, Bundle.parse bundle = .ok [server] ∧ server.subject = "CN=corp" ∧
      server.issuer = "CN=corp" := by
  have hnames : (Bundle.parse bundle).toOption.map (·.map fun c => (c.subject, c.issuer)) =
      some [("CN=corp", "CN=corp")] := by decide +kernel
  cases hparsed : Bundle.parse bundle with
  | error e =>
      rw [hparsed] at hnames
      cases hnames
  | ok cs =>
      rw [hparsed] at hnames
      obtain ⟨server, hserver, hsame⟩ := List.map_eq_singleton_iff.1 (Option.some.inj hnames)
      obtain ⟨hsubject, hissuer⟩ := Prod.mk.inj hsame
      exact ⟨server, by rw [hserver], hsubject, hissuer⟩

def disk : FileTree := { files := [(["corp.pem"], bundle)] }

def desk : Context where
  format := .json
  settingsPath := ⟨"config.toml"⟩
  policyPath := ⟨"handler.toml"⟩
  statePath := ⟨"state.json"⟩
  clock := emptyStore.clock

/-- The user has said beforehand to approve the corporate network. -/
def enrolment : Attempt where
  ssid := "corp"
  networkId := 7
  eapMethod := .peap
  chain := ⟨"corp.pem"⟩
  auto := some .accept

/-- A connection to the network by another name, with prompts in the terminal. -/
def comeback : Attempt where
  ssid := "corp-5g"
  networkId := 7
  eapMethod := .ttls
  chain := ⟨"corp.pem"⟩

theorem load_bundle {server : Certificate} (parsed : Bundle.parse bundle = .ok [server]) {w : World}
    (there : w.files.read ⟨"corp.pem"⟩ = .ok bundle) :
    (Bundle.load ⟨"corp.pem"⟩ false).perform w = (.ok [server], w) := by
  have hread : (Action.read ⟨"corp.pem"⟩ (.file ⟨"corp.pem"⟩)).perform w = (.ok bundle, w) := by
    change ((w.files.read ⟨"corp.pem"⟩).mapError _, w) = _
    rw [there]
    rfl
  unfold Bundle.load
  rw [Action.perform_bind_of_ok hread, parsed]
  rfl

theorem drive_enrolment {server : Certificate} (subject : server.subject = "CN=corp")
    (issuer : server.issuer = "CN=corp") :
    let h : Handler MemoryStore := { policy := {}, store := { clock := desk.clock } }
    ∃ r, Replay.drive h enrolment.network [server] true (Replay.answering .accept) = .ok r ∧
      r.preparation = .gated ∧ r.handler.decisions = [.accept "corp"] := by
  intro h
  obtain ⟨name, hname⟩ : ∃ name, DistinguishedName.parse "CN=corp" = .ok name := ⟨_, rfl⟩
  have readable : ChainEntry.ofCertificate? 0 server = some ⟨0, server, name, name⟩ := by
    rw [ChainEntry.ofCertificate?_eq_some_iff, subject, issuer]
    exact ⟨rfl, rfl, hname, hname⟩
  have valid := Chain.validate_of_selfSigned readable (subject.trans issuer.symm)
  have named : enrolment.network.ssid ≠ "" := by decide
  have short : [server].length ≤ Replay.depths := Nat.one_le_two_pow
  obtain ⟨_, _, hdelivered, -, hsettles⟩ :=
    Replay.exists_settles {} h.store {} named short true .accept
  obtain ⟨r, hdriven, hpreparation, -, -, hcame⟩ := Replay.drive_of_settles hdelivered hsettles
  have gated : (h.prepare enrolment.network).1 = .gated := rfl
  refine ⟨r, hdriven, hpreparation.trans gated, ?_⟩
  have hdecisions := congrArg Prod.fst hcame
  have on : enrolment.network.trustsOnFirstUse = true := rfl
  change _ = (Replay.outcome {} enrolment.network _ true .accept
    (h.prepare enrolment.network).1).1 at hdecisions
  rw [gated, Replay.outcome, if_pos on, valid] at hdecisions
  exact hdecisions

end Corporate

namespace Context

open Corporate

/-- The corporate network is approved once, and later somebody connects to it by another name. -/
theorem corporate_reconnection_is_uneventful :
    ∃ r w₁ w₂, desk.clock.IsValid ∧ enrolment.auto ≠ none ∧
      desk.Reports enrolment { files := disk } r w₁ ∧ r.replayed.preparation = .gated ∧
      r.decision? = some (.accept "corp") ∧
      (desk.connect comeback).perform w₁ = (.ok (), w₂) ∧
      ∃ r', desk.Reports comeback w₁ r' w₂ ∧ r'.Uneventful ∧
        w₂.output = w₁.output ++ desk.quietReport "corp-5g" 7 ⟨"state.json"⟩ ∧
        w₂.files.read desk.statePath = w₁.files.read desk.statePath := by
  obtain ⟨server, hparsed, hsubject, hissuer⟩ := parse_bundle
  obtain ⟨r, hdriven, gated, hdecisions⟩ := drive_enrolment hsubject hissuer
  have time : desk.clock.IsValid := timely_emptyStore.clock
  have auto : enrolment.auto ≠ none := Option.some_ne_none _
  have accepted : (⟨r, desk.statePath⟩ : ConnectionReport).decision? = some (.accept "corp") := by
    rw [ConnectionReport.decision?, hdecisions]
    rfl
  let content : Bytes := Utf8.encode r.handler.store.toJson.pretty.toList
  have stages : Stages desk enrolment { files := disk } { files := disk }
      { files := disk.put ["state.json"] content } {} { clock := desk.clock } [server] r := by
    constructor
    · rfl
    · rfl
    · exact load_bundle hparsed rfl
    · change (MonadExcept.ofExcept (Replay.drive _ enrolment.network [server] true
        (Replay.answering .accept)) : Action _).perform _ = _
      rw [hdriven]
      rfl
    · rfl
  obtain ⟨⟨files, output, choices⟩, first, hfiles⟩ := stages.reports
  cases hfiles
  obtain ⟨htimely, htrusted⟩ := stages.trusted time auto gated (List.mem_of_getLast? accepted)
  let s : MemoryStore := { r.handler.store.reloaded with clock := desk.clock }
  have saved : r.handler.store.SavedAt desk.statePath
      ⟨disk.put ["state.json"] content, output, choices⟩ := rfl
  let h : Handler MemoryStore := { policy := {}, store := s }
  have passes : h.Passes (s.applyTo comeback.network) :=
    .of_secure (MemoryStore.insecureEnterprise_applyTo_of_trusted htrusted)
  have stages' : ∃ g w₂, Stages desk comeback ⟨disk.put ["state.json"] content, output, choices⟩
      ⟨disk.put ["state.json"] content, output, choices⟩ w₂ {} s [server]
      ⟨.notRequired, 0, s.applyTo comeback.network, g⟩ := by
    refine ⟨(h.prepare (s.applyTo comeback.network)).2.2, _, rfl, ?_, load_bundle hparsed rfl, ?_,
      rfl⟩
    · exact MemoryStore.load_of_savedAt htimely saved desk.clock
    · rw [replay_of_free passes.answer]
      rfl
  obtain ⟨_, _, stages'⟩ := stages'
  obtain ⟨w₂, hreports, -⟩ := stages'.reports
  have second := connect_eq_ok_iff.2 ⟨_, hreports⟩
  exact ⟨_, _, w₂, time, auto, first, gated, accepted, second,
    reconnecting_is_uneventful time auto first gated accepted rfl rfl second⟩

end Context

end WifiTrust
