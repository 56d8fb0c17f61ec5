import WifiTrust.Proofs.Chain.Anchors
import WifiTrust.Proofs.Handler.Screen

/-!
# What a start leaves behind

A start that does anything either ends the attempt with an error or asks the user. The one attempt
that it leaves waiting with nobody asked is that of a user who selects a network without a name on a
device that cannot collect chains.
-/

namespace WifiTrust

theorem Asks.token_ssid {policy : Policy} {p : Pending} {id : UInt64} {r : PromptRequest}
    (h : Asks policy p id r) : r.token.ssid = p.network.ssid := by
  cases h with
  | tofuDialog | tofuNotification | legacyDialog | legacyNotification => rfl

def PromptKind.first (tofu userSelected : Bool) : PromptKind :=
  if userSelected then if tofu then .tofuDialog else .legacyDialog
  else if tofu then .tofuNotification else .legacyNotification

theorem PromptBoard.outstanding?_post (b : PromptBoard) (r : PromptRequest) :
    (b.post r).outstanding? = some ⟨b.nextHandle, r, false⟩ := by
  simp [outstanding?, post]

namespace Handler

variable {σ : Type}

/-- The latest prompt that is still on the board is the one with the handle and the token. -/
def Displays (h : Handler σ) (a : ActivePrompt) : Prop :=
  ∃ shown, h.board.outstanding? = some shown ∧ shown.handle = a.handle ∧
    shown.request.token = a.token

def AsksUser (h : Handler σ) : Prop :=
  ∃ p a, h.pending = some p ∧ p.approvalStarted = true ∧ h.active = some a ∧
    a.token.ssid = p.network.ssid ∧ h.Displays a

/-- The attempt of a connection has been ended by one error that names it. -/
structure GaveUp (h : Handler σ) (p : Pending) (h' : Handler σ) : Prop where
  idle : h'.pending = none
  reported : h'.decisions = h.decisions ++ [.error (some p.network.ssid)]

/-- The user has selected a network without a name on a device that cannot collect chains, and
nothing is on the screen. -/
structure Unaskable (h : Handler σ) (p : Pending) (userSelected : Bool) : Prop where
  selected : userSelected = true
  nameless : p.network.ssid = ""
  unsupported : h.policy.trustOnFirstUseSupported = false
  blank : h.active = none

theorem ScreenStep.displays {h h' : Handler σ} (step : ScreenStep h h')
    (hd : ∀ a, h.active = some a → h.Displays a) {a : ActivePrompt} (ha : h'.active = some a) :
    h'.Displays a := by
  cases step with
  | kept hboard hactive =>
      have hsame := hd a (hactive ▸ ha)
      simpa only [Displays, hboard] using hsame
  | cleared _ hactive =>
      rw [hactive] at ha
      cases ha
  | posted r hboard hactive =>
      rw [hactive] at ha
      cases ha
      refine ⟨⟨h.clearedBoard.nextHandle, r, false⟩, ?_, rfl, rfl⟩
      rw [hboard, PromptBoard.outstanding?_post]

theorem askForApproval_of_nameless {h : Handler σ} {p : Pending} (hp : h.pending = some p)
    (nameless : p.network.ssid = "") : h.askForApproval = h := by
  simp [askForApproval, hp, nameless]

theorem askForApproval_asks {h : Handler σ} {p : Pending} (hp : h.pending = some p)
    (named : p.network.ssid ≠ "") (ready : p.usesTofu = true → p.chain.leaf? ≠ none) :
    ∃ r, Asks h.policy p (h.lastPromptId + 1) r ∧ r.token.kind = .first p.usesTofu true ∧
      h.askForApproval = h.prompted r := by
  cases htofu : p.usesTofu with
  | true =>
      obtain ⟨leaf, hleaf⟩ := Option.ne_none_iff_exists'.1 (ready htofu)
      exact ⟨_, .tofuDialog htofu named hleaf, rfl,
        askForApproval_of_leaf h hp named htofu hleaf⟩
  | false =>
      refine ⟨_, .legacyDialog htofu named, rfl, ?_⟩
      simp only [askForApproval, hp, named, htofu, if_false, Bool.false_eq_true]
      exact showPrompt_issued h _

theorem notifyUser_asks {h : Handler σ} {p : Pending} (hp : h.pending = some p)
    (ready : p.usesTofu = true → p.chain.leaf? ≠ none) :
    ∃ r, Asks h.policy p (h.lastPromptId + 1) r ∧ r.token.kind = .first p.usesTofu false ∧
      h.notifyUser = h.prompted r := by
  cases htofu : p.usesTofu with
  | true =>
      obtain ⟨leaf, hleaf⟩ := Option.ne_none_iff_exists'.1 (ready htofu)
      exact ⟨_, .tofuNotification htofu hleaf, rfl, notifyUser_of_leaf h hp htofu hleaf⟩
  | false =>
      refine ⟨_, .legacyNotification htofu, rfl, ?_⟩
      simp only [notifyUser, hp, htofu, if_false, Bool.false_eq_true]
      exact showPrompt_issued h _

theorem markStarted_pending {h : Handler σ} {p : Pending} (hp : h.pending = some p) :
    h.markStarted.pending = some { p with approvalStarted := true } := by
  simp [markStarted, hp]

theorem beginApproval_asks {h : Handler σ} {p : Pending} (hp : h.pending = some p)
    (ready : p.usesTofu = true → p.chain.leaf? ≠ none) {userSelected : Bool}
    (named : userSelected = true → p.network.ssid ≠ "") :
    ∃ r, Asks h.policy { p with approvalStarted := true } (h.lastPromptId + 1) r ∧
      r.token.kind = .first p.usesTofu userSelected ∧
      h.beginApproval userSelected = h.markStarted.prompted r := by
  have hmarked := markStarted_pending hp
  cases userSelected with
  | true => exact askForApproval_asks hmarked (named rfl) ready
  | false => exact notifyUser_asks hmarked ready

theorem asksUser_prompted {h : Handler σ} {p : Pending} (hp : h.pending = some p)
    (started : p.approvalStarted = true) {id : UInt64} {r : PromptRequest}
    (asks : Asks h.policy p id r) : (h.prompted r).AsksUser := by
  refine ⟨p, ⟨r.token, h.clearedBoard.nextHandle⟩, hp, started, rfl, asks.token_ssid, ?_⟩
  exact ⟨_, PromptBoard.outstanding?_post h.clearedBoard r, rfl, rfl⟩

variable [NetworkStore σ]

theorem Reachable.displays {h : Handler σ} (reachable : h.Reachable) {a : ActivePrompt}
    (ha : h.active = some a) : h.Displays a := by
  obtain ⟨policy, store, session, board, decisions, ops, rfl⟩ := reachable
  exact run_invariant (P := fun g : Handler σ => ∀ a, g.active = some a → g.Displays a)
    (fun effect hd a ha => effect.screenStep.displays hd ha) (fun _ ha => by cases ha) ops a ha

section Gated

variable {h : Handler σ} {p : Pending}

theorem start_of_free (free : ∀ p, h.pending = some p → p.gated = false) (userSelected : Bool) :
    h.start userSelected = (false, h) := by
  unfold start
  split
  · rfl
  · next p hp => simp [free p hp]

theorem start_of_barred (hp : h.pending = some p) (gated : p.gated = true)
    (supported : h.policy.trustOnFirstUseSupported = true)
    (forbidden : h.policy.insecureEnterpriseAllowed = false)
    (off : p.network.trustsOnFirstUse = false) (userSelected : Bool) :
    h.start userSelected = (true, h.error (some p.network.ssid)) := by
  simp [start, hp, gated, supported, forbidden, off]

theorem start_of_exempt (hp : h.pending = some p) (gated : p.gated = true)
    (supported : h.policy.trustOnFirstUseSupported = true)
    (allowed : h.policy.insecureEnterpriseAllowed = true) (legacy : p.usesTofu = false)
    (userSelected : Bool) : h.start userSelected = (false, h) := by
  simp [start, hp, gated, supported, allowed, legacy]

theorem start_of_valid (hp : h.pending = some p) (gated : p.gated = true)
    (tofu : p.usesTofu = true) (on : p.network.trustsOnFirstUse = true)
    (valid : p.chain.validate = .ok ()) (userSelected : Bool) :
    h.start userSelected = (true, h.beginApproval userSelected) := by
  simp [start, hp, gated, tofu, on, valid]

theorem start_of_invalid (hp : h.pending = some p) (gated : p.gated = true)
    (tofu : p.usesTofu = true) (on : p.network.trustsOnFirstUse = true) {e : ChainError}
    (invalid : p.chain.validate = .error e) (userSelected : Bool) :
    h.start userSelected = (true,
      if e.isBrokenLink then
        (h.error (some p.network.ssid)).showInvalidChain p.network.ssid userSelected
      else h.error (some p.network.ssid)) := by
  simp [start, hp, gated, tofu, on, invalid]

theorem start_of_legacy (hp : h.pending = some p) (gated : p.gated = true)
    (unsupported : h.policy.trustOnFirstUseSupported = false) (legacy : p.usesTofu = false)
    (userSelected : Bool) :
    h.start userSelected = (true, h.beginApproval userSelected) := by
  simp [start, hp, gated, unsupported, legacy]

/-- On a device that collects chains, a start that does anything asks the user or gives up. -/
theorem Coherent.start_of_supported (hc : h.Coherent) (hp : h.pending = some p)
    (gated : p.gated = true) (supported : h.policy.trustOnFirstUseSupported = true)
    (userSelected : Bool) : h.start userSelected = (false, h) ∨
      ∃ h', h.start userSelected = (true, h') ∧ (h'.AsksUser ∨ h.GaveUp p h') := by
  have hmode := hc.mode p hp
  simp only [gated, supported, Bool.true_and] at hmode
  cases hon : p.network.trustsOnFirstUse with
  | false =>
      cases hallowed : h.policy.insecureEnterpriseAllowed with
      | true => exact .inl (start_of_exempt hp gated supported hallowed (hmode.trans hon) _)
      | false =>
          refine .inr ⟨_, start_of_barred hp gated supported hallowed hon _, .inr ?_⟩
          rw [error_eq]
          exact ⟨rfl, rfl⟩
  | true =>
      have htofu : p.usesTofu = true := hmode.trans hon
      cases hvalid : p.chain.validate with
      | ok =>
          obtain ⟨root, leaf, hanchors⟩ := Chain.validate_eq_ok_iff.1 hvalid
          have hleaf : p.chain.leaf? = some leaf := Chain.leaf?_of_anchors hanchors
          have hname : p.network.ssid ≠ "" := hc.ssid_ne_empty hp hleaf
          have hready : p.usesTofu = true → p.chain.leaf? ≠ none := by simp [hleaf]
          have hnamed : userSelected = true → p.network.ssid ≠ "" := fun _ => hname
          obtain ⟨r, hasks, -, hbegun⟩ := beginApproval_asks hp hready hnamed
          refine .inr ⟨_, start_of_valid hp gated htofu hon hvalid _, .inl ?_⟩
          rw [hbegun]
          exact asksUser_prompted (markStarted_pending hp) rfl hasks
      | error e =>
          refine .inr ⟨_, start_of_invalid hp gated htofu hon hvalid _, .inr ?_⟩
          split
          · rw [showInvalidChain_eq, error_eq]
            exact ⟨rfl, rfl⟩
          · rw [error_eq]
            exact ⟨rfl, rfl⟩

/-- On a device that cannot collect chains, a start asks the user unless there is no name to ask
about, and then it changes nothing on the screen. -/
theorem Reachable.start_of_unsupported (reachable : h.Reachable) (hp : h.pending = some p)
    (gated : p.gated = true) (unsupported : h.policy.trustOnFirstUseSupported = false)
    (userSelected : Bool) : ∃ h', h.start userSelected = (true, h') ∧
      (¬h.Unaskable p userSelected → h'.AsksUser) ∧
      (h.Unaskable p userSelected → h' = h.markStarted) := by
  have hc := reachable.coherent
  have hlegacy : p.usesTofu = false := by
    rw [hc.mode p hp, unsupported, Bool.false_and, Bool.and_false]
  have hmarked := markStarted_pending hp
  refine ⟨_, start_of_legacy hp gated unsupported hlegacy userSelected, ?_⟩
  by_cases hnameless : userSelected = true ∧ p.network.ssid = ""
  · obtain ⟨rfl, hempty⟩ := hnameless
    have hbegun : h.beginApproval true = h.markStarted := by
      simp only [beginApproval, if_true]
      exact askForApproval_of_nameless hmarked hempty
    rw [hbegun]
    refine ⟨fun askable => ?_, fun _ => rfl⟩
    cases hactive : h.active with
    | none => exact absurd ⟨rfl, hempty, unsupported, hactive⟩ askable
    | some a =>
        have htoken : h.activeToken = some a.token := by simp [activeToken, hactive]
        obtain ⟨hawaits, _⟩ := hc.awaits htoken hp
        exact ⟨_, a, hmarked, rfl, hactive, hawaits.ssid_eq.symm, reachable.displays hactive⟩
  · have hnamed : userSelected = true → p.network.ssid ≠ "" := fun hselected hempty =>
      hnameless ⟨hselected, hempty⟩
    have hready : p.usesTofu = true → p.chain.leaf? ≠ none := by simp [hlegacy]
    obtain ⟨r, hasks, -, hbegun⟩ := beginApproval_asks hp hready hnamed
    rw [hbegun]
    refine ⟨fun _ => asksUser_prompted hmarked rfl hasks, fun unaskable => ?_⟩
    exact absurd unaskable.nameless (hnamed unaskable.selected)

end Gated

/-- When an attempt is dropped silently. A start that answers no has changed nothing. One that
answers yes leaves a connection waiting with a prompt about it on the screen, or none and one error
about it, exactly if the user could be asked; otherwise the connection waits and nobody is asked. -/
theorem start_is_answered_iff {h : Handler σ} (reachable : h.Reachable) (userSelected : Bool) :
    let h' := (h.start userSelected).2
    ((h.start userSelected).1 = false → h' = h) ∧
    ((h.start userSelected).1 = true → ∃ p, h.pending = some p ∧
      (h'.AsksUser ∨ h'.pending = none ∧
        h'.decisions = h.decisions ++ [.error (some p.network.ssid)] ↔
          ¬h.Unaskable p userSelected) ∧
      (h.Unaskable p userSelected → h' = h.markStarted)) := by
  by_cases hgated : ∃ p, h.pending = some p ∧ p.gated = true
  · obtain ⟨p, hp, gated⟩ := hgated
    cases hdevice : h.policy.trustOnFirstUseSupported with
    | true =>
        have askable : ¬h.Unaskable p userSelected := fun unaskable => by
          rw [unaskable.unsupported] at hdevice
          cases hdevice
        rcases reachable.coherent.start_of_supported hp gated hdevice userSelected with
          hstart | ⟨h', hstart, hanswered⟩
        · rw [hstart]
          exact ⟨fun _ => rfl, nofun⟩
        · rw [hstart]
          refine ⟨nofun, fun _ => ⟨p, hp, ?_, fun unaskable => absurd unaskable askable⟩⟩
          refine iff_of_true ?_ askable
          rcases hanswered with hasks | hgaveUp
          · exact .inl hasks
          · exact .inr ⟨hgaveUp.idle, hgaveUp.reported⟩
    | false =>
        obtain ⟨h', hstart, hasks, hdropped⟩ :=
          reachable.start_of_unsupported hp gated hdevice userSelected
        rw [hstart]
        refine ⟨nofun, fun _ => ⟨p, hp, ?_, hdropped⟩⟩
        refine ⟨fun hanswered unaskable => ?_, fun askable => ?_⟩
        · rw [hdropped unaskable] at hanswered
          rcases hanswered with ⟨_, _, _, _, hactive, _⟩ | ⟨hnone, _⟩
          · exact absurd (unaskable.blank.symm.trans hactive) (Option.some_ne_none _).symm
          · exact absurd (hnone.symm.trans (markStarted_pending hp)) (Option.some_ne_none _).symm
        · exact .inl (hasks askable)
  · have hfree : ∀ p, h.pending = some p → p.gated = false := fun p hp =>
      Bool.eq_false_iff.2 fun gated => hgated ⟨p, hp, gated⟩
    rw [start_of_free hfree userSelected]
    exact ⟨fun _ => rfl, nofun⟩

open Corporate in
/-- The corporate network without a name, on a device that cannot collect chains: a notification
asks about it, and nobody is asked once the user selects it. -/
theorem nameless_start_is_answered :
    let h : Handler MemoryStore := (fresh { trustOnFirstUseSupported := false }
      { clock := default } {} {} []).run [.prepare { network with ssid := "" }]
    h.Reachable ∧ (h.start false).1 = true ∧ (h.start false).2.AsksUser ∧
      (h.start true).1 = true ∧ ¬(h.start true).2.AsksUser := by
  intro h
  have reachable : h.Reachable := ⟨_, _, _, _, _, _, rfl⟩
  have nameless : ∀ p, h.pending = some p → p.network.ssid = "" := by
    intro p hp
    cases hp
    rfl
  refine ⟨reachable, rfl, ?_, rfl, ?_⟩
  · obtain ⟨p, hp, hanswered, -⟩ := (start_is_answered_iff reachable false).2 rfl
    refine (hanswered.2 fun unaskable => ?_).resolve_right fun hidle => ?_
    · cases unaskable.selected
    · cases hidle.1
  · intro hasks
    obtain ⟨p, hp, hanswered, -⟩ := (start_is_answered_iff reachable true).2 rfl
    exact hanswered.1 (.inl hasks) ⟨rfl, nameless p hp, rfl, rfl⟩

open Corporate in
/-- A start can leave a connection waiting, although there is neither a prompt nor a decision. -/
theorem start_can_drop_silently :
    ¬∀ (h : Handler MemoryStore) (userSelected : Bool), h.Reachable →
      (h.start userSelected).1 = true →
        ∃ p, h.pending = some p ∧
          ((h.start userSelected).2.AsksUser ∨ (h.start userSelected).2.pending = none ∧
            (h.start userSelected).2.decisions =
              h.decisions ++ [.error (some p.network.ssid)]) := by
  intro answered
  have reachable : ((fresh { trustOnFirstUseSupported := false }
      { clock := default } {} {} [] : Handler MemoryStore).run
        [.prepare { network with ssid := "" }]).Reachable := ⟨_, _, _, _, _, _, rfl⟩
  obtain ⟨_, _, ⟨_, _, _, _, hactive, _⟩ | ⟨hidle, _⟩⟩ := answered _ true reachable rfl
  · cases hactive
  · cases hidle

end Handler

end WifiTrust
