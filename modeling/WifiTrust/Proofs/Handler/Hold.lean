import WifiTrust.Proofs.Handler.Attempt
import WifiTrust.Proofs.Handler.LateCertificates
import WifiTrust.Proofs.Handler.Settings

namespace WifiTrust

/-- The user may be asked about the connection: a decision is needed, and either the server's
certificate has come or the device cannot collect any. -/
structure Pending.Deliberated (policy : Policy) (p : Pending) : Prop where
  gated : p.gated = true
  ready : policy.trustOnFirstUseSupported = false ∨ p.chain.get? 0 ≠ none

theorem Pending.opening_gated (policy : Policy) (n : Network) :
    (Pending.opening policy n).gated = Handler.requiresDecision policy n := by
  unfold Pending.opening
  split
  · next hneeded =>
      rw [hneeded]
      split
      · rfl
      · rfl
  · next hfree => exact (Bool.eq_false_iff.2 hfree).symm

theorem Pending.Deliberated.of_opening {policy : Policy} {n : Network}
    (h : (Pending.opening policy n).Deliberated policy) :
    Handler.requiresDecision policy n = true ∧ policy.trustOnFirstUseSupported = false := by
  refine ⟨(opening_gated policy n).symm.trans h.gated, h.ready.resolve_right fun hleaf => ?_⟩
  rw [opening_chain] at hleaf
  exact hleaf rfl

namespace MemoryStore

theorem selection_updateSelection {s : MemoryStore} (works : s.failSelectionUpdates = false)
    (id : NetworkId) (status : Selection) :
    ((NetworkStore.updateSelection s id status).2.entry id).selection = status := by
  rw [entry_updateSelection, if_pos ⟨rfl, works⟩]

theorem network?_of_disabled {s : MemoryStore} {id : NetworkId}
    (h : (s.entry id).selection = .disabledByPolicy) :
    (s.network? id).map (·.selection) = some .disabledByPolicy := by
  have hchanged : (s.entry id).selection ≠ .enabled := by
    rw [h]
    decide
  rw [network?_of_entry_ne (f := (·.selection)) hchanged, Option.map_some, h]

end MemoryStore

namespace Handler

/-- The selection of a network whose connection the user may be asked about is forbidden. -/
structure Holds (h : Handler MemoryStore) : Prop where
  works : h.store.failSelectionUpdates = false
  held : ∀ p, h.pending = some p → p.Deliberated h.policy →
    (h.store.entry p.network.id).selection = .disabledByPolicy

theorem Holds.of_idle {h : Handler MemoryStore} (works : h.store.failSelectionUpdates = false)
    (hnone : h.pending = none) : h.Holds where
  works := works
  held := fun p hp => by rw [hnone] at hp; cases hp

theorem Holds.prepared {h : Handler MemoryStore} (hh : h.Holds) (n : Network) :
    (h.prepare n).2.2.Holds := by
  rw [prepare_eq]
  constructor
  · dsimp only
    split
    · have same := MemoryStore.SameSettings.updateSelection h.store n.id .disabledByPolicy
      exact same.failSelectionUpdates.trans hh.works
    · exact hh.works
  · rintro _ ⟨⟩ hdeliberated
    obtain ⟨hneeded, hdevice⟩ := hdeliberated.of_opening
    dsimp only
    rw [hneeded, hdevice, Pending.opening_id]
    exact MemoryStore.selection_updateSelection hh.works n.id .disabledByPolicy

theorem Holds.received {h : Handler MemoryStore} (hh : h.Holds) {p : Pending}
    (hp : h.pending = some p) {depth : Int} (hdepth : 0 ≤ depth) {c : Certificate}
    {outcome : Chain.Outcome} {chain : Chain}
    (entered : p.chain.insert depth.toNat c = (.ok outcome, chain)) :
    (h.received p chain depth).Holds := by
  rw [received_eq]
  by_cases hserver : depth = 0
  · rw [if_pos hserver]
    constructor
    · have same := MemoryStore.SameSettings.updateSelection h.store p.network.id .disabledByPolicy
      exact same.failSelectionUpdates.trans hh.works
    · rintro _ ⟨⟩ _
      exact MemoryStore.selection_updateSelection hh.works p.network.id .disabledByPolicy
  · rw [if_neg hserver]
    refine ⟨hh.works, ?_⟩
    rintro _ ⟨⟩ hdeliberated
    have hleaf : chain.get? 0 = p.chain.get? 0 := by
      obtain ⟨entry, hentry, _⟩ := Chain.insert_eq_ok_iff.1 entered
      have hother : 0 ≠ depth.toNat := by omega
      rw [Chain.get?_of_insert entered hentry, if_neg hother]
    exact hh.held p hp ⟨hdeliberated.gated, hleaf ▸ hdeliberated.ready⟩

theorem Holds.onHold {h : Handler MemoryStore} (hh : h.Holds) (disconnect : Bool) :
    (h.putOnHold disconnect).Holds := by
  rw [putOnHold_eq]
  refine ⟨(sameSettings_heldStore h).failSelectionUpdates.trans hh.works, fun p hp _ => ?_⟩
  have hpending : h.pending = some p := hp
  dsimp only [heldStore]
  rw [hpending]
  exact MemoryStore.selection_updateSelection hh.works p.network.id .disabledByPolicy

theorem Effect.holds {h h' : Handler MemoryStore} {op : Operation} (effect : Effect h op h')
    (hh : h.Holds) : h'.Holds := by
  have hworks : h'.store.failSelectionUpdates = false :=
    effect.sameSettings.failSelectionUpdates.trans hh.works
  cases effect with
  | ignored => exact hh
  | prepared n => exact hh.prepared n
  | collected _ _ hdepth hp _ _ hentered => exact hh.received hp hdepth hentered
  | @started _ p _ hp _ _ _ shown =>
      rw [shown.frame, markStarted, hp]
      refine ⟨hh.works, ?_⟩
      rintro _ ⟨⟩ hdeliberated
      exact hh.held p hp ⟨hdeliberated.gated, hdeliberated.ready⟩
  | broken =>
      refine .of_idle hworks ?_
      rw [showInvalidChain_eq, error_eq]
      rfl
  | reopened _ _ shown =>
      rw [shown.frame]
      exact ⟨hh.works, hh.held⟩
  | acknowledged =>
      rw [dismissPrompt_eq]
      exact ⟨hh.works, hh.held⟩
  | installed => exact .of_idle hworks (by rw [installChain_eq, grant_eq])
  | approved => exact .of_idle hworks (by rw [grant_eq])
  | refused _ hp => exact .of_idle hworks (by rw [refuse_eq h hp])
  | failed => exact .of_idle hworks (by rw [error_eq])
  | held disconnect => exact hh.onHold disconnect
  | cleaned => exact .of_idle hworks (by rw [cleanup_eq])

section Calls

variable {σ : Type} [NetworkStore σ]

theorem Effect.calls_extend {h h' : Handler σ} {op : Operation} (effect : Effect h op h') :
    h.session.calls <+: h'.session.calls := by
  have hkept (hsession : h'.session = h.session) : h.session.calls <+: h'.session.calls := by
    exact hsession ▸ List.prefix_rfl
  cases effect with
  | ignored => exact List.prefix_rfl
  | prepared n =>
      rw [prepare_eq]
      dsimp only
      split
      · exact List.prefix_append _ _
      · exact List.prefix_rfl
  | collected =>
      rw [received_eq]
      dsimp only
      split
      · exact List.prefix_append _ _
      · exact List.prefix_rfl
  | started _ _ _ _ shown => exact hkept (by rw [shown.frame]; rfl)
  | broken => rw [showInvalidChain_eq, error_eq]; exact List.prefix_append _ _
  | reopened _ _ shown => exact hkept (by rw [shown.frame])
  | acknowledged => exact hkept (by rw [dismissPrompt_eq])
  | installed => exact hkept (by rw [installChain_eq, grant_eq])
  | approved => exact hkept (by rw [grant_eq])
  | refused _ hp => rw [refuse_eq h hp]; exact List.prefix_append _ _
  | failed => rw [error_eq]; exact List.prefix_append _ _
  | held => rw [putOnHold_eq]; exact List.prefix_append _ _
  | cleaned => exact hkept (by rw [cleanup_eq])

theorem run_calls_extend (h : Handler σ) (ops : List Operation) :
    h.session.calls <+: (h.run ops).session.calls :=
  run_invariant (P := fun g => h.session.calls <+: g.session.calls)
    (fun effect hg => hg.trans effect.calls_extend) List.prefix_rfl ops

theorem calls_of_delivered {h : Handler σ} {p : Pending} (hp : h.pending = some p)
    (tofu : p.usesTofu = true) (named : p.network.ssid ≠ "") {op : Operation}
    {server : ChainEntry} (delivered : op.delivered? p.network.ssid 0 = some server) :
    (h.step op).2.session.calls = h.session.calls ++
      [.disconnect h.policy.interfaceName, .removeCachedKeyMaterial p.network.id,
        .removeAllNetworks h.policy.interfaceName] := by
  obtain ⟨c, delivery, hentry⟩ := Operation.delivered?_eq_some_iff.1 delivered
  obtain ⟨outcome, chain, hentered⟩ := Chain.exists_insert p.chain 0 hentry
  have hcollect : h.collect p.network.ssid 0 c =
      some { h with pending := some { p with chain := chain } } :=
    collect_eq_some_iff.2 ⟨p, outcome, chain, named, Int.le_refl 0, hp, rfl, tofu, hentered, rfl⟩
  have hreceived : (h.step op).2 = h.received p chain 0 := by
    rw [step_of_delivery delivery]
    unfold addCertificate
    rw [show ((0 : Nat) : Int) = 0 from rfl, hcollect]
    rfl
  rw [hreceived, received_eq]
  rfl

theorem Attempt.calls_opened {ops : List Operation} (a : Attempt ops) (h : Handler σ)
    (needed : requiresDecision h.policy a.network = true) :
    (a.opened h).session.calls = (h.run a.before).session.calls ++
      [.removeCachedKeyMaterial a.network.id, .removeAllNetworks h.policy.interfaceName] := by
  unfold Attempt.opened
  rw [prepare_eq, run_policy, if_pos needed]

/-- The attempt has ended the association when its certificate for depth zero came. -/
theorem Attempt.calls_since_delivery {ops : List Operation} {a : Attempt ops} {h : Handler σ}
    {p : Pending} (made : (Pending.opening h.policy a.network).Grown a.since p)
    (hp : (h.run ops).pending = some p) (tofu : p.usesTofu = true) (named : p.network.ssid ≠ "")
    {earlier later : List Operation} {op : Operation} (split : a.since = earlier ++ op :: later)
    {server : ChainEntry} (delivered : op.delivered? a.network.ssid 0 = some server) :
    ((a.opened h).run earlier).session.calls ++
      [.disconnect h.policy.interfaceName, .removeCachedKeyMaterial p.network.id,
        .removeAllNetworks h.policy.interfaceName] <+: (h.run ops).session.calls := by
  obtain ⟨q, hq, hgrown⟩ := grown_between hp split
  rw [← ssid_eq made] at delivered
  rw [hgrown.network] at delivered named ⊢
  have hpolicy : ((a.opened h).run earlier).policy = h.policy := by
    rw [run_policy, a.opened_eq_run, run_policy]
  have hcalls := calls_of_delivered hq (hgrown.mode.symm.trans tofu) named delivered
  rw [hpolicy] at hcalls
  rw [← hcalls, a.run_eq, split, run_append]
  exact run_calls_extend _ later

end Calls

theorem exists_pending_of_state {σ : Type} {h : Handler σ}
    (waiting : h.state = .awaitingUserApproval) : ∃ p, h.pending = some p := by
  refine Option.ne_none_iff_exists'.1 fun hnone => ?_
  rw [state, hnone] at waiting
  cases waiting

theorem Coherent.deliberated {σ : Type} {h : Handler σ} (hc : h.Coherent) (asked : h.active ≠ none)
    {p : Pending} (hp : h.pending = some p) : p.Deliberated h.policy := by
  obtain ⟨a, ha⟩ := Option.ne_none_iff_exists'.1 asked
  have hactive : h.activeToken = some a.token := by
    rw [activeToken, ha]
    rfl
  obtain ⟨hawaits, _⟩ := hc.awaits hactive hp
  refine ⟨hawaits.gated, ?_⟩
  cases htofu : p.usesTofu with
  | true => exact .inr (hawaits.leaf htofu)
  | false =>
      have hmode := hawaits.mode
      rw [htofu, hc.offered a ha, Bool.not_not] at hmode
      exact .inl hmode.symm

/-- Held while deliberating. If no selection update fails, the network of a connection that the
user may be asked about, in particular of one with a prompt on the screen, cannot be selected. Since
the preparation of its attempt the keys have been flushed, and since the first certificate for depth
zero, if one has come, the association has been ended and the keys have been flushed again. -/
theorem held_while_deliberating (policy : Policy) {store : MemoryStore}
    (works : store.failSelectionUpdates = false) (session : NativeSession) (board : PromptBoard)
    (decisions : List Decision) (ops : List Operation) :
    let h₀ := fresh policy store session board decisions
    let h := h₀.run ops
    let flush (id : NetworkId) : List NativeCall :=
      [.removeCachedKeyMaterial id, .removeAllNetworks policy.interfaceName]
    (∀ p, h.pending = some p → p.gated = true →
      policy.trustOnFirstUseSupported = false ∨ p.chain.get? 0 ≠ none →
      (h.store.network? p.network.id).map (·.selection) = some .disabledByPolicy ∧
      ∃ a : Attempt ops, p.network.id = a.network.id ∧
        (h₀.run a.before).session.calls ++ flush p.network.id <+: h.session.calls ∧
        ∀ server, p.chain.get? 0 = some server →
          ∃ earlier op later, a.since = earlier ++ op :: later ∧
            op.delivered? p.network.ssid 0 = some server ∧
            (∀ o ∈ earlier, o.delivered? p.network.ssid 0 = none) ∧
            ((a.opened h₀).run earlier).session.calls ++
              .disconnect policy.interfaceName :: flush p.network.id <+: h.session.calls) ∧
    (h.state = .awaitingUserApproval → h.active ≠ none → ∃ p, h.pending = some p ∧
      p.gated = true ∧ (policy.trustOnFirstUseSupported = false ∨ p.chain.get? 0 ≠ none)) := by
  intro h₀ h flush
  have hc : h.Coherent := (coherent_fresh policy store session board decisions).run ops
  have hpolicy : h.policy = policy := run_policy h₀ ops
  have hstart : h₀.Holds := .of_idle works rfl
  have hholds : h.Holds := run_invariant Effect.holds hstart ops
  constructor
  · intro p hp gated ready
    have hdisabled := hholds.held p hp ⟨gated, hpolicy ▸ ready⟩
    obtain ⟨a, made⟩ := Attempt.exists_of_pending (h := h₀) rfl hp
    refine ⟨MemoryStore.network?_of_disabled hdisabled, a, Attempt.id_eq made, ?_, ?_⟩
    · have needed : requiresDecision policy a.network = true := by
        rw [← Pending.opening_gated]
        exact made.gated.symm.trans gated
      have hextend : (a.opened h₀).session.calls <+: h.session.calls := by
        rw [show h = (a.opened h₀).run a.since from a.run_eq h₀]
        exact run_calls_extend (a.opened h₀) a.since
      rw [a.calls_opened h₀ needed, ← Attempt.id_eq made] at hextend
      exact hextend
    · intro server hserver
      have named : p.network.ssid ≠ "" := hc.ssid_ne_empty hp hserver
      have htofu : p.usesTofu = true := Attempt.usesTofu_of_get? made hserver
      have hfirst := (Attempt.get?_chain made htofu named 0).symm.trans hserver
      rw [Attempt.ssid_eq made]
      obtain ⟨earlier, op, later, split, hdelivered, hbefore⟩ :=
        List.findSome?_eq_some_iff.1 hfirst
      refine ⟨earlier, op, later, split, hdelivered, hbefore, ?_⟩
      exact Attempt.calls_since_delivery made hp htofu named split hdelivered
  · intro waiting asked
    obtain ⟨p, hp⟩ := exists_pending_of_state waiting
    have hdeliberated := hc.deliberated asked hp
    exact ⟨p, hp, hdeliberated.gated, hpolicy ▸ hdeliberated.ready⟩

open Corporate in
theorem corporate_network_held_while_deliberating :
    let store : MemoryStore := { clock := default }
    let h₀ : Handler MemoryStore := fresh {} store {} {} []
    let ops := collection ++ [.start true, .reply (token .tofuDialog) .accept, .prepare network,
      .setCertificate "corp" leaf]
    let h := h₀.run ops
    store.failSelectionUpdates = false ∧
      (h.store.network? 7).map (·.selection) = some .disabledByPolicy ∧
      ∃ (a : Attempt ops) (earlier : List Operation),
        ((a.opened h₀).run earlier).session.calls ++ [.disconnect "wlan0",
          .removeCachedKeyMaterial 7, .removeAllNetworks "wlan0"] <+: h.session.calls := by
  intro store h₀ ops h
  have works : store.failSelectionUpdates = false := rfl
  let p : Pending :=
    { network := network.stripCredentials
      gated := true
      usesTofu := true
      chain := Chain.empty.put leafEntry }
  have pending : h.pending = some p := by rfl
  have ready : p.chain.get? 0 ≠ none := Option.some_ne_none leafEntry
  obtain ⟨hheld, _⟩ := held_while_deliberating {} works {} {} [] ops
  obtain ⟨hdisabled, a, _, _, hserver⟩ := hheld p pending rfl (.inr ready)
  obtain ⟨earlier, _, _, _, _, _, hcalls⟩ := hserver leafEntry rfl
  refine ⟨works, hdisabled, a, earlier, ?_⟩
  dsimp only [h, h₀]
  exact hcalls

end Handler

end WifiTrust
