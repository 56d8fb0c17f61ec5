import WifiTrust.Proofs.Handler.Attempt
import WifiTrust.Proofs.Handler.InstalledTrust
import WifiTrust.Proofs.Handler.Settings

/-!
# What an attempt leaves in the store

On a device that collects chains, with a host that leaves the approval to the user, an attempt that
is not accepted leaves the trust of the store alone, and one that is accepted installs the chain
that was pending at that moment.
-/

namespace WifiTrust

/-- Neither does the operation turn to another network, nor does the host approve by it. -/
structure Operation.Unforced (op : Operation) : Prop where
  unprepared : ∀ n, op ≠ .prepare n
  unaccepted : ∀ ssid, op ≠ .accept ssid

namespace Handler

open MemoryStore

/-- A device that collects chains, with a store that takes what is approved. -/
structure Enrolling (h : Handler MemoryStore) : Prop where
  coherent : h.Coherent
  supported : h.policy.trustOnFirstUseSupported = true
  works : h.store.failCaUpdates = false

theorem Effect.enrolling {h h' : Handler MemoryStore} {op : Operation} (effect : Effect h op h')
    (he : h.Enrolling) : h'.Enrolling where
  coherent := effect.coherent he.coherent
  supported := by
    rw [effect.policy_eq]
    exact he.supported
  works := by
    rw [effect.sameSettings.failCaUpdates]
    exact he.works

theorem Enrolling.run {h : Handler MemoryStore} (he : h.Enrolling) (ops : List Operation) :
    (h.run ops).Enrolling := run_invariant Effect.enrolling he ops

theorem clock_run (h : Handler MemoryStore) (ops : List Operation) :
    (h.run ops).store.clock = h.store.clock := by
  have keeps {g g' : Handler MemoryStore} {op : Operation} (effect : Effect g op g')
      (hg : g.store.clock = h.store.clock) : g'.store.clock = h.store.clock :=
    effect.sameSettings.clock.trans hg
  exact run_invariant keeps rfl ops

theorem trustedCa_installedStore {s : MemoryStore} (works : s.failCaUpdates = false)
    (id : NetworkId) (root leaf : Certificate) (other : NetworkId) :
    ((installedStore s id root leaf).entry other).trustedCa =
      if other = id then some ⟨root, leaf, s.clock⟩ else (s.entry other).trustedCa := by
  rw [entry_installedStore, works]
  by_cases hid : other = id
  · simp [hid]
  · simp [hid]

inductive EnrolStep (h h' : Handler MemoryStore) : Prop
  | unaccepted (same : SameTrust h.store h'.store)
      (decided : ∀ d ∈ h'.decisions, d.isAccept = true → d ∈ h.decisions)
  | accepted {p : Pending} {root leaf : ChainEntry} (pending : h.pending = some p)
      (valid : p.chain.anchors = .ok (root, leaf)) (closed : h'.pending = none)
      (decided : .accept p.network.ssid ∈ h'.decisions)
      (same : SameTrust
        (installedStore h.store p.network.id root.certificate leaf.certificate) h'.store)

theorem EnrolStep.silent {h h' : Handler MemoryStore} (same : SameTrust h.store h'.store)
    (decisions : h'.decisions = h.decisions) : EnrolStep h h' :=
  .unaccepted same fun _ hd _ => decisions ▸ hd

theorem EnrolStep.closed {h h' : Handler MemoryStore} (same : SameTrust h.store h'.store)
    {d : Decision} (decisions : h'.decisions = h.decisions ++ [d]) (other : d.isAccept = false) :
    EnrolStep h h' := by
  refine .unaccepted same fun e he haccept => ?_
  rw [decisions] at he
  rcases List.mem_append.1 he with he | he
  · exact he
  · rw [List.mem_singleton.1 he, other] at haccept
    cases haccept

section Step

variable {h h' : Handler MemoryStore} {op : Operation}

theorem Enrolling.usesTofu (he : h.Enrolling) {p : Pending}
    (approval : Approves h p.network.ssid op) (hp : h.pending = some p) (unforced : op.Unforced) :
    p.usesTofu = true := by
  obtain ⟨token, huser, ⟨htofu, -⟩ | ⟨-, hlegacy⟩⟩ :=
    approval.byUser he.coherent hp unforced.unaccepted
  · exact htofu
  · obtain ⟨a, ha, rfl⟩ := activeToken_eq_some huser.active
    have hoffered := he.coherent.offered a ha
    rw [PromptKind.isLegacy_iff.2 hlegacy, he.supported] at hoffered
    cases hoffered

theorem Effect.enrolStep (effect : Effect h op h') (he : h.Enrolling) (unforced : op.Unforced) :
    EnrolStep h h' := by
  have hheld := sameTrust_heldStore h
  cases effect with
  | ignored => exact .silent (.refl h.store) rfl
  | prepared n => exact absurd rfl (unforced.unprepared n)
  | @collected _ _ _ _ p =>
      rw [received_eq]
      refine .silent ?_ rfl
      dsimp only
      split
      · exact .updateSelection h.store p.network.id .disabledByPolicy
      · exact .refl h.store
  | started _ _ _ _ shown =>
      rw [shown.frame]
      exact .silent (.refl h.store) rfl
  | broken =>
      rw [showInvalidChain_eq, error_eq]
      exact .closed hheld rfl rfl
  | reopened _ _ shown =>
      rw [shown.frame]
      exact .silent (.refl h.store) rfl
  | acknowledged =>
      rw [dismissPrompt_eq]
      exact .silent (.refl h.store) rfl
  | @installed _ p root leaf _ hp _ hvalid =>
      rw [installChain_eq, grant_eq]
      refine .accepted hp hvalid rfl (List.mem_append_right _ (List.mem_singleton_self _)) ?_
      exact (SameTrust.updateSelection _ p.network.id .enabled).trans (.allowAutojoin _ _ true)
  | @approved _ p approval hp hlegacy =>
      have htofu := he.usesTofu approval hp unforced
      rw [hlegacy] at htofu
      cases htofu
  | @refused _ p _ hp =>
      rw [refuse_eq h hp]
      exact .closed (hheld.trans (.allowAutojoin h.heldStore p.network.id false)) rfl rfl
  | failed =>
      rw [error_eq]
      exact .closed hheld rfl rfl
  | held =>
      rw [putOnHold_eq]
      exact .silent hheld rfl
  | cleaned =>
      rw [cleanup_eq]
      exact .silent (.refl h.store) rfl

end Step

inductive Enrols (h : Handler MemoryStore) (ops : List Operation) : Prop
  | unaccepted (decided : ∀ d ∈ (h.run ops).decisions, d.isAccept = true → d ∈ h.decisions)
      (kept : ∀ id, ((h.run ops).store.entry id).trustedCa = (h.store.entry id).trustedCa)
  | accepted {earlier : List Operation} {q : Pending} {root leaf : ChainEntry}
      (since : earlier <+: ops) (pending : (h.run earlier).pending = some q)
      (valid : q.chain.anchors = .ok (root, leaf))
      (decided : .accept q.network.ssid ∈ (h.run ops).decisions)
      (installed : ∀ id, ((h.run ops).store.entry id).trustedCa =
        if id = q.network.id then some ⟨root.certificate, leaf.certificate, h.store.clock⟩
        else (h.store.entry id).trustedCa)

/-- An acceptance ends the attempt, so what it installs is all that is installed. -/
theorem Enrolling.enrols {h : Handler MemoryStore} (he : h.Enrolling) {ops : List Operation}
    (unforced : ∀ op ∈ ops, op.Unforced) : Enrols h ops := by
  induction ops generalizing h with
  | nil => exact .unaccepted (fun _ hd _ => hd) fun _ => rfl
  | cons op ops ih =>
      obtain ⟨hop, hops⟩ := List.forall_mem_cons.1 unforced
      have effect := step_effect h op
      have hrest := ih (effect.enrolling he) hops
      cases effect.enrolStep he hop with
      | unaccepted same decided =>
          cases hrest with
          | unaccepted decided' kept =>
              refine .unaccepted (fun d hd ha => decided d (decided' d hd ha) ha) fun id => ?_
              exact (kept id).trans (same.trustedCa id)
          | accepted since hq valid decided' installed =>
              refine .accepted (List.cons_prefix_cons.2 ⟨rfl, since⟩) hq valid decided' ?_
              intro id
              rw [← same.trustedCa id, ← effect.sameSettings.clock]
              exact installed id
      | accepted hp valid closed decided same =>
          cases hrest with
          | unaccepted _ kept =>
              refine .accepted List.nil_prefix hp valid ?_ fun id => ?_
              · exact (run_decisions_extend (h.step op).2 ops).subset decided
              · rw [← trustedCa_installedStore he.works]
                exact (kept id).trans (same.trustedCa id)
          | @accepted earlier q _ _ since hq _ _ _ =>
              have hunprepared : ∀ o ∈ earlier, ∀ n, o ≠ .prepare n := fun o ho =>
                (hops o (since.subset ho)).unprepared
              have hnone := run_pending_eq_none closed hunprepared
              rw [hq] at hnone
              cases hnone

end Handler

end WifiTrust
