import WifiTrust.Proofs.Handler.Attempt
import WifiTrust.Proofs.Handler.Starting

namespace WifiTrust

/-- There are no credentials that a handshake could send. -/
def Network.Bare (n : Network) : Prop :=
  ∀ e, n.enterprise = some e → e.identity = "" ∧ e.password = ""

theorem Network.bare_stripCredentials {n : Network} {e : Enterprise} (he : n.enterprise = some e)
    (carries : e.carriesCredentials = true) : n.stripCredentials.Bare := by
  intro stripped hstripped
  simp only [stripCredentials, he, Option.map_some, Option.some.injEq] at hstripped
  subst hstripped
  simp [Enterprise.stripCredentials, carries]

namespace Handler

variable {σ : Type} [NetworkStore σ]

theorem network_of_gated {h : Handler σ} {n : Network} (gated : (h.prepare n).1 = .gated) :
    (h.prepare n).2.1 = if n.trustsOnFirstUse then n.stripCredentials else n := by
  obtain ⟨hneeded, hsupported⟩ := (gated_iff h n).1 gated
  rw [prepare_network, Pending.opening, if_pos hneeded, hsupported, Bool.true_and]
  split
  · rfl
  · rfl

theorem opening_gated_of_gated {h : Handler σ} {n : Network} (gated : (h.prepare n).1 = .gated) :
    (Pending.opening h.policy n).gated = true := by
  obtain ⟨hneeded, -⟩ := (gated_iff h n).1 gated
  rw [Pending.opening, if_pos hneeded]
  split
  · rfl
  · rfl

/-- What the handshake of a gated network has to send, on a device that collects chains and forbids
networks without an authority. The pending network is the one that is handed back, and it is the
same until the next preparation. It is without credentials exactly if the network is to be trusted
on first use or had none before. A network that is not to be trusted on first use is as it was
given, and whenever its approval is started, the attempt ends with an error. -/
theorem gated_network_bare_iff (h : Handler σ) {n : Network} {e : Enterprise}
    (supported : h.policy.trustOnFirstUseSupported = true)
    (forbidden : h.policy.insecureEnterpriseAllowed = false)
    (enterprise : n.enterprise = some e) (carries : e.carriesCredentials = true)
    (gated : (h.prepare n).1 = .gated) :
    let n' := (h.prepare n).2.1
    let h' := (h.prepare n).2.2
    h'.pending.map (·.network) = some n' ∧
      (n'.Bare ↔ n.trustsOnFirstUse = true ∨ n.Bare) ∧
      (n.trustsOnFirstUse = false → n' = n) ∧
      ∀ ops, (∀ op ∈ ops, ∀ m, op ≠ .prepare m) → ∀ p, (h'.run ops).pending = some p →
        p.network = n' ∧ (n.trustsOnFirstUse = false → ∀ userSelected,
          (h'.run ops).start userSelected = (true, (h'.run ops).error (some n.ssid))) := by
  intro n' h'
  have hnetwork : n' = if n.trustsOnFirstUse then n.stripCredentials else n :=
    network_of_gated gated
  have hkept : n.trustsOnFirstUse = false → n' = n := by
    intro off
    rw [hnetwork, off, if_neg Bool.false_ne_true]
  have hopened : h'.pending = some (.opening h.policy n) :=
    congrArg Handler.pending (prepare_eq h n)
  have hopening : (Pending.opening h.policy n).network = n' := (prepare_network h n).symm
  refine ⟨?_, ?_, hkept, fun ops latest p hp => ?_⟩
  · rw [hopened, Option.map_some, hopening]
  · cases hon : n.trustsOnFirstUse with
    | true =>
        rw [hnetwork, if_pos hon]
        exact iff_of_true (Network.bare_stripCredentials enterprise carries) (.inl rfl)
    | false => simp [hkept hon]
  · have hgrown : (Pending.opening h.policy n).Grown ops p := run_grown latest hopened hp
    have hpending : p.network = n' := hgrown.network.trans hopening
    refine ⟨hpending, fun off userSelected => ?_⟩
    have hsame : p.network = n := hpending.trans (hkept off)
    have hpolicy : (h'.run ops).policy = h.policy := run_policy h (.prepare n :: ops)
    have hgated : p.gated = true := hgrown.gated.trans (opening_gated_of_gated gated)
    rw [← hsame]
    exact start_of_barred hp hgated (hpolicy ▸ supported) (hpolicy ▸ forbidden) (hsame ▸ off) _

end Handler

namespace Corporate

def untrusting : Network :=
  { network with enterprise := network.enterprise.map ({ · with trustOnFirstUse := false }) }

theorem untrusting_not_bare : ¬untrusting.Bare := by
  intro bare
  exact absurd (bare _ rfl).1 (by decide)

end Corporate

namespace Handler

open Corporate

/-- The corporate network loses its credentials and stays without them while its chain is collected.
Where it is not to be trusted on first use, it keeps them until its approval fails. -/
theorem corporate_network_bare :
    let h : Handler MemoryStore := fresh {} { clock := default } {} {} []
    (h.prepare network).1 = .gated ∧ (h.prepare network).2.1.Bare ∧
      (h.run collection).pending.map (·.network) = some (h.prepare network).2.1 ∧
      (h.prepare untrusting).1 = .gated ∧ ¬(h.prepare untrusting).2.1.Bare ∧
      ((h.prepare untrusting).2.2.start true).2.decisions = [.error (some "corp")] := by
  intro h
  obtain ⟨-, hbare, -, hattempt⟩ := gated_network_bare_iff h (n := network) rfl rfl rfl rfl rfl
  obtain ⟨-, huntrusting, -, hended⟩ :=
    gated_network_bare_iff h (n := untrusting) rfl rfl rfl rfl rfl
  have hcollected := hattempt [.addCertificate "corp" 0 leaf, .addCertificate "corp" 1 root]
    (by simp) _ rfl
  refine ⟨rfl, hbare.2 (.inl rfl), congrArg some hcollected.1, rfl, fun bare => ?_, ?_⟩
  · exact (huntrusting.1 bare).elim nofun untrusting_not_bare
  · have hstart := (hended [] (List.forall_mem_nil _) _ rfl).2 rfl true
    exact congrArg (fun answered => answered.2.decisions) hstart

theorem gated_network_can_keep_credentials :
    ¬∀ (h : Handler MemoryStore) (n : Network) (e : Enterprise),
      h.policy.trustOnFirstUseSupported = true → h.policy.insecureEnterpriseAllowed = false →
      n.enterprise = some e → e.carriesCredentials = true → (h.prepare n).1 = .gated →
        (h.prepare n).2.1.Bare ∧ ∀ p, (h.prepare n).2.2.pending = some p → p.network.Bare := by
  intro bare
  have hbare := bare (fresh {} { clock := default } {} {} []) untrusting _ rfl rfl rfl rfl rfl
  exact untrusting_not_bare hbare.1

end Handler

end WifiTrust
