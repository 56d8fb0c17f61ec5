import WifiTrust.Proofs.Handler.InstalledTrust
import WifiTrust.Proofs.Handler.Resolution
import WifiTrust.Proofs.Handler.Screen

/-!
# Verdicts

A verdict approves or refuses. The user can give one only while an attempt waits for the user. A
host that calls the connection by its name can give one at any time, and that is the only other way.
-/

namespace WifiTrust.Handler

variable {σ : Type}

/-- The host approves or refuses the pending connection by its name, and a chain that it approves is
valid. -/
def HostResolves (h : Handler σ) (op : Operation) : Prop :=
  ∃ p, h.pending = some p ∧ p.network.ssid ≠ "" ∧
    (op = .reject p.network.ssid ∨
      op = .accept p.network.ssid ∧ (p.usesTofu = true → p.chain.validate = .ok ()))

section Host

variable {h : Handler σ} {p : Pending} {op : Operation}

/-- A pending connection that nobody is asked to approve has no prompt on the screen. -/
theorem Coherent.inactive_of_unawaited (hc : h.Coherent) (hp : h.pending = some p)
    (unawaited : h.state ≠ .awaitingUserApproval) (token : PromptToken) :
    h.activeToken ≠ some token := by
  intro active
  obtain ⟨hawaits, -⟩ := hc.awaits active hp
  have hstate : h.state = .awaitingUserApproval := by
    simp [state, hp, hawaits.gated, hawaits.started]
  exact unawaited hstate

theorem Approves.byHost (approval : Approves h p.network.ssid op) (hc : h.Coherent)
    (hp : h.pending = some p) (unawaited : h.state ≠ .awaitingUserApproval) :
    op = .accept p.network.ssid := by
  cases approval with
  | host => rfl
  | user active => exact absurd active (hc.inactive_of_unawaited hp unawaited _)

theorem Refuses.byHost (refusal : Refuses h p.network.ssid op) (hc : h.Coherent)
    (hp : h.pending = some p) (unawaited : h.state ≠ .awaitingUserApproval) :
    op = .reject p.network.ssid := by
  cases refusal with
  | host => rfl
  | user active => exact absurd active (hc.inactive_of_unawaited hp unawaited _)

end Host

structure Clears (h : Handler σ) (ds : List Decision) (h' : Handler σ) : Prop where
  blank : h'.active = none
  decided : h'.decisions = h.decisions ++ ds
  shown : h'.board.requests = h.board.requests

theorem Clears.refl {h : Handler σ} (blank : h.active = none) : h.Clears [] h :=
  ⟨blank, (List.append_nil _).symm, rfl⟩

theorem clears_dismissPrompt (h : Handler σ) : h.Clears [] h.dismissPrompt := by
  rw [dismissPrompt_eq]
  exact ⟨rfl, (List.append_nil _).symm, requests_clearedBoard h⟩

variable [NetworkStore σ]

theorem Effect.verdict {h h' : Handler σ} {op : Operation} (effect : Effect h op h') {d : Decision}
    (verdict : d.isVerdict = true) (decided : h'.decisions = h.decisions ++ [d]) :
    ∃ p, h.pending = some p ∧
      (Approves h p.network.ssid op ∧ (p.usesTofu = true → p.chain.validate = .ok ()) ∨
        Refuses h p.network.ssid op) := by
  have undecided : h'.decisions ≠ h.decisions := by simp [decided]
  have unfailed : ∀ ssid, h'.decisions ≠ h.decisions ++ [.error ssid] := by
    intro ssid hfailed
    have hlast := List.append_cancel_left (hfailed.symm.trans decided)
    cases hlast
    cases verdict
  cases effect with
  | ignored => exact absurd rfl undecided
  | prepared n => exact absurd (by rw [prepare_eq]) undecided
  | collected => exact absurd (by rw [received_eq]) undecided
  | started _ _ _ _ shown => exact absurd (by rw [shown.frame]; rfl) undecided
  | broken => exact absurd (by rw [showInvalidChain_eq, error_eq]; rfl) (unfailed _)
  | reopened _ _ shown => exact absurd (by rw [shown.frame]) undecided
  | acknowledged => exact absurd (by rw [dismissPrompt_eq]) undecided
  | @installed _ p root leaf approval hp _ hanchors =>
      have hvalid := Chain.validate_eq_ok_iff.2 ⟨root, leaf, hanchors⟩
      exact ⟨p, hp, .inl ⟨approval, fun _ => hvalid⟩⟩
  | @approved _ p approval hp hlegacy => exact ⟨p, hp, .inl ⟨approval, by simp [hlegacy]⟩⟩
  | @refused _ p refusal hp => exact ⟨p, hp, .inr refusal⟩
  | failed => exact absurd (by rw [error_eq]) (unfailed _)
  | held => exact absurd (by rw [putOnHold_eq]) undecided
  | cleaned => exact absurd (by rw [cleanup_eq]) undecided

theorem resolving_nameless (h : Handler σ) (act : Pending → Handler σ) :
    h.resolving "" act = h.error none := by
  unfold resolving
  cases h.pending with
  | none => rfl
  | some p => rfl

theorem reject_of_pending {h : Handler σ} {p : Pending} (hp : h.pending = some p)
    (named : p.network.ssid ≠ "") : h.reject p.network.ssid = h.refuse p p.network.ssid := by
  simp [reject, resolving, hp, named]

theorem clears_approve (h : Handler σ) {p : Pending}
    (ready : p.usesTofu = true → p.chain.validate = .ok ()) (ssid : String) :
    h.Clears [.accept ssid] (h.approve p ssid) := by
  cases htofu : p.usesTofu with
  | true =>
      obtain ⟨root, leaf, hanchors⟩ := Chain.validate_eq_ok_iff.1 (ready htofu)
      simp only [approve, htofu, if_true, hanchors, grant_eq, installChain_eq]
      exact ⟨rfl, rfl, requests_clearedBoard h⟩
  | false =>
      simp only [approve, htofu, if_false, Bool.false_eq_true, grant_eq]
      exact ⟨rfl, rfl, requests_clearedBoard h⟩

theorem clears_refuse {h : Handler σ} {p : Pending} (hp : h.pending = some p) (ssid : String) :
    h.Clears [.reject ssid] (h.refuse p ssid) := by
  rw [refuse_eq h hp]
  exact ⟨rfl, rfl, requests_clearedBoard h⟩

theorem clears_error (h : Handler σ) (ssid : Option String) :
    h.Clears [.error ssid] (h.error ssid) := by
  rw [error_eq]
  exact ⟨rfl, rfl, requests_clearedBoard h⟩

theorem HostResolves.verdict {h : Handler σ} {op : Operation} (resolves : h.HostResolves op) :
    ∃ d, d.isVerdict = true ∧ (h.step op).2.decisions = h.decisions ++ [d] := by
  obtain ⟨p, hp, named, rfl | ⟨rfl, ready⟩⟩ := resolves
  · refine ⟨.reject p.network.ssid, rfl, ?_⟩
    change (h.reject p.network.ssid).decisions = _
    rw [reject_of_pending hp named]
    exact (clears_refuse hp p.network.ssid).decided
  · refine ⟨.accept p.network.ssid, rfl, ?_⟩
    change (h.accept p.network.ssid).decisions = _
    rw [accept_of_pending hp named]
    exact (clears_approve h ready p.network.ssid).decided

theorem Coherent.hostResolves {h : Handler σ} (hc : h.Coherent)
    (unawaited : h.state ≠ .awaitingUserApproval) {op : Operation} {d : Decision}
    (verdict : d.isVerdict = true) (decided : (h.step op).2.decisions = h.decisions ++ [d]) :
    h.HostResolves op := by
  obtain ⟨p, hp, hresolution⟩ := (step_effect h op).verdict verdict decided
  have hop : op = .reject p.network.ssid ∨
      op = .accept p.network.ssid ∧ (p.usesTofu = true → p.chain.validate = .ok ()) := by
    rcases hresolution with ⟨happroval, hready⟩ | hrefusal
    · exact .inr ⟨happroval.byHost hc hp unawaited, hready⟩
    · exact .inl (hrefusal.byHost hc hp unawaited)
  refine ⟨p, hp, fun nameless => ?_, hop⟩
  have hlost : (h.step op).2 = h.error none := by
    rw [nameless] at hop
    rcases hop with rfl | ⟨rfl, -⟩
    · exact resolving_nameless h _
    · exact resolving_nameless h _
  rw [hlost, error_eq] at decided
  have hlast := List.append_cancel_left decided
  cases hlast
  cases verdict

/-- Who can give a verdict that nobody waits for. In a state that does not await the approval of the
user, an operation approves or refuses exactly if the host resolves the pending connection by its
name. What is trusted changes only by the host's approval, and for the pending network alone. -/
theorem unawaited_verdict_iff {h : Handler MemoryStore} (reachable : h.Reachable)
    (unawaited : h.state ≠ .awaitingUserApproval) (op : Operation) :
    let h' := (h.step op).2
    ((∃ d, d.isVerdict = true ∧ h'.decisions = h.decisions ++ [d]) ↔ h.HostResolves op) ∧
    ∀ id, (h'.store.entry id).trustedCa ≠ (h.store.entry id).trustedCa ∨
        (h.store.entry id).approvedWithoutCa = false ∧
          (h'.store.entry id).approvedWithoutCa = true →
      ∃ p, h.pending = some p ∧ p.network.id = id ∧ op = .accept p.network.ssid := by
  intro h'
  have hc := reachable.coherent
  have hstep : TrustStep h op h'.store := (step_effect h op).trustStep
  refine ⟨⟨?_, HostResolves.verdict⟩, fun id changed => ?_⟩
  · rintro ⟨d, verdict, decided⟩
    exact hc.hostResolves unawaited verdict decided
  · rcases changed with hinstalled | ⟨hbefore, hafter⟩
    · obtain ⟨p, _, _, happroval, hp, hid, -⟩ := hstep.trustedCa hinstalled
      exact ⟨p, hp, hid, happroval.byHost hc hp unawaited⟩
    · obtain ⟨p, happroval, hp, hid, -⟩ := hstep.approvedWithoutCa hbefore hafter
      exact ⟨p, hp, hid, happroval.byHost hc hp unawaited⟩

open Corporate in
theorem corporate_unawaited_verdict :
    let h : Handler MemoryStore := (fresh {} { clock := default } {} {} []).run collection
    h.Reachable ∧ h.state ≠ .awaitingUserApproval ∧ h.HostResolves (.accept "corp") ∧
      ¬h.HostResolves (.accept "home") ∧ ∃ p, h.pending = some p ∧ p.network.id = 7 := by
  intro h
  have reachable : h.Reachable := ⟨_, _, _, _, _, _, rfl⟩
  have unawaited : h.state ≠ .awaitingUserApproval := by decide
  obtain ⟨hverdict, htrust⟩ := unawaited_verdict_iff reachable unawaited (.accept "corp")
  obtain ⟨hother, -⟩ := unawaited_verdict_iff reachable unawaited (.accept "home")
  obtain ⟨p, hp, hid, -⟩ := htrust 7 (.inl (Option.some_ne_none _))
  refine ⟨reachable, unawaited, hverdict.1 ⟨.accept "corp", rfl, rfl⟩, fun resolves => ?_,
    p, hp, hid⟩
  obtain ⟨d, -, hdecided⟩ := hother.2 resolves
  cases hdecided

/-- A network that needs no decision can be approved by name, and is marked as approved. -/
theorem verdict_without_approval :
    (¬∀ (h : Handler MemoryStore) (op : Operation), h.Reachable →
      h.state ≠ .awaitingUserApproval → ∀ d, d.isVerdict = true →
        (h.step op).2.decisions ≠ h.decisions ++ [d]) ∧
    ¬∀ (h : Handler MemoryStore) (op : Operation), h.Reachable →
      h.state ≠ .awaitingUserApproval → ∀ id, (h.store.entry id).approvedWithoutCa = false →
        ((h.step op).2.store.entry id).approvedWithoutCa = false := by
  have reachable : ((fresh {} { clock := default } {} {} [] : Handler MemoryStore).run
      [.prepare { id := 1, ssid := "home" }]).Reachable := ⟨_, _, _, _, _, _, rfl⟩
  constructor
  · intro silent
    exact silent _ (.accept "home") reachable (by decide) (.accept "home") rfl rfl
  · intro unmarked
    have hmark := unmarked _ (.accept "home") reachable (by decide) 1 rfl
    cases hmark

end WifiTrust.Handler
