import Mathlib.Logic.Relation
import WifiTrust.Proofs.Handler.InstalledTrust
import WifiTrust.Proofs.Handler.Screen
import WifiTrust.Proofs.Handler.Settings
import WifiTrust.Proofs.Network
import WifiTrust.Proofs.Store.Applied
import WifiTrust.Proofs.Store.Reload

/-!
# Approvals last

A chain that is installed for a network stays installed through everything that handlers do and
through every saving and loading of the store. The network connects without a decision from then on,
once the store has been applied to it.
-/

namespace WifiTrust

open Relation (ReflTransGen)

namespace Handler

open MemoryStore
open Script (World)

section Passing

variable {σ : Type} [NetworkStore σ]

/-- A network is prepared without a decision, and only the prompt of the attempt before goes off the
screen: the network is handed back as it is, and the store and the supplicant are left alone. -/
structure Passes (h : Handler σ) (n : Network) : Prop where
  answer : (h.prepare n).1 = .notRequired
  network : (h.prepare n).2.1 = n
  store : (h.prepare n).2.2.store = h.store
  session : (h.prepare n).2.2.session = h.session
  requests : (h.prepare n).2.2.board.requests = h.board.requests
  screen : (h.prepare n).2.2.active = none

theorem notRequired_iff (h : Handler σ) (n : Network) :
    (h.prepare n).1 = .notRequired ↔ requiresDecision h.policy n = false := by
  rw [prepare_preparation]
  cases requiresDecision h.policy n with
  | false => simp
  | true =>
      cases h.policy.trustOnFirstUseSupported with
      | false => simp
      | true => simp

theorem Passes.of_notRequired {h : Handler σ} {n : Network}
    (answer : (h.prepare n).1 = .notRequired) : h.Passes n := by
  have hfree : requiresDecision h.policy n = false := (notRequired_iff h n).1 answer
  have hopening : Pending.opening h.policy n =
      { network := n, gated := false, usesTofu := false } := by
    unfold Pending.opening
    rw [hfree]
    rfl
  constructor
  · exact answer
  · rw [prepare_network, hopening]
  · rw [prepare_eq, hfree]
    rfl
  · rw [prepare_eq, hfree]
    rfl
  · rw [prepare_eq]
    exact requests_clearedBoard h
  · rw [prepare_eq]

theorem Passes.of_secure {h : Handler σ} {n : Network} (secure : n.insecureEnterprise = none) :
    h.Passes n := by
  apply Passes.of_notRequired
  rw [notRequired_iff, requiresDecision, secure]

end Passing

/-- Where an approval without an authority counts. -/
theorem requiresDecision_of_approved {policy : Policy} {n : Network}
    (approved : ∀ e, n.enterprise = some e → e.approvedWithoutCa = true) :
    requiresDecision policy n = false ↔
      policy.trustOnFirstUseSupported = false ∨
        n.trustsOnFirstUse = false ∧ policy.insecureEnterpriseAllowed = true ∨
          n.insecureEnterprise = none := by
  unfold requiresDecision
  cases hinsecure : n.insecureEnterprise with
  | none => simp
  | some e =>
      obtain ⟨henterprise, -⟩ := Network.insecureEnterprise_eq_some_iff.1 hinsecure
      have htofu := Network.trustsOnFirstUse_of_some henterprise
      cases hsupported : policy.trustOnFirstUseSupported with
      | false => simp [approved e henterprise]
      | true => simp [approved e henterprise, htofu]

/-- What becomes of a handler and its store: an operation, a handler that takes over, or a handler
on the store as it is loaded from the file that it was saved in, which nobody else has written. -/
inductive Continues : Handler MemoryStore → Handler MemoryStore → Prop
  | operated (h : Handler MemoryStore) (op : Operation) : Continues h (h.step op).2
  | handedOver (h : Handler MemoryStore) (policy : Policy) : Continues h (h.successor policy)
  | reloaded {h : Handler MemoryStore} {p : Path} {clock : Timestamp} {store : MemoryStore}
      {w w₁ w₂ w₃ : World} (time : clock.IsValid)
      (saved : (h.store.save p).perform w = (.ok (), w₁))
      (untouched : w₂.files.read p = w₁.files.read p)
      (loaded : (MemoryStore.load clock p).perform w₂ = (.ok store, w₃))
      (policy : Policy) (session : NativeSession) (board : PromptBoard)
      (decisions : List Decision) : Continues h (fresh policy store session board decisions)

section Lifetime

variable {h h' : Handler MemoryStore}

/-- A chain can be replaced by an operation, and it cannot be removed. -/
theorem Effect.trustedCa_kept_or_installed {op : Operation} (effect : Effect h op h')
    (id : NetworkId) : (h'.store.entry id).trustedCa = (h.store.entry id).trustedCa ∨
      ∃ root leaf, (h'.store.entry id).trustedCa = some ⟨root, leaf, h.store.clock⟩ := by
  by_cases same : (h'.store.entry id).trustedCa = (h.store.entry id).trustedCa
  · exact .inl same
  · obtain ⟨_, root, leaf, _, _, _, _, _, hinstalled⟩ := effect.trustStep.trustedCa same
    exact .inr ⟨root.certificate, leaf.certificate, hinstalled⟩

theorem Effect.timely {op : Operation} (effect : Effect h op h') (timely : h.store.Timely) :
    h'.store.Timely where
  clock := by
    rw [effect.sameSettings.clock]
    exact timely.clock
  stored := by
    intro id ca hca
    rcases effect.trustedCa_kept_or_installed id with hkept | ⟨root, leaf, hinstalled⟩
    · rw [hkept] at hca
      exact timely.stored id ca hca
    · rw [hinstalled] at hca
      cases hca
      exact timely.clock

theorem Effect.trusted {op : Operation} (effect : Effect h op h') {id : NetworkId}
    (trusted : (h.store.entry id).trustedCa ≠ none) : (h'.store.entry id).trustedCa ≠ none := by
  rcases effect.trustedCa_kept_or_installed id with hkept | ⟨root, leaf, hinstalled⟩
  · rw [hkept]
    exact trusted
  · rw [hinstalled]
    exact Option.some_ne_none _

theorem Continues.timely (step : Continues h h') (timely : h.store.Timely) : h'.store.Timely := by
  cases step with
  | operated op => exact (step_effect h op).timely timely
  | handedOver => exact timely
  | reloaded time saved untouched loaded =>
      rw [load_of_save timely saved untouched loaded]
      exact ⟨time, timely.stored⟩

theorem Continues.trusted (step : Continues h h') (timely : h.store.Timely) {id : NetworkId}
    (trusted : (h.store.entry id).trustedCa ≠ none) : (h'.store.entry id).trustedCa ≠ none := by
  cases step with
  | operated op => exact (step_effect h op).trusted trusted
  | handedOver => exact trusted
  | reloaded _ saved untouched loaded =>
      rw [load_of_save timely saved untouched loaded]
      exact trusted

theorem timely_of_lifetime (lifetime : ReflTransGen Continues h h') (timely : h.store.Timely) :
    h'.store.Timely := by
  induction lifetime with
  | refl => exact timely
  | tail _ step ih => exact step.timely ih

theorem trusted_of_lifetime (lifetime : ReflTransGen Continues h h') (timely : h.store.Timely)
    {id : NetworkId} (trusted : (h.store.entry id).trustedCa ≠ none) :
    (h'.store.entry id).trustedCa ≠ none := by
  induction lifetime with
  | refl => exact trusted
  | tail earlier step ih => exact step.trusted (timely_of_lifetime earlier timely) ih

theorem Continues.reload (timely : h.store.Timely) {clock : Timestamp} (time : clock.IsValid)
    (policy : Policy) (session : NativeSession) (board : PromptBoard)
    (decisions : List Decision) :
    Continues h
      (fresh policy { h.store.reloaded with clock := clock } session board decisions) := by
  obtain ⟨w, saved⟩ : ∃ w,
      (h.store.save ⟨"networks.json"⟩).perform { files := {} } = (.ok (), w) := ⟨_, rfl⟩
  have loaded := load_of_savedAt timely (savedAt_of_save saved) clock
  exact .reloaded time saved rfl loaded policy session board decisions

theorem lifetime_of_run (h : Handler MemoryStore) (ops : List Operation) :
    ReflTransGen Continues h (h.run ops) := by
  induction ops generalizing h with
  | nil => exact .refl
  | cons op ops ih => exact (ih (h.step op).2).head (.operated h op)

end Lifetime

/-- Approvals stick. In the whole lifetime of a store whose moments are in the calendar, over
operations, hand-overs, savings and loadings, a chain that is installed for a network is never
removed, and the network, once the store has been applied to it, needs no decision from any handler.
A network that is approved without an authority needs none on a device that cannot collect chains;
on others it needs one exactly if it is still insecure, and trust on first use is on or insecure
networks are forbidden. Applying a store twice is applying it once, and it changes the trust
settings alone. -/
theorem approvals_stick {h₀ h h' : Handler MemoryStore} (timely : h₀.store.Timely)
    (earlier : ReflTransGen Continues h₀ h) (later : ReflTransGen Continues h h')
    (id : NetworkId) :
    ((h.store.entry id).trustedCa ≠ none →
      (h'.store.entry id).trustedCa ≠ none ∧
        ∀ {σ : Type} [NetworkStore σ] (g : Handler σ) (n : Network) (k : Nat), n.id = id → 1 ≤ k →
          g.Passes (h'.store.applyTo^[k] n)) ∧
    ((h'.store.entry id).approvedWithoutCa = true →
      ∀ {σ : Type} [NetworkStore σ] (g : Handler σ) (n : Network) (k : Nat), n.id = id → 1 ≤ k →
        let applied := h'.store.applyTo^[k] n
        ((g.prepare applied).1 = .notRequired ↔
          g.policy.trustOnFirstUseSupported = false ∨
            applied.trustsOnFirstUse = false ∧ g.policy.insecureEnterpriseAllowed = true ∨
              applied.insecureEnterprise = none) ∧
        ((g.prepare applied).1 = .notRequired → g.Passes applied)) ∧
    ∀ (s : MemoryStore) (n : Network),
      s.applyTo (s.applyTo n) = s.applyTo n ∧ n.Retrusted (s.applyTo n) := by
  refine ⟨fun trusted => ?_, fun approved => ?_, fun s n => ?_⟩
  · have hlasts : (h'.store.entry id).trustedCa ≠ none :=
      trusted_of_lifetime later (timely_of_lifetime earlier timely) trusted
    refine ⟨hlasts, ?_⟩
    intro σ _ g n k hid hk
    rw [iterate_applyTo _ _ hk]
    apply Passes.of_secure
    apply insecureEnterprise_applyTo_of_trusted
    rw [hid]
    exact hlasts
  · intro σ _ g n k hid hk
    dsimp only
    rw [iterate_applyTo _ _ hk]
    refine ⟨?_, Passes.of_notRequired⟩
    rw [notRequired_iff]
    apply requiresDecision_of_approved
    intro e he
    rw [← hid] at approved
    exact approvedWithoutCa_applyTo approved he
  · exact ⟨applyTo_applyTo s n, retrusted_applyTo s n⟩

end Handler

namespace Corporate

open Handler

def emptyStore : MemoryStore := { clock := ⟨2024, 5, 17, 12, 0, 0, 0⟩ }

theorem timely_emptyStore : emptyStore.Timely where
  clock := by decide
  stored := fun _ _ h => by cases h

def arrival (collects : Bool) : Handler MemoryStore :=
  fresh { trustOnFirstUseSupported := collects } emptyStore {} {} []

def approval (collects : Bool) : Handler MemoryStore :=
  (arrival collects).run
    (if collects then collection ++ [.start true, .reply (token .tofuDialog) .accept]
    else [.prepare network, .start false, .reply (token .legacyNotification) .accept])

/-- Later the network is rejected, and the store is saved and loaded. -/
def aftermath (collects : Bool) : Handler MemoryStore :=
  fresh {}
    { ((approval collects).run [.prepare network, .reject "corp"]).store.reloaded with
      clock := emptyStore.clock } {} {} []

theorem lifetime_approval (collects : Bool) :
    ReflTransGen Continues (arrival collects) (approval collects) := lifetime_of_run _ _

theorem lifetime_aftermath (collects : Bool) :
    ReflTransGen Continues (approval collects) (aftermath collects) := by
  have rejected := lifetime_of_run (approval collects) [.prepare network, .reject "corp"]
  have timely := timely_of_lifetime ((lifetime_approval collects).trans rejected) timely_emptyStore
  exact rejected.tail (.reload timely timely_emptyStore.clock {} {} {} [])

end Corporate

namespace Handler

open Corporate

/-- The approval of the corporate network outlives a rejection and a loading of the store. -/
theorem corporate_approval_sticks :
    (emptyStore.Timely ∧ ∀ collects, ReflTransGen Continues (arrival collects) (approval collects) ∧
      ReflTransGen Continues (approval collects) (aftermath collects)) ∧
    (((approval true).store.entry 7).trustedCa = some ⟨root, leaf, emptyStore.clock⟩ ∧
      ((aftermath true).store.entry 7).trustedCa ≠ none ∧
      (aftermath true).Passes ((aftermath true).store.applyTo^[2] network)) ∧
    (((aftermath false).store.entry 7).approvedWithoutCa = true ∧
      (arrival false).Passes ((aftermath false).store.applyTo^[1] network)) := by
  refine ⟨⟨timely_emptyStore, fun collects => ?_⟩, ?_, ?_⟩
  · exact ⟨lifetime_approval collects, lifetime_aftermath collects⟩
  · obtain ⟨hinstalled, -, -⟩ :=
      approvals_stick timely_emptyStore (lifetime_approval true) (lifetime_aftermath true) 7
    have trusted : ((approval true).store.entry 7).trustedCa =
        some ⟨root, leaf, emptyStore.clock⟩ := rfl
    obtain ⟨hlasts, hpasses⟩ := hinstalled (Option.ne_none_iff_exists'.2 ⟨_, trusted⟩)
    exact ⟨trusted, hlasts, hpasses (aftermath true) network 2 rfl (by decide)⟩
  · obtain ⟨-, hlegacy, -⟩ :=
      approvals_stick timely_emptyStore (lifetime_approval false) (lifetime_aftermath false) 7
    have approved : ((aftermath false).store.entry 7).approvedWithoutCa = true := rfl
    obtain ⟨hiff, hpasses⟩ := hlegacy approved (arrival false) network 1 rfl (by decide)
    exact ⟨approved, hpasses (hiff.2 (.inl rfl))⟩

end Handler

end WifiTrust
