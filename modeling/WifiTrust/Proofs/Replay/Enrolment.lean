import WifiTrust.Proofs.Handler.Enrolment
import WifiTrust.Proofs.Replay.Outcome

namespace WifiTrust

theorem Pending.Grown.chain_eq {p q : Pending} {ops : List Operation} (h : p.Grown ops q)
    (undelivered : ∀ op ∈ ops, op.delivery? = none) (named : p.network.ssid ≠ "") :
    q.chain = p.chain := by
  cases htofu : p.usesTofu with
  | false => exact h.legacy htofu
  | true =>
      have hnothing (d : Nat) : ops.findSome? (·.delivered? p.network.ssid d) = none := by
        refine List.findSome?_eq_none_iff.2 fun op hop => ?_
        exact Operation.delivered?_of_no_delivery (undelivered op hop) _ d
      apply Chain.ext_get?
      intro d
      rw [h.collected htofu named, hnothing, Option.or_none]

theorem Operation.unforced_of_delivery {op : Operation} (h : op.delivery? ≠ none) :
    op.Unforced where
  unprepared := fun n hn => h (by rw [hn]; rfl)
  unaccepted := fun ssid hs => h (by rw [hs]; rfl)

namespace Replay

open Handler MemoryStore

def Asking (op : Operation) : Prop := op.Unforced ∧ op.delivery? = none

theorem asking_start (userSelected : Bool) : Asking (.start userSelected) := by
  refine ⟨⟨fun n h => ?_, fun ssid h => ?_⟩, rfl⟩
  · cases h
  · cases h

theorem asking_of_closing {op : Operation} (closing : Closing op) : Asking op := by
  refine ⟨⟨fun n h => ?_, fun ssid h => ?_⟩, ?_⟩
  · cases h
    cases closing
  · cases h
    cases closing
  · cases closing with
    | reply | cleanup => rfl

section Course

variable {σ : Type} [NetworkStore σ] {h g : Handler σ} {n : Network} {cs : List Certificate}
  {userSelected : Bool} {r : Replayed σ}

theorem Course.asks (course : Course h n cs userSelected r g) : Leads Asking g r.handler :=
  (Leads.single g _ (asking_start userSelected)).trans
    (course.closed.mono fun _ => asking_of_closing)

theorem Course.unforced (course : Course h n cs userSelected r g) :
    Leads Operation.Unforced (h.prepare n).2.2 r.handler :=
  ((leads_deliverChain course.delivered).mono fun _ => Operation.unforced_of_delivery).trans
    (course.asks.mono fun _ => And.left)

/-- Where a chain is collected, the certificates that were delivered are in it when the user is
asked. -/
theorem Course.collected (course : Course h n cs userSelected r g) (named : n.ssid ≠ "")
    (gated : (h.prepare n).1 = .gated) (on : n.trustsOnFirstUse = true) :
    Collected (h.prepare n).2.2 g
      { network := n.stripCredentials, gated := true, usesTofu := true }
      (.ofCertificates cs) := by
  have hopening := opening_of_gated gated on
  have hpending : (h.prepare n).2.2.pending =
      some { network := n.stripCredentials, gated := true, usesTofu := true } := by
    rw [prepare_eq, hopening]
  have hssid : r.network.ssid = n.ssid := by
    rw [course.network, prepare_network, Pending.opening_ssid]
  have hdelivered := course.delivered
  rw [course.preparation, gated, hssid] at hdelivered
  unfold deliverChain at hdelivered
  split at hdelivered
  · next hungated => exact absurd rfl hungated
  · split at hdelivered
    · cases hdelivered
    · obtain ⟨-, hcollected⟩ := deliver_of_collects hpending ⟨named, rfl, rfl⟩ 0 cs
      rw [Except.ok.inj hdelivered] at hcollected
      exact hcollected

end Course

section Store

variable {h g : Handler MemoryStore} {n : Network} {cs : List Certificate} {userSelected : Bool}
  {r : Replayed MemoryStore}

theorem store_prepare_of_supported (supported : h.policy.trustOnFirstUseSupported = true) :
    (h.prepare n).2.2.store = h.store := by
  rw [prepare_eq]
  simp [supported]

variable (course : Course h n cs userSelected r g) (he : h.Enrolling)
  (undecided : h.decisions = [])

include course he undecided

theorem Course.trusted_of_accepted {ssid : String}
    (accepted : .accept ssid ∈ r.handler.decisions) :
    (r.handler.store.entry n.id).trustedCa ≠ none := by
  have hprepared : (h.prepare n).2.2.Enrolling := he.run [.prepare n]
  obtain ⟨ops, hunforced, hend⟩ := course.unforced
  cases hprepared.enrols hunforced with
  | unaccepted decided _ =>
      have hundecided : (h.prepare n).2.2.decisions = [] := by rw [prepare_eq, undecided]
      rw [hend, hundecided] at decided
      cases decided _ accepted rfl
  | @accepted earlier q root leaf since hq _ _ installed =>
      have hunprepared : ∀ op ∈ earlier, ∀ n, op ≠ .prepare n := fun op hop =>
        (hunforced op (since.subset hop)).unprepared
      have hopened : (h.prepare n).2.2.pending = some (.opening h.policy n) := by rw [prepare_eq]
      have hid : q.network.id = n.id := by
        rw [(run_grown hunprepared hopened hq).network, Pending.opening_id]
      rw [← hend, installed, if_pos hid.symm]
      exact Option.some_ne_none _

inductive Trusts (h : Handler MemoryStore) (n : Network) (c : Chain) (g : Handler MemoryStore) :
    Prop
  | unaccepted (decided : ∀ d ∈ g.decisions, d.isAccept = false)
      (kept : ∀ id, (g.store.entry id).trustedCa = (h.store.entry id).trustedCa)
  | accepted {root leaf : ChainEntry} (decided : .accept n.ssid ∈ g.decisions)
      (valid : c.anchors = .ok (root, leaf))
      (installed : ∀ id, (g.store.entry id).trustedCa =
        if id = n.id then some ⟨root.certificate, leaf.certificate, h.store.clock⟩
        else (h.store.entry id).trustedCa)

theorem Course.trusts (named : n.ssid ≠ "") (gated : (h.prepare n).1 = .gated)
    (on : n.trustsOnFirstUse = true) : Trusts h n (.ofCertificates cs) r.handler := by
  have hprepared : (h.prepare n).2.2.Enrolling := he.run [.prepare n]
  have hstore : (h.prepare n).2.2.store = h.store := store_prepare_of_supported he.supported
  have hundecided : (h.prepare n).2.2.decisions = [] := by rw [prepare_eq, undecided]
  have hcollected := course.collected named gated on
  obtain ⟨delivered, hdelivery, hdelivered⟩ := leads_deliverChain course.delivered
  have hgdecisions : g.decisions = [] := hcollected.decisions.trans hundecided
  have hgclock : g.store.clock = h.store.clock := by
    rw [← hdelivered, clock_run, hstore]
  have hgkept (id : NetworkId) : (g.store.entry id).trustedCa = (h.store.entry id).trustedCa := by
    have hunforced : ∀ op ∈ delivered, op.Unforced := fun op hop =>
      Operation.unforced_of_delivery (hdelivery op hop)
    cases hprepared.enrols hunforced with
    | unaccepted _ kept =>
        rw [← hdelivered, kept, hstore]
    | accepted _ _ _ decided _ =>
        rw [hdelivered, hgdecisions] at decided
        cases decided
  have hg : g.Enrolling := hdelivered ▸ hprepared.run delivered
  obtain ⟨ops, hasking, hend⟩ := course.asks
  cases hg.enrols fun op hop => (hasking op hop).1 with
  | unaccepted decided kept =>
      rw [hend, hgdecisions] at decided
      rw [hend] at kept
      refine .unaccepted (fun d hd => ?_) fun id => (kept id).trans (hgkept id)
      exact Bool.eq_false_iff.2 fun haccept => by cases decided d hd haccept
  | @accepted earlier q root leaf since hq valid decided installed =>
      have hunprepared : ∀ op ∈ earlier, ∀ n, op ≠ .prepare n := fun op hop =>
        (hasking op (since.subset hop)).1.unprepared
      have hgrown := run_grown hunprepared hcollected.pending hq
      have hchain : q.chain = .ofCertificates cs :=
        hgrown.chain_eq (fun op hop => (hasking op (since.subset hop)).2) named
      have hnetwork : q.network = n.stripCredentials := hgrown.network
      rw [hend, hnetwork] at decided
      rw [hchain] at valid
      refine .accepted decided valid fun id => ?_
      rw [← hgkept id, ← hgclock, ← hend, installed id, hnetwork]
      rfl

end Store

end Replay

end WifiTrust
