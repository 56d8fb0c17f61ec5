import WifiTrust.Proofs.Chain.Entries
import WifiTrust.Proofs.Handler.Resolution

/-!
# Attempts

An attempt begins with the preparation of a connection and lasts until the next one. The operations
since then make the connection what it is: every depth of its chain holds the first certificate
that they delivered for it, and its approval has begun only if one of them began it.
-/

namespace WifiTrust

namespace Operation

def delivered? (op : Operation) (ssid : String) (depth : Nat) : Option ChainEntry :=
  match op.delivery? with
  | none => none
  | some (name, d, c) =>
      if name = ssid ∧ d = depth then (ChainEntry.ofCertificate depth c).toOption else none

theorem delivered?_eq_some_iff {op : Operation} {ssid : String} {depth : Nat} {e : ChainEntry} :
    op.delivered? ssid depth = some e ↔
      ∃ c, op.delivery? = some (ssid, (depth : Int), c) ∧
        ChainEntry.ofCertificate depth c = .ok e := by
  unfold delivered?
  cases op.delivery? with
  | none => simp
  | some delivery =>
      obtain ⟨name, d, c⟩ := delivery
      dsimp only
      split
      · next hmatch =>
          obtain ⟨rfl, rfl⟩ := hmatch
          cases hentry : ChainEntry.ofCertificate depth c with
          | error => simp [Except.toOption, hentry]
          | ok => simp [Except.toOption, hentry]
      · next hother =>
          refine ⟨nofun, ?_⟩
          rintro ⟨c', hdelivery, _⟩
          cases hdelivery
          exact absurd ⟨rfl, rfl⟩ hother

theorem delivered?_of_no_delivery {op : Operation} (h : op.delivery? = none) (ssid : String)
    (depth : Nat) : op.delivered? ssid depth = none := by
  unfold delivered?
  rw [h]

end Operation

namespace Pending

theorem opening_id (policy : Policy) (n : Network) : (opening policy n).network.id = n.id := by
  unfold opening
  split
  · split
    · rfl
    · rfl
  · rfl

theorem opening_ssid (policy : Policy) (n : Network) :
    (opening policy n).network.ssid = n.ssid := by
  unfold opening
  split
  · split
    · rfl
    · rfl
  · rfl

theorem opening_approvalStarted (policy : Policy) (n : Network) :
    (opening policy n).approvalStarted = false := by
  unfold opening
  split
  · split
    · rfl
    · rfl
  · rfl

end Pending

/-- What operations can make of a pending connection without ending its attempt. -/
structure Pending.Grown (p : Pending) (ops : List Operation) (q : Pending) : Prop where
  network : q.network = p.network
  gated : q.gated = p.gated
  mode : q.usesTofu = p.usesTofu
  collected : p.usesTofu = true → p.network.ssid ≠ "" → ∀ d,
    q.chain.get? d = (p.chain.get? d).or (ops.findSome? (·.delivered? p.network.ssid d))
  legacy : p.usesTofu = false → q.chain = p.chain
  started : q.approvalStarted = true →
    p.approvalStarted = true ∨ ∃ userSelected, .start userSelected ∈ ops

namespace Pending.Grown

theorem refl (p : Pending) : p.Grown [] p where
  network := rfl
  gated := rfl
  mode := rfl
  collected := fun _ _ _ => Option.or_none.symm
  legacy := fun _ => rfl
  started := .inl

theorem trans {p q r : Pending} {ops ops' : List Operation} (h : p.Grown ops q)
    (h' : q.Grown ops' r) : p.Grown (ops ++ ops') r where
  network := h'.network.trans h.network
  gated := h'.gated.trans h.gated
  mode := h'.mode.trans h.mode
  collected := by
    intro htofu hname d
    have hfirst := h.collected htofu hname d
    have hsecond := h'.collected (h.mode.trans htofu) (h.network ▸ hname) d
    rw [hsecond, hfirst, h.network, List.findSome?_append, Option.or_assoc]
  legacy := fun hlegacy => (h'.legacy (h.mode.trans hlegacy)).trans (h.legacy hlegacy)
  started := by
    intro hr
    rcases h'.started hr with hq | ⟨userSelected, hmem⟩
    · rcases h.started hq with hp | ⟨userSelected, hmem⟩
      · exact .inl hp
      · exact .inr ⟨userSelected, List.mem_append_left ops' hmem⟩
    · exact .inr ⟨userSelected, List.mem_append_right ops hmem⟩

theorem get?_of_some {p q : Pending} {ops : List Operation} (h : p.Grown ops q)
    (tofu : p.usesTofu = true) (named : p.network.ssid ≠ "") {d : Nat} {e : ChainEntry}
    (he : p.chain.get? d = some e) : q.chain.get? d = some e := by
  rw [h.collected tofu named, he]
  rfl

theorem of_no_delivery {p : Pending} {op : Operation} (h : op.delivery? = none) {started : Bool}
    (hstarted : started = p.approvalStarted ∨ ∃ userSelected, op = .start userSelected) :
    p.Grown [op] { p with approvalStarted := started } where
  network := rfl
  gated := rfl
  mode := rfl
  collected := by
    intro _ _ d
    rw [List.findSome?_singleton, Operation.delivered?_of_no_delivery h, Option.or_none]
  legacy := fun _ => rfl
  started := by
    intro hq
    rcases hstarted with hsame | ⟨userSelected, rfl⟩
    · exact .inl (hsame.symm.trans hq)
    · exact .inr ⟨userSelected, List.mem_singleton_self _⟩

end Pending.Grown

namespace Handler

variable {σ : Type} [NetworkStore σ]

theorem run_append (h : Handler σ) (ops ops' : List Operation) :
    h.run (ops ++ ops') = (h.run ops).run ops' := by
  induction ops generalizing h with
  | nil => rfl
  | cons op ops ih => exact ih (h.step op).2

theorem step_of_delivery {h : Handler σ} {op : Operation} {ssid : String} {depth : Int}
    {c : Certificate} (delivery : op.delivery? = some (ssid, depth, c)) :
    (h.step op).2 = (h.addCertificate ssid depth c).2 := by
  cases op with
  | addCertificate => cases delivery; rfl
  | setCertificate => cases delivery; rfl
  | prepare | start | reply | accept | reject | error | putOnHold | cleanup => cases delivery

theorem grown_of_delivery {h : Handler σ} {op : Operation} {ssid : String} {depth : Int}
    {c : Certificate} (delivery : op.delivery? = some (ssid, depth, c)) {p q : Pending}
    (hp : h.pending = some p) (hq : (h.addCertificate ssid depth c).2.pending = some q) :
    p.Grown [op] q := by
  unfold addCertificate at hq
  cases hcollect : h.collect ssid depth c with
  | none =>
      rw [hcollect] at hq
      cases hp.symm.trans hq
      refine { Pending.Grown.refl p with collected := fun htofu hname d => ?_, started := .inl }
      have hrefused : op.delivered? p.network.ssid d = none := by
        refine Option.eq_none_iff_forall_ne_some.2 fun e he => ?_
        obtain ⟨c', hdelivery, hentry⟩ := Operation.delivered?_eq_some_iff.1 he
        rw [delivery] at hdelivery
        cases hdelivery
        obtain ⟨outcome, chain, hentered⟩ := Chain.exists_insert p.chain d hentry
        have hsome := collect_eq_some_iff.2
          ⟨p, outcome, chain, hname, Int.natCast_nonneg d, hp, rfl, htofu, hentered, rfl⟩
        rw [hcollect] at hsome
        cases hsome
      rw [List.findSome?_singleton, hrefused, Option.or_none]
  | some h' =>
      obtain ⟨p', outcome, chain, _, hdepth, hp', hssid, htofu, hentered, rfl⟩ :=
        collect_eq_some_iff.1 hcollect
      cases hp.symm.trans hp'
      rw [hcollect] at hq
      have hreceived : (h.received p chain depth).pending = some q := hq
      rw [received_eq] at hreceived
      cases hreceived
      refine ⟨rfl, rfl, rfl, fun _ _ d => ?_, fun hlegacy => ?_, .inl⟩
      · obtain ⟨entry, hentry, _⟩ := Chain.insert_eq_ok_iff.1 hentered
        rw [List.findSome?_singleton, Chain.get?_of_insert hentered hentry]
        unfold Operation.delivered?
        rw [delivery, hssid]
        dsimp only
        by_cases hd : d = depth.toNat
        · have hmatch : depth = (d : Int) := by omega
          rw [if_pos hd, if_pos ⟨rfl, hmatch⟩, hd, hentry]
          rfl
        · have hother : ¬(ssid = ssid ∧ depth = (d : Int)) := by omega
          rw [if_neg hd, if_neg hother, Option.or_none]
      · rw [htofu] at hlegacy
        cases hlegacy

theorem step_grown {h : Handler σ} {op : Operation} (hop : ∀ n, op ≠ .prepare n) {p q : Pending}
    (hp : h.pending = some p) (hq : (h.step op).2.pending = some q) : p.Grown [op] q := by
  cases hdelivery : op.delivery? with
  | some delivery =>
      obtain ⟨ssid, depth, c⟩ := delivery
      rw [step_of_delivery hdelivery] at hq
      exact grown_of_delivery hdelivery hp hq
  | none =>
      have effect := step_effect h op
      generalize (h.step op).2 = h' at effect hq
      have hkept (hsame : h.pending = some q) : p.Grown [op] q := by
        cases hp.symm.trans hsame
        exact .of_no_delivery hdelivery (.inl rfl)
      cases effect with
      | ignored => exact hkept hq
      | prepared n => exact absurd rfl (hop n)
      | collected hcollected => rw [hdelivery] at hcollected; cases hcollected
      | started _ _ _ _ shown =>
          rw [shown.frame, markStarted, hp] at hq
          cases hq
          exact .of_no_delivery hdelivery (.inr ⟨_, rfl⟩)
      | broken => rw [showInvalidChain_eq, error_eq] at hq; cases hq
      | reopened _ _ shown => rw [shown.frame] at hq; exact hkept hq
      | acknowledged => rw [dismissPrompt_eq] at hq; exact hkept hq
      | installed => rw [installChain_eq, grant_eq] at hq; cases hq
      | approved => rw [grant_eq] at hq; cases hq
      | refused _ hpending => rw [refuse_eq h hpending] at hq; cases hq
      | failed => rw [error_eq] at hq; cases hq
      | held => rw [putOnHold_eq] at hq; exact hkept hq
      | cleaned => rw [cleanup_eq] at hq; cases hq

theorem run_pending_eq_none {h : Handler σ} (hnone : h.pending = none) {ops : List Operation}
    (hops : ∀ op ∈ ops, ∀ n, op ≠ .prepare n) : (h.run ops).pending = none := by
  induction ops generalizing h with
  | nil => exact hnone
  | cons op ops ih =>
      obtain ⟨_, hd⟩ := step_decides h op
      have hidle : (h.step op).2.pending = none :=
        (hd.idle hnone).resolve_right fun ⟨n, hn⟩ => hops op List.mem_cons_self n hn
      exact ih hidle fun o ho => hops o (List.mem_cons_of_mem op ho)

theorem exists_pending_of_run {h : Handler σ} {ops : List Operation}
    (hops : ∀ op ∈ ops, ∀ n, op ≠ .prepare n) {q : Pending} (hq : (h.run ops).pending = some q) :
    ∃ p, h.pending = some p := by
  refine Option.ne_none_iff_exists'.1 fun hnone => ?_
  rw [run_pending_eq_none hnone hops] at hq
  cases hq

theorem run_grown {h : Handler σ} {ops : List Operation} (hops : ∀ op ∈ ops, ∀ n, op ≠ .prepare n)
    {p q : Pending} (hp : h.pending = some p) (hq : (h.run ops).pending = some q) :
    p.Grown ops q := by
  induction ops generalizing h p with
  | nil =>
      cases hp.symm.trans hq
      exact .refl _
  | cons op ops ih =>
      have hrest : ∀ o ∈ ops, ∀ n, o ≠ .prepare n := fun o ho =>
        hops o (List.mem_cons_of_mem op ho)
      obtain ⟨next, hnext⟩ := exists_pending_of_run hrest hq
      exact (step_grown (hops op List.mem_cons_self) hp hnext).trans (ih hrest hnext hq)

theorem run_grown_between {h : Handler σ} {earlier later : List Operation}
    (hops : ∀ op ∈ earlier ++ later, ∀ n, op ≠ .prepare n) {r : Pending}
    (hr : (h.run (earlier ++ later)).pending = some r) :
    ∃ q, (h.run earlier).pending = some q ∧ q.Grown later r := by
  have hlater : ∀ op ∈ later, ∀ n, op ≠ .prepare n := fun op ho =>
    hops op (List.mem_append_right earlier ho)
  rw [run_append] at hr
  obtain ⟨q, hq⟩ := exists_pending_of_run hlater hr
  exact ⟨q, hq, run_grown hlater hq hr⟩

/-- The latest attempt of a run: what came before its preparation, and what has been done since. -/
structure Attempt (ops : List Operation) where
  before : List Operation
  network : Network
  since : List Operation
  ops_eq : ops = before ++ .prepare network :: since
  latest : ∀ op ∈ since, ∀ n, op ≠ .prepare n

namespace Attempt

variable {ops : List Operation}

/-- The first certificate with readable names that the attempt has had for a depth. -/
def first? (a : Attempt ops) (depth : Nat) : Option ChainEntry :=
  a.since.findSome? (·.delivered? a.network.ssid depth)

theorem parse_of_first? {a : Attempt ops} {depth : Nat} {e : ChainEntry}
    (h : a.first? depth = some e) :
    DistinguishedName.parse e.certificate.subject = .ok e.subject ∧
      DistinguishedName.parse e.certificate.issuer = .ok e.issuer := by
  obtain ⟨op, _, hdelivered⟩ := List.exists_of_findSome?_eq_some h
  obtain ⟨c, _, hread⟩ := Operation.delivered?_eq_some_iff.1 hdelivered
  obtain ⟨-, rfl, hsubject, hissuer⟩ := ChainEntry.ofCertificate_eq_ok_iff.1 hread
  exact ⟨hsubject, hissuer⟩

def opened (a : Attempt ops) (h : Handler σ) : Handler σ := ((h.run a.before).prepare a.network).2.2

theorem run_eq (a : Attempt ops) (h : Handler σ) : h.run ops = (a.opened h).run a.since :=
  (congrArg h.run a.ops_eq).trans (h.run_append a.before (.prepare a.network :: a.since))

theorem opened_eq_run (a : Attempt ops) (h : Handler σ) :
    a.opened h = h.run (a.before ++ [.prepare a.network]) :=
  (h.run_append a.before [.prepare a.network]).symm

theorem opened_pending (a : Attempt ops) (h : Handler σ) :
    (a.opened h).pending = some (.opening h.policy a.network) := by
  unfold opened
  rw [prepare_eq, run_policy]

theorem nonempty_or (ops : List Operation) :
    Nonempty (Attempt ops) ∨ ∀ op ∈ ops, ∀ n, op ≠ .prepare n := by
  induction ops with
  | nil => exact .inr (List.forall_mem_nil _)
  | cons op ops ih =>
      rcases ih with ⟨⟨before, network, since, hops, latest⟩⟩ | hnone
      · exact .inl ⟨op :: before, network, since, congrArg (op :: ·) hops, latest⟩
      · cases op with
        | prepare n => exact .inl ⟨[], n, ops, rfl, hnone⟩
        | addCertificate | setCertificate | start | reply | accept | reject | error | putOnHold
        | cleanup =>
            refine .inr (List.forall_mem_cons.2 ⟨fun n hn => ?_, hnone⟩)
            cases hn

/-- A pending connection belongs to an attempt, and the operations since have made it. -/
theorem exists_of_pending {h : Handler σ} (hnone : h.pending = none) {p : Pending}
    (hp : (h.run ops).pending = some p) :
    ∃ a : Attempt ops, (Pending.opening h.policy a.network).Grown a.since p := by
  rcases nonempty_or ops with ⟨⟨a⟩⟩ | hops
  · rw [a.run_eq] at hp
    exact ⟨a, run_grown a.latest (a.opened_pending h) hp⟩
  · rw [run_pending_eq_none hnone hops] at hp
    cases hp

/-- Along the attempt the connection was pending and has only grown. -/
theorem grown_between {h : Handler σ} {a : Attempt ops} {p : Pending}
    (hp : (h.run ops).pending = some p) {earlier later : List Operation}
    (split : a.since = earlier ++ later) :
    ∃ q, ((a.opened h).run earlier).pending = some q ∧ q.Grown later p := by
  have latest := a.latest
  rw [a.run_eq, split] at hp
  rw [split] at latest
  exact run_grown_between latest hp

theorem grown_after {h : Handler σ} {a : Attempt ops} {p : Pending}
    (hp : (h.run ops).pending = some p) {earlier later : List Operation} {op : Operation}
    (split : a.since = earlier ++ op :: later) :
    ∃ q, (((a.opened h).run earlier).step op).2.pending = some q ∧ q.Grown later p := by
  rw [List.append_cons] at split
  obtain ⟨q, hq, hgrown⟩ := grown_between hp split
  rw [run_append] at hq
  exact ⟨q, hq, hgrown⟩

section Made

variable {policy : Policy} {p : Pending} {a : Attempt ops}

theorem id_eq (made : (Pending.opening policy a.network).Grown a.since p) :
    p.network.id = a.network.id := by
  rw [made.network, Pending.opening_id]

theorem ssid_eq (made : (Pending.opening policy a.network).Grown a.since p) :
    p.network.ssid = a.network.ssid := by
  rw [made.network, Pending.opening_ssid]

theorem get?_chain (made : (Pending.opening policy a.network).Grown a.since p)
    (tofu : p.usesTofu = true) (named : p.network.ssid ≠ "") (depth : Nat) :
    p.chain.get? depth = a.first? depth := by
  have hcollected := made.collected (made.mode ▸ tofu) (made.network ▸ named) depth
  rw [hcollected, Pending.opening_chain, Pending.opening_ssid]
  rfl

theorem usesTofu_of_get? (made : (Pending.opening policy a.network).Grown a.since p) {depth : Nat}
    {e : ChainEntry} (he : p.chain.get? depth = some e) : p.usesTofu = true := by
  cases hmode : p.usesTofu with
  | true => rfl
  | false =>
      rw [made.legacy (made.mode.symm.trans hmode), Pending.opening_chain] at he
      cases he

theorem mem_start (made : (Pending.opening policy a.network).Grown a.since p)
    (started : p.approvalStarted = true) : ∃ userSelected, .start userSelected ∈ a.since := by
  refine (made.started started).resolve_left fun hopen => ?_
  rw [Pending.opening_approvalStarted] at hopen
  cases hopen

end Made

end Attempt

end Handler

end WifiTrust
