import WifiTrust.Proofs.Handler.Requests
import WifiTrust.Proofs.Handler.Starting
import WifiTrust.Proofs.Handler.Verdicts
import WifiTrust.Proofs.Replay.Course

/-!
# What a replayed attempt comes to

With an answer that stands beforehand, every attempt comes to an end within the rounds that a replay
allows. What is decided and what is shown can be read off a table.
-/

namespace WifiTrust

def StandingAnswer.decision (a : StandingAnswer) (ssid : String) : Decision :=
  match a with
  | .accept => .accept ssid
  | .reject => .reject ssid

def PromptBoard.kinds (b : PromptBoard) : List PromptKind := b.requests.map (·.token.kind)

namespace Replay

open Handler

variable {σ : Type}

def answering (a : StandingAnswer) (shown : ShownPrompt) : Except Failure (Option PromptReply) :=
  .ok (some (autoReply a shown.request.token.kind))

/-- What an attempt comes to under a standing answer, by its preparation and the delivered chain:
its decisions and the kinds of its prompts. -/
def outcome (policy : Policy) (n : Network) (c : Chain) (userSelected : Bool) (a : StandingAnswer) :
    Preparation → List Decision × List PromptKind
  | .notRequired => ([], [])
  | .onHold =>
      ([a.decision n.ssid], [if userSelected then .legacyDialog else .legacyNotification])
  | .gated =>
      if n.trustsOnFirstUse then
        match c.validate with
        | .ok () =>
            ([a.decision n.ssid],
              if userSelected then [.tofuDialog] else [.tofuNotification, .tofuDialog])
        | .error e =>
            ([.error (some n.ssid)],
              if e.isBrokenLink then
                [if userSelected then .invalidChainDialog else .invalidChainNotification]
              else [])
      else if policy.insecureEnterpriseAllowed then ([], [])
      else ([.error (some n.ssid)], [])

theorem decisions_prompted (h : Handler σ) (r : PromptRequest) :
    (h.prompted r).decisions = h.decisions := rfl

theorem kinds_prompted (h : Handler σ) (r : PromptRequest) :
    (h.prompted r).board.kinds = h.board.kinds ++ [r.token.kind] := by
  simp [PromptBoard.kinds, requests_prompted]

theorem kinds_of_clears {h h' : Handler σ} {ds : List Decision} (clears : h.Clears ds h') :
    h'.board.kinds = h.board.kinds := by
  simp [PromptBoard.kinds, clears.shown]

/-- A connection is pending, and nothing has been asked or decided before. -/
structure Opened (h : Handler σ) (policy : Policy) (p : Pending) : Prop where
  pending : h.pending = some p
  policy : h.policy = policy
  decisions : h.decisions = []
  kinds : h.board.kinds = []
  active : h.active = none

theorem Opened.collected {h g : Handler σ} {policy : Policy} {p : Pending} {c : Chain}
    (opened : Opened h policy p) (collected : Collected h g p c) :
    Opened g policy { p with chain := c } where
  pending := collected.pending
  policy := collected.policy.trans opened.policy
  decisions := collected.decisions.trans opened.decisions
  kinds := (congrArg _ collected.board).trans opened.kinds
  active := collected.active.trans opened.active

theorem opening_of_uncollected {policy : Policy} {n : Network}
    (uncollected : requiresDecision policy n = true → policy.trustOnFirstUseSupported = true →
      n.trustsOnFirstUse = false) :
    Pending.opening policy n =
      { network := n, gated := requiresDecision policy n, usesTofu := false } := by
  unfold Pending.opening
  cases hneeded : requiresDecision policy n with
  | false => rfl
  | true =>
      have hmode : ¬(policy.trustOnFirstUseSupported && n.trustsOnFirstUse) = true := by
        simpa using uncollected hneeded
      rw [if_pos rfl, if_neg hmode]

variable [NetworkStore σ]

theorem clears_reply {h : Handler σ} {p : Pending} (hp : h.pending = some p)
    (named : p.network.ssid ≠ "") (ready : p.usesTofu = true → p.chain.validate = .ok ())
    {token : PromptToken} (active : h.activeToken = some token)
    (asks : token.kind.isInformational = false) (ssid_eq : token.ssid = p.network.ssid)
    (answerable : token.kind ≠ .tofuNotification) (a : StandingAnswer) :
    Clears h [a.decision p.network.ssid] (h.reply token (autoReply a token.kind)) := by
  rw [reply_of_active active asks]
  cases a with
  | accept =>
      have hreply : autoReply .accept token.kind = .accept := by
        simp [autoReply, answerable, asks]
      rw [hreply, follow, ssid_eq, accept_of_pending hp named]
      exact clears_approve h ready p.network.ssid
  | reject =>
      have hreply : autoReply .reject token.kind = .reject := by
        simp [autoReply, answerable, asks]
      rw [hreply, follow, ssid_eq, reject_of_pending hp named]
      exact clears_refuse hp p.network.ssid

/-- A conversation with the standing answer that ends, and all that is decided and shown then. -/
def Settles (a : StandingAnswer) (n : Nat) (h : Handler σ) (decisions : List Decision)
    (kinds : List PromptKind) : Prop :=
  ∃ h', converse (answering a) n h = .ok h' ∧ h'.active = none ∧
    h'.decisions = decisions ∧ h'.board.kinds = kinds

theorem Settles.of_clears {h h' : Handler σ} {ds : List Decision} (clears : h.Clears ds h')
    (a : StandingAnswer) (n : Nat) : Settles a n h' (h.decisions ++ ds) h.board.kinds := by
  refine ⟨h', ?_, clears.blank, clears.decided, kinds_of_clears clears⟩
  cases n with
  | zero => rfl
  | succ n => simp [converse, activeToken, clears.blank, pure, Except.pure]

theorem Settles.of_reply {a : StandingAnswer} {n : Nat} {h : Handler σ} {r : PromptRequest}
    {decisions : List Decision} {kinds : List PromptKind}
    (answered : Settles a n ((h.prompted r).reply r.token (autoReply a r.token.kind))
      decisions kinds) : Settles a (n + 1) (h.prompted r) decisions kinds := by
  have hround : converse (answering a) (n + 1) (h.prompted r) = converse (answering a) n
      ((h.prompted r).reply r.token (autoReply a r.token.kind)) := by
    simp [converse, activeToken, prompted, PromptBoard.outstanding?_post, answering, bind,
      Except.bind]
  simpa [Settles, hround] using answered

section Prompted

variable {h : Handler σ} {r : PromptRequest}

theorem Settles.informed (informs : r.token.kind.isInformational = true) (a : StandingAnswer)
    (n : Nat) : Settles a (n + 1) (h.prompted r) h.decisions (h.board.kinds ++ [r.token.kind]) := by
  have hactive : (h.prompted r).activeToken = some r.token := rfl
  have hreply : (h.prompted r).reply r.token (autoReply a r.token.kind) =
      (h.prompted r).dismissPrompt := by
    simp [Handler.reply, informs, hactive]
  have hcleared := Settles.of_clears (clears_dismissPrompt (h.prompted r)) a n
  apply Settles.of_reply
  rw [hreply]
  simpa [decisions_prompted, kinds_prompted] using hcleared

variable {p : Pending} {id : UInt64}

theorem Settles.asked (hp : h.pending = some p) (named : p.network.ssid ≠ "")
    (ready : p.usesTofu = true → p.chain.validate = .ok ()) (asks : Asks h.policy p id r)
    (answerable : r.token.kind ≠ .tofuNotification) (a : StandingAnswer) (n : Nat) :
    Settles a (n + 1) (h.prompted r) (h.decisions ++ [a.decision p.network.ssid])
      (h.board.kinds ++ [r.token.kind]) := by
  have hasks : r.token.kind.isInformational = false := by cases asks <;> rfl
  have hanswered := clears_reply (h := h.prompted r) hp named ready rfl hasks asks.token_ssid
    answerable a
  apply Settles.of_reply
  rw [← kinds_prompted]
  exact Settles.of_clears hanswered a n

theorem Settles.notified (hp : h.pending = some p) (named : p.network.ssid ≠ "")
    (tofu : p.usesTofu = true) (valid : p.chain.validate = .ok ())
    (tapped : r.token.kind = .tofuNotification) (a : StandingAnswer) (n : Nat) :
    Settles a (n + 2) (h.prompted r) (h.decisions ++ [a.decision p.network.ssid])
      (h.board.kinds ++ [.tofuNotification, .tofuDialog]) := by
  have hleaf : p.chain.leaf? ≠ none := Chain.leaf?_of_valid valid
  have hactive : (h.prompted r).activeToken = some r.token := rfl
  have hasks : r.token.kind.isInformational = false := by rw [tapped]; rfl
  obtain ⟨d, hdialog, hkind, hshown⟩ :=
    askForApproval_asks (h := h.prompted r) hp named fun _ => hleaf
  have hreply : (h.prompted r).reply r.token (autoReply a r.token.kind) =
      (h.prompted r).prompted d := by
    rw [reply_of_active hactive hasks, ← hshown]
    simp [autoReply, follow, tapped]
  have hdialogKind : d.token.kind = .tofuDialog := by rw [hkind, tofu]; rfl
  have hsettles := Settles.asked (h := h.prompted r) hp named (fun _ => valid) hdialog
    (by simp [hdialogKind]) a n
  apply Settles.of_reply
  rw [hreply]
  simpa [decisions_prompted, kinds_prompted, tapped, hdialogKind] using hsettles

end Prompted

section Started

variable {g : Handler σ} {p : Pending}

theorem Settles.unmoved {userSelected : Bool} (unmoved : g.start userSelected = (false, g))
    (blank : g.active = none) (a : StandingAnswer) (n : Nat) :
    Settles a n (g.start userSelected).2 g.decisions g.board.kinds := by
  have hsettles := Settles.of_clears (.refl blank) a n
  rw [unmoved]
  simpa using hsettles

theorem Settles.legacy (hp : g.pending = some p) (gated : p.gated = true)
    (named : p.network.ssid ≠ "") (unsupported : g.policy.trustOnFirstUseSupported = false)
    (legacy : p.usesTofu = false) (userSelected : Bool) (a : StandingAnswer) (n : Nat) :
    Settles a (n + 1) (g.start userSelected).2 (g.decisions ++ [a.decision p.network.ssid])
      (g.board.kinds ++ [if userSelected then .legacyDialog else .legacyNotification]) := by
  obtain ⟨r, hasks, hkind, hbegun⟩ := beginApproval_asks (h := g) hp (by simp [legacy])
    fun (_ : userSelected = true) => named
  have hfirst : r.token.kind = if userSelected then .legacyDialog else .legacyNotification := by
    rw [hkind, legacy]
    rfl
  have hanswerable : r.token.kind ≠ .tofuNotification := by
    rw [hfirst]
    cases userSelected <;> simp
  rw [start_of_legacy hp gated unsupported legacy, ← hfirst, hbegun]
  exact Settles.asked (markStarted_pending hp) named (by simp [legacy]) hasks hanswerable a n

theorem Settles.valid (hp : g.pending = some p) (gated : p.gated = true)
    (named : p.network.ssid ≠ "") (tofu : p.usesTofu = true)
    (on : p.network.trustsOnFirstUse = true) (valid : p.chain.validate = .ok ())
    (userSelected : Bool) (a : StandingAnswer) (n : Nat) :
    Settles a (n + 2) (g.start userSelected).2 (g.decisions ++ [a.decision p.network.ssid])
      (g.board.kinds ++
        if userSelected then [.tofuDialog] else [.tofuNotification, .tofuDialog]) := by
  have hleaf : p.chain.leaf? ≠ none := Chain.leaf?_of_valid valid
  obtain ⟨r, hasks, hkind, hbegun⟩ := beginApproval_asks (h := g) hp (fun _ => hleaf)
    fun (_ : userSelected = true) => named
  have hmarked := markStarted_pending hp
  rw [start_of_valid hp gated tofu on valid, hbegun]
  cases userSelected with
  | true =>
      have hdialog : r.token.kind = .tofuDialog := by rw [hkind, tofu]; rfl
      have hsettles := Settles.asked hmarked named (fun _ => valid) hasks (by simp [hdialog]) a
        (n + 1)
      rw [hdialog] at hsettles
      exact hsettles
  | false =>
      have hnotice : r.token.kind = .tofuNotification := by rw [hkind, tofu]; rfl
      exact Settles.notified hmarked named tofu valid hnotice a n

theorem Settles.invalid (hp : g.pending = some p) (gated : p.gated = true)
    (tofu : p.usesTofu = true) (on : p.network.trustsOnFirstUse = true) {e : ChainError}
    (invalid : p.chain.validate = .error e) (userSelected : Bool) (a : StandingAnswer) (n : Nat) :
    Settles a (n + 1) (g.start userSelected).2
      (g.decisions ++ [.error (some p.network.ssid)])
      (g.board.kinds ++ if e.isBrokenLink then
          [if userSelected then .invalidChainDialog else .invalidChainNotification]
        else []) := by
  rw [start_of_invalid hp gated tofu on invalid]
  have hfailed := clears_error g (some p.network.ssid)
  cases hbroken : e.isBrokenLink with
  | true =>
      simp only [if_true, showInvalidChain_eq]
      rw [← hfailed.decided, ← kinds_of_clears hfailed]
      cases userSelected with
      | true => exact Settles.informed rfl a n
      | false => exact Settles.informed rfl a n
  | false =>
      have hsettles := Settles.of_clears hfailed a (n + 1)
      simpa using hsettles

end Started

theorem drive_of_settles {h g : Handler σ} {n : Network} {cs : List Certificate}
    {userSelected : Bool} {a : StandingAnswer} {accepted : Nat} {decisions : List Decision}
    {kinds : List PromptKind}
    (delivered : deliverChain (h.prepare n).2.2 (h.prepare n).1 (h.prepare n).2.1.ssid cs =
      .ok (accepted, g))
    (settles : Settles a rounds (g.start userSelected).2 decisions kinds) :
    ∃ r, drive h n cs userSelected (answering a) = .ok r ∧ r.preparation = (h.prepare n).1 ∧
      r.accepted = accepted ∧ r.handler.active = none ∧
      (r.handler.decisions, r.handler.board.kinds) = (decisions, kinds) := by
  obtain ⟨h', htalked, hblank, rfl, rfl⟩ := settles
  have hleft : leave h' = h' := by simp [leave, hblank]
  refine ⟨⟨(h.prepare n).1, accepted, (h.prepare n).2.1, h'⟩, ?_, rfl, rfl, hblank, rfl⟩
  rw [drive_eq, delivered]
  simp [htalked, hleft, bind, Except.bind, pure, Except.pure]

theorem opened_prepare (policy : Policy) (store : σ) (session : NativeSession) (n : Network) :
    Opened ((fresh policy store session {} []).prepare n).2.2 policy (.opening policy n) := by
  rw [prepare_eq]
  exact ⟨rfl, rfl, rfl, rfl, rfl⟩

section Table

variable {g : Handler σ} {policy : Policy} {n : Network}

theorem Opened.settles_collected (named : n.ssid ≠ "") (on : n.trustsOnFirstUse = true)
    {c : Chain} (opened : Opened g policy
      { network := n.stripCredentials, gated := true, usesTofu := true, chain := c })
    (userSelected : Bool) (a : StandingAnswer) :
    Settles a rounds (g.start userSelected).2 (outcome policy n c userSelected a .gated).1
      (outcome policy n c userSelected a .gated).2 := by
  have hon : n.stripCredentials.trustsOnFirstUse = true := by simp [on]
  cases hchain : c.validate with
  | ok =>
      have hsettles := Settles.valid opened.pending rfl named rfl hon hchain userSelected a 6
      simpa [outcome, rounds, on, hchain, opened.decisions, opened.kinds] using hsettles
  | error e =>
      have hsettles := Settles.invalid opened.pending rfl rfl hon hchain userSelected a 7
      simpa [outcome, rounds, on, hchain, opened.decisions, opened.kinds] using hsettles

theorem Opened.settles_uncollected (named : n.ssid ≠ "")
    (opened : Opened g policy (.opening policy n))
    (uncollected : requiresDecision policy n = true → policy.trustOnFirstUseSupported = true →
      n.trustsOnFirstUse = false)
    (c : Chain) (userSelected : Bool) (a : StandingAnswer) {preparation : Preparation}
    (prepared : preparation = if requiresDecision policy n then
      if policy.trustOnFirstUseSupported then .gated else .onHold else .notRequired) :
    Settles a rounds (g.start userSelected).2 (outcome policy n c userSelected a preparation).1
      (outcome policy n c userSelected a preparation).2 := by
  have hdecisions := opened.decisions
  have hkinds := opened.kinds
  have hpending := opened.pending
  have hpolicy := opened.policy
  subst hpolicy
  rw [opening_of_uncollected uncollected] at hpending
  cases hneeded : requiresDecision g.policy n with
  | false =>
      rw [hneeded] at hpending
      have hfree : ∀ p, g.pending = some p → p.gated = false := by
        intro p hp
        rw [hpending] at hp
        cases hp
        rfl
      have hsettles := Settles.unmoved (start_of_free hfree userSelected) opened.active a rounds
      simpa [prepared, hneeded, outcome, hdecisions, hkinds] using hsettles
  | true =>
      rw [hneeded] at hpending
      cases hsupported : g.policy.trustOnFirstUseSupported with
      | false =>
          have hsettles := Settles.legacy hpending rfl named hsupported rfl userSelected a 7
          simpa [prepared, hneeded, hsupported, outcome, rounds, hdecisions, hkinds]
            using hsettles
      | true =>
          have hoff : n.trustsOnFirstUse = false := uncollected hneeded hsupported
          cases hallowed : g.policy.insecureEnterpriseAllowed with
          | true =>
              have hexempt := start_of_exempt hpending rfl hsupported hallowed rfl userSelected
              have hsettles := Settles.unmoved hexempt opened.active a rounds
              simpa [prepared, hneeded, hsupported, outcome, hoff, hallowed, hdecisions, hkinds]
                using hsettles
          | false =>
              have hbarred := start_of_barred hpending rfl hsupported hallowed hoff userSelected
              have hsettles := Settles.of_clears (clears_error g (some n.ssid)) a rounds
              simpa [prepared, hneeded, hsupported, outcome, hoff, hallowed, hdecisions, hkinds,
                hbarred] using hsettles

end Table

theorem opening_of_gated {h : Handler σ} {n : Network} (gated : (h.prepare n).1 = .gated)
    (on : n.trustsOnFirstUse = true) : Pending.opening h.policy n =
      { network := n.stripCredentials, gated := true, usesTofu := true } := by
  obtain ⟨hneeded, hsupported⟩ := (gated_iff h n).1 gated
  simp [Pending.opening, hneeded, hsupported, on]

/-- What is delivered in a replay, and that the attempt settles as the table says. -/
theorem exists_settles (policy : Policy) (store : σ) (session : NativeSession) {n : Network}
    (named : n.ssid ≠ "") {cs : List Certificate} (short : cs.length ≤ depths)
    (userSelected : Bool) (a : StandingAnswer) :
    let h := fresh policy store session {} []
    let table := outcome policy n (.ofCertificates cs) userSelected a (h.prepare n).1
    ∃ accepted g,
      deliverChain (h.prepare n).2.2 (h.prepare n).1 (h.prepare n).2.1.ssid cs =
        .ok (accepted, g) ∧
      accepted = (if (h.prepare n).1 = .gated ∧ n.trustsOnFirstUse = true then
        cs.countP (·.isReadable) else 0) ∧
      Settles a rounds (g.start userSelected).2 table.1 table.2 := by
  intro h table
  have hopened : Opened (h.prepare n).2.2 policy (.opening policy n) :=
    opened_prepare policy store session n
  have hssid : (h.prepare n).2.1.ssid = n.ssid := by
    rw [prepare_network]
    exact Pending.opening_ssid policy n
  rw [hssid]
  by_cases hcollects : (h.prepare n).1 = .gated ∧ n.trustsOnFirstUse = true
  · obtain ⟨hgated, hon⟩ := hcollects
    have hopening : Pending.opening policy n =
        { network := n.stripCredentials, gated := true, usesTofu := true } :=
      opening_of_gated hgated hon
    rw [hopening] at hopened
    obtain ⟨hcount, hcollected⟩ := deliver_of_collects hopened.pending ⟨named, rfl, rfl⟩ 0 cs
    have hsettles := (hopened.collected hcollected).settles_collected named hon userSelected a
    refine ⟨(deliver (h.prepare n).2.2 n.ssid 0 cs).1, (deliver (h.prepare n).2.2 n.ssid 0 cs).2,
      ?_, ?_, ?_⟩
    · rw [hgated]
      exact deliverChain_of_collects short
    · simp [hgated, hon, hcount]
    · rw [← hgated] at hsettles
      exact hsettles
  · have huncollected : requiresDecision policy n = true →
        policy.trustOnFirstUseSupported = true → n.trustsOnFirstUse = false := by
      intro hneeded hsupported
      have hgated : (h.prepare n).1 = .gated := (gated_iff h n).2 ⟨hneeded, hsupported⟩
      simpa [hgated] using hcollects
    have hnone : ∀ p, (h.prepare n).2.2.pending = some p → ¬p.Collects n.ssid := by
      intro p hp collects
      rw [hopened.pending] at hp
      cases hp
      rw [opening_of_uncollected huncollected] at collects
      cases collects.tofu
    refine ⟨0, (h.prepare n).2.2, deliverChain_of_not_collects hnone short _, ?_, ?_⟩
    · rw [if_neg hcollects]
    · exact hopened.settles_uncollected named huncollected _ userSelected a
        (prepare_preparation h n)

/-- The end of a replay. An attempt on a network with a name, with at most as many certificates as
there are depths and a standing answer, always comes to an end with nothing on the screen. What is
decided and shown is read off the table, where the chain has each certificate that can be read at
its place in the list. Certificates are taken only if a chain is collected, and all that can be
read. -/
theorem replay_outcome (policy : Policy) (store : σ) (session : NativeSession) {n : Network}
    (named : n.ssid ≠ "") {cs : List Certificate} (short : cs.length ≤ depths)
    (userSelected : Bool) (a : StandingAnswer) :
    let h := fresh policy store session {} []
    ∃ r c, drive h n cs userSelected (answering a) = .ok r ∧
      (∀ d, c.get? d = cs[d]?.bind (ChainEntry.ofCertificate? d)) ∧
      r.preparation = (h.prepare n).1 ∧
      (r.handler.decisions, r.handler.board.kinds) =
        outcome policy n c userSelected a r.preparation ∧
      r.accepted = (if r.preparation = .gated ∧ n.trustsOnFirstUse = true then
        cs.countP (·.isReadable) else 0) ∧
      r.handler.active = none ∧ ∀ q ∈ r.handler.board.shown, q.dismissed = true := by
  intro h
  obtain ⟨accepted, g, hdelivered, haccepted, hsettles⟩ :=
    exists_settles policy store session named short userSelected a
  obtain ⟨r, hdriven, hpreparation, hcount, hblank, hcame⟩ := drive_of_settles hdelivered hsettles
  have hinStep : InStep r.handler.board r.handler.active := by
    have keeps (g : Handler σ) (op : Operation) (hs : InStep g.board g.active) :
        InStep (g.step op).2.board (g.step op).2.active :=
      (step_effect g op).screenStep.inStep hs
    refine drive_keeps keeps ?_ hdriven
    exact ⟨PromptBoard.Built.empty.numbered, fun _ => List.forall_mem_nil _, nofun⟩
  refine ⟨r, .ofCertificates cs, hdriven, Chain.get?_ofCertificates cs, hpreparation, ?_, ?_,
    hblank, hinStep.empty hblank⟩
  · rw [hpreparation]
    exact hcame
  · rw [hpreparation]
    exact hcount.trans haccepted

open Corporate in
/-- A certificate without a common name leaves a gap in the corporate chain, so the attempt is given
up and the user is told. Without it the chain is shown and refused. -/
theorem corporate_replay_outcome :
    let h : Handler MemoryStore := fresh {} { clock := default } {} {} []
    let gap : List Certificate := [leaf, .ofParts "O=Corp" "CN=Corp Root" [] true, root]
    network.ssid ≠ "" ∧ gap.length ≤ depths ∧
      (∃ r, drive h network gap true (answering .accept) = .ok r ∧ r.accepted = 2 ∧
        (r.handler.decisions, r.handler.board.kinds) =
          ([.error (some "corp")], [.invalidChainDialog])) ∧
      ∃ r, drive h network [leaf, root] false (answering .reject) = .ok r ∧ r.accepted = 2 ∧
        (r.handler.decisions, r.handler.board.kinds) =
          ([.reject "corp"], [.tofuNotification, .tofuDialog]) := by
  intro h gap
  have named : network.ssid ≠ "" := by decide
  have short : gap.length ≤ depths := by decide
  have gated : (h.prepare network).1 = .gated := by rfl
  have listed {cs : List Certificate} {c : Chain}
      (hc : ∀ d, c.get? d = cs[d]?.bind (ChainEntry.ofCertificate? d)) : c = .ofCertificates cs :=
    Chain.ext_get? fun d => (hc d).trans (Chain.get?_ofCertificates cs d).symm
  refine ⟨named, short, ?_, ?_⟩
  · obtain ⟨r, c, hdriven, hc, hprepared, hcame, haccepted, -⟩ :=
      replay_outcome {} ({ clock := default } : MemoryStore) {} named short true .accept
    rw [hprepared, gated, listed hc] at hcame
    rw [hprepared, gated] at haccepted
    exact ⟨r, hdriven, haccepted, hcame⟩
  · obtain ⟨r, c, hdriven, hc, hprepared, hcame, haccepted, -⟩ :=
      replay_outcome {} ({ clock := default } : MemoryStore) {} named
        (by decide : [leaf, root].length ≤ depths) false .reject
    rw [hprepared, gated, listed hc] at hcame
    rw [hprepared, gated] at haccepted
    exact ⟨r, hdriven, haccepted, hcame⟩

end Replay

end WifiTrust
