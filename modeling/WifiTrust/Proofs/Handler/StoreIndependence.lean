import WifiTrust.Proofs.Handler.Effect

/-!
# The store does not steer the protocol

What a handler answers, shows, calls and decides is the same over any store, so a store can be taken
away from a run. Two runs with the same operations go the same way, whatever their stores hold and
whatever they answer.
-/

namespace WifiTrust

/-- A store that keeps nothing and takes nothing. -/
structure BlankStore where

instance : NetworkStore BlankStore where
  updateSelection s _ _ := (false, s)
  updateCa s _ _ _ := (false, s)
  setApprovedWithoutCa s _ _ := s
  enableTrustOnFirstUse s _ _ := s
  allowAutojoin s _ _ := s

namespace Handler

variable {σ τ : Type}

def detached (h : Handler σ) : Handler BlankStore where
  policy := h.policy
  store := {}
  session := h.session
  board := h.board
  decisions := h.decisions
  pending := h.pending
  active := h.active
  lastPromptId := h.lastPromptId

/-- Handlers that differ in their stores only. -/
structure Alike (h : Handler σ) (g : Handler τ) : Prop where
  policy : h.policy = g.policy
  session : h.session = g.session
  board : h.board = g.board
  decisions : h.decisions = g.decisions
  pending : h.pending = g.pending
  active : h.active = g.active
  lastPromptId : h.lastPromptId = g.lastPromptId

theorem alike_of_detached_eq {h : Handler σ} {g : Handler τ} (hd : h.detached = g.detached) :
    Alike h g := by
  unfold detached at hd
  simp only [mk.injEq] at hd
  obtain ⟨hpolicy, -, hsession, hboard, hdecisions, hpending, hactive, hcount⟩ := hd
  exact ⟨hpolicy, hsession, hboard, hdecisions, hpending, hactive, hcount⟩

@[simp] theorem detached_dismissPrompt (h : Handler σ) :
    h.dismissPrompt.detached = h.detached.dismissPrompt := by
  rw [dismissPrompt_eq, dismissPrompt_eq]
  rfl

@[simp] theorem detached_prompted (h : Handler σ) (r : PromptRequest) :
    (h.prompted r).detached = h.detached.prompted r := rfl

@[simp] theorem detached_cleanup (h : Handler σ) : h.cleanup.detached = h.detached.cleanup := by
  rw [cleanup_eq, cleanup_eq]
  rfl

@[simp] theorem detached_showInvalidChain (h : Handler σ) (ssid : String) (userSelected : Bool) :
    (h.showInvalidChain ssid userSelected).detached =
      h.detached.showInvalidChain ssid userSelected := by
  rw [showInvalidChain_eq, showInvalidChain_eq, detached_prompted]
  rfl

@[simp] theorem detached_askForApproval (h : Handler σ) :
    h.askForApproval.detached = h.detached.askForApproval := by
  have hpending : h.detached.pending = h.pending := rfl
  unfold askForApproval
  rw [hpending]
  cases h.pending with
  | none => rfl
  | some p =>
      dsimp only [issueToken]
      by_cases hname : p.network.ssid = ""
      · rw [if_pos hname, if_pos hname]
      · rw [if_neg hname, if_neg hname]
        by_cases htofu : p.usesTofu = true
        · rw [if_pos htofu, if_pos htofu]
          cases p.chain.leaf? with
          | none => rfl
          | some leaf =>
              dsimp only
              rw [showPrompt_issued, showPrompt_issued]
              rfl
        · rw [if_neg htofu, if_neg htofu, showPrompt_issued, showPrompt_issued]
          rfl

@[simp] theorem detached_notifyUser (h : Handler σ) :
    h.notifyUser.detached = h.detached.notifyUser := by
  have hpending : h.detached.pending = h.pending := rfl
  unfold notifyUser
  rw [hpending]
  cases h.pending with
  | none => rfl
  | some p =>
      dsimp only [issueToken]
      by_cases htofu : p.usesTofu = true
      · rw [if_pos htofu, if_pos htofu]
        by_cases hleaf : p.chain.leaf?.isNone = true
        · rw [if_pos hleaf, if_pos hleaf]
        · rw [if_neg hleaf, if_neg hleaf, showPrompt_issued, showPrompt_issued]
          rfl
      · rw [if_neg htofu, if_neg htofu, showPrompt_issued, showPrompt_issued]
        rfl

@[simp] theorem detached_beginApproval (h : Handler σ) (userSelected : Bool) :
    (h.beginApproval userSelected).detached = h.detached.beginApproval userSelected := by
  cases userSelected
  · exact detached_notifyUser h.markStarted
  · exact detached_askForApproval h.markStarted

theorem detached_collect (h : Handler σ) (ssid : String) (depth : Int) (c : Certificate) :
    h.detached.collect ssid depth c = (h.collect ssid depth c).map detached := by
  apply Option.ext
  intro g
  rw [collect_eq_some_iff, Option.map_eq_some_iff]
  constructor
  · rintro ⟨p, outcome, chain, hname, hdepth, hp, hssid, htofu, hentered, rfl⟩
    have hcollect := (collect_eq_some_iff (h := h)).2
      ⟨p, outcome, chain, hname, hdepth, hp, hssid, htofu, hentered, rfl⟩
    exact ⟨_, hcollect, rfl⟩
  · rintro ⟨h', hcollect, rfl⟩
    obtain ⟨p, outcome, chain, hname, hdepth, hp, hssid, htofu, hentered, rfl⟩ :=
      collect_eq_some_iff.1 hcollect
    exact ⟨p, outcome, chain, hname, hdepth, hp, hssid, htofu, hentered, rfl⟩

variable [NetworkStore σ] [NetworkStore τ]

@[simp] theorem detached_putOnHold (h : Handler σ) (disconnect : Bool) :
    (h.putOnHold disconnect).detached = h.detached.putOnHold disconnect := by
  rw [putOnHold_eq, putOnHold_eq]
  rfl

@[simp] theorem detached_error (h : Handler σ) (ssid : Option String) :
    (h.error ssid).detached = h.detached.error ssid := by
  rw [error_eq, error_eq]
  rfl

@[simp] theorem detached_grant (h : Handler σ) (id : NetworkId) (ssid : String) :
    (h.grant id ssid).detached = h.detached.grant id ssid := by
  rw [grant_eq, grant_eq]
  rfl

@[simp] theorem detached_installChain (h : Handler σ) (id : NetworkId) (root leaf : Certificate) :
    (h.installChain id root leaf).detached = h.detached.installChain id root leaf := by
  rw [installChain_eq, installChain_eq]
  rfl

theorem detached_refuse {h : Handler σ} {p : Pending} (hp : h.pending = some p) (ssid : String) :
    (h.refuse p ssid).detached = h.detached.refuse p ssid := by
  have hpending : h.detached.pending = some p := hp
  rw [refuse_eq h hp, refuse_eq h.detached hpending]
  rfl

theorem detached_approve (h : Handler σ) (p : Pending) (ssid : String) :
    (h.approve p ssid).detached = h.detached.approve p ssid := by
  unfold approve
  by_cases htofu : p.usesTofu = true
  · rw [if_pos htofu, if_pos htofu]
    cases p.chain.anchors with
    | error e => exact detached_error h (some ssid)
    | ok anchors => rw [detached_grant, detached_installChain]
  · rw [if_neg htofu, if_neg htofu, detached_grant]
    rfl

theorem detached_resolving {h : Handler σ} (ssid : String) {act : Pending → Handler σ}
    {act' : Pending → Handler BlankStore}
    (hact : ∀ p, h.pending = some p → (act p).detached = act' p) :
    (h.resolving ssid act).detached = h.detached.resolving ssid act' := by
  have hpending : h.detached.pending = h.pending := rfl
  unfold resolving
  rw [hpending]
  cases hp : h.pending with
  | none => exact detached_error h none
  | some p =>
      dsimp only
      by_cases hname : ssid = ""
      · rw [if_pos hname, if_pos hname, detached_error]
      · rw [if_neg hname, if_neg hname]
        by_cases hssid : p.network.ssid = ssid
        · rw [if_pos hssid, if_pos hssid, hact p hp]
        · rw [if_neg hssid, if_neg hssid]

@[simp] theorem detached_accept (h : Handler σ) (ssid : String) :
    (h.accept ssid).detached = h.detached.accept ssid :=
  detached_resolving ssid fun p _ => detached_approve h p ssid

@[simp] theorem detached_reject (h : Handler σ) (ssid : String) :
    (h.reject ssid).detached = h.detached.reject ssid :=
  detached_resolving ssid fun _ hp => detached_refuse hp ssid

theorem detached_follow (h : Handler σ) (token : PromptToken) (reply : PromptReply) :
    (h.follow token reply).detached = h.detached.follow token reply := by
  cases reply with
  | accept => exact detached_accept h token.ssid
  | reject | neutral | cancel => exact detached_reject h token.ssid
  | tap => simp only [follow, apply_ite detached, detached_askForApproval]
  | link => simp only [follow, apply_ite detached, detached_notifyUser]

@[simp] theorem detached_reply (h : Handler σ) (token : PromptToken) (reply : PromptReply) :
    (h.reply token reply).detached = h.detached.reply token reply := by
  have hactive : h.detached.activeToken = h.activeToken := rfl
  have hpending : h.detached.pending = h.pending := rfl
  simp only [Handler.reply, hactive, hpending, apply_ite detached, detached_dismissPrompt,
    detached_follow, detached_error]

theorem detached_prepare (h : Handler σ) (n : Network) :
    (h.prepare n).2.2.detached = (h.detached.prepare n).2.2 := by
  rw [prepare_eq, prepare_eq]
  rfl

theorem detached_addCertificate (h : Handler σ) (ssid : String) (depth : Int) (c : Certificate) :
    h.detached.addCertificate ssid depth c =
      ((h.addCertificate ssid depth c).1, (h.addCertificate ssid depth c).2.detached) := by
  unfold addCertificate
  rw [detached_collect]
  cases h.collect ssid depth c with
  | none => rfl
  | some h' => simp only [Option.map_some, apply_ite detached, detached_putOnHold]

theorem detached_start (h : Handler σ) (userSelected : Bool) :
    h.detached.start userSelected =
      ((h.start userSelected).1, (h.start userSelected).2.detached) := by
  have hpending : h.detached.pending = h.pending := rfl
  have hpolicy : h.detached.policy = h.policy := rfl
  unfold start
  rw [hpending, hpolicy]
  cases h.pending with
  | none => rfl
  | some p =>
      dsimp only
      have hasked : (true, h.detached.beginApproval userSelected) =
          (true, (h.beginApproval userSelected).detached) := by rw [detached_beginApproval]
      have hfailed : h.detached.error (some p.network.ssid) =
          (h.error (some p.network.ssid)).detached := (detached_error h _).symm
      rw [hasked, hfailed]
      split
      · rfl
      · split
        · rfl
        · split
          · cases p.chain.validate with
            | ok => rfl
            | error e =>
                dsimp only
                rw [apply_ite detached, detached_showInvalidChain]
          · split
            · rfl
            · rfl

/-- One operation goes the same way over any store. -/
theorem detached_step (h : Handler σ) (op : Operation) :
    h.detached.step op = ((h.step op).1, (h.step op).2.detached) := by
  have hanswer (n : Network) : ((h.detached.prepare n).1, (h.detached.prepare n).2.1) =
      ((h.prepare n).1, (h.prepare n).2.1) := by
    rw [prepare_preparation, prepare_network, prepare_preparation, prepare_network]
    rfl
  cases op with
  | prepare n =>
      obtain ⟨hpreparation, hnetwork⟩ := Prod.mk.inj (hanswer n)
      dsimp only [step]
      rw [hpreparation, hnetwork, detached_prepare]
  | addCertificate ssid depth c =>
      dsimp only [step]
      rw [detached_addCertificate]
  | setCertificate ssid c =>
      dsimp only [step, setCertificate]
      rw [detached_addCertificate]
  | start userSelected =>
      dsimp only [step]
      rw [detached_start]
  | reply token reply => exact Prod.ext rfl (detached_reply h token reply).symm
  | accept ssid => exact Prod.ext rfl (detached_accept h ssid).symm
  | reject ssid => exact Prod.ext rfl (detached_reject h ssid).symm
  | error ssid => exact Prod.ext rfl (detached_error h ssid).symm
  | putOnHold disconnect => exact Prod.ext rfl (detached_putOnHold h disconnect).symm
  | cleanup => exact Prod.ext rfl (detached_cleanup h).symm

theorem detached_run (h : Handler σ) (ops : List Operation) :
    h.detached.answers ops = h.answers ops ∧ h.detached.run ops = (h.run ops).detached := by
  induction ops generalizing h with
  | nil => exact ⟨rfl, rfl⟩
  | cons op ops ih =>
      have hstep := detached_step h op
      obtain ⟨hanswers, hrun⟩ := ih (h.step op).2
      constructor
      · rw [answers, answers, hstep, hanswers]
      · rw [run, run, hstep, hrun]

/-- The store does not steer the protocol. Over any two stores, which may hold and answer different
things, the same operations are answered alike and hand back the same networks, and after each of
them the handlers differ in their stores only: they have shown and dismissed the same prompts, made
the same calls and the same decisions, and are in the same state. -/
theorem store_never_steers (policy : Policy) (store : σ) (store' : τ) (session : NativeSession)
    (board : PromptBoard) (decisions : List Decision) (ops : List Operation) :
    let h := fresh policy store session board decisions
    let g := fresh policy store' session board decisions
    h.answers ops = g.answers ops ∧
      ∀ n, Alike (h.run (ops.take n)) (g.run (ops.take n)) ∧
        (h.run (ops.take n)).state = (g.run (ops.take n)).state := by
  intro h g
  have hsame : h.detached = g.detached := rfl
  have halike (earlier : List Operation) : Alike (h.run earlier) (g.run earlier) := by
    apply alike_of_detached_eq
    rw [← (detached_run h earlier).2, ← (detached_run g earlier).2, hsame]
  refine ⟨?_, fun n => ⟨halike (ops.take n), ?_⟩⟩
  · rw [← (detached_run h ops).1, ← (detached_run g ops).1, hsame]
  · unfold state
    rw [(halike (ops.take n)).pending]

end Handler

end WifiTrust
