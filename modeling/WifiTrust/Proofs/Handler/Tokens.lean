import Mathlib
import WifiTrust.Proofs.Handler.Coherence
import WifiTrust.Proofs.Handler.Requests
import WifiTrust.Store.Memory

/-!
# Stale replies

Tokens are counted up and never used twice, so the token of a prompt that has left the screen is
never that of the prompt on the screen, and a reply under it does not touch a pending connection.
-/

namespace WifiTrust.Handler

variable {σ : Type}

/-- Requests under ever higher numbers, none of them above the last that was given out. -/
structure Counted (rs : List PromptRequest) (h : Handler σ) : Prop where
  increasing : rs.Pairwise fun r r' => r.token.id < r'.token.id
  bounded : ∀ r ∈ rs, r.token.id ≤ h.lastPromptId

theorem Counted.mono {rs : List PromptRequest} {h h' : Handler σ} (hc : Counted rs h)
    (hle : h.lastPromptId ≤ h'.lastPromptId) : Counted rs h' where
  increasing := hc.increasing
  bounded := fun r hr => UInt64.le_trans (hc.bounded r hr) hle

theorem Counted.posts {rs : List PromptRequest} {h h' : Handler σ} (hc : Counted rs h)
    {r : PromptRequest} (posts : Posts h r h') (hlt : h.lastPromptId < h'.lastPromptId) :
    Counted (rs ++ [r]) h' := by
  have hlast : r.token.id = h'.lastPromptId := posts.numbered.trans posts.count.symm
  constructor
  · rw [List.pairwise_append]
    refine ⟨hc.increasing, List.pairwise_singleton _ _, fun q hq r' hr' => ?_⟩
    rw [List.mem_singleton.1 hr', hlast]
    exact UInt64.lt_of_le_of_lt (hc.bounded q hq) hlt
  · intro q hq
    rcases List.mem_append.1 hq with hq | hq
    · exact UInt64.le_trans (hc.bounded q hq) (UInt64.le_of_lt hlt)
    · rw [List.mem_singleton.1 hq, hlast]
      exact UInt64.le_refl _

theorem Counted.token_ne {rs rs' : List PromptRequest} {h : Handler σ}
    (hc : Counted (rs ++ rs') h) {r r' : PromptRequest} (hr : r ∈ rs) (hr' : r' ∈ rs') :
    r.token ≠ r'.token := by
  intro hsame
  have hlt : r.token.id < r'.token.id :=
    (List.pairwise_append.1 hc.increasing).2.2 r hr r' hr'
  rw [hsame] at hlt
  exact UInt64.lt_irrefl _ hlt

variable [NetworkStore σ]

theorem reply_of_lost {h : Handler σ} {token : PromptToken}
    (inactive : h.activeToken ≠ some token) (hnone : h.pending = none)
    (asks : token.kind.isInformational = false) (reply : PromptReply) :
    h.reply token reply =
      { h with
        session := ⟨h.session.calls ++ [.removeAllNetworks h.policy.interfaceName]⟩
        board := h.clearedBoard
        active := none
        decisions := h.decisions ++ [.error none] } := by
  have herror : h.reply token reply = h.error none := by
    unfold Handler.reply
    dsimp only
    rw [asks, if_neg Bool.false_ne_true, if_neg inactive, hnone]
    rfl
  have hstore : h.heldStore = h.store := by rw [heldStore, hnone]
  have hflushed : h.flushedSession =
      ⟨h.session.calls ++ [.removeAllNetworks h.policy.interfaceName]⟩ := by
    rw [flushedSession, hnone]
    rfl
  rw [herror, error_eq, hstore, hflushed]
  simp only [hnone]

theorem reply_of_inactive_informational {h : Handler σ} {token : PromptToken}
    (inactive : h.activeToken ≠ some token) (informs : token.kind.isInformational = true)
    (reply : PromptReply) : h.reply token reply = h := by
  unfold Handler.reply
  dsimp only
  rw [if_pos informs, if_neg inactive]

/-- How many tokens a run gives out, shown or not. -/
def tokensIssued (h : Handler σ) : List Operation → Nat
  | [] => 0
  | op :: ops =>
      (if (h.step op).2.lastPromptId = h.lastPromptId then 0 else 1) +
        (h.step op).2.tokensIssued ops

private theorem toNat_add_one {x : UInt64} (h : x.toNat + 1 < 2 ^ 64) :
    (x + 1).toNat = x.toNat + 1 := by
  rw [UInt64.toNat_add]
  exact Nat.mod_eq_of_lt h

theorem add_one_ne_self (x : UInt64) : x + 1 ≠ x := by
  intro h
  have hmod : (x.toNat + 1) % 2 ^ 64 = x.toNat := (UInt64.toNat_add x 1).symm.trans (by rw [h])
  omega

theorem tokensIssued_of_kept {h : Handler σ} {op : Operation}
    (hkept : (h.step op).2.lastPromptId = h.lastPromptId) (ops : List Operation) :
    h.tokensIssued (op :: ops) = (h.step op).2.tokensIssued ops := by
  rw [tokensIssued, if_pos hkept, Nat.zero_add]

theorem tokensIssued_of_issued {h : Handler σ} {op : Operation}
    (hissued : (h.step op).2.lastPromptId = h.lastPromptId + 1) (ops : List Operation) :
    h.tokensIssued (op :: ops) = (h.step op).2.tokensIssued ops + 1 := by
  have hmoved : (h.step op).2.lastPromptId ≠ h.lastPromptId := hissued ▸ add_one_ne_self _
  rw [tokensIssued, if_neg hmoved, Nat.add_comm]

/-- Until the numbers run out, what one operation gives out is missing from what is to come. -/
theorem lastPromptId_step {h : Handler σ} {op : Operation} {ops : List Operation}
    (fewer : h.lastPromptId.toNat + h.tokensIssued (op :: ops) < 2 ^ 64) :
    (h.step op).2.lastPromptId.toNat + (h.step op).2.tokensIssued ops =
      h.lastPromptId.toNat + h.tokensIssued (op :: ops) := by
  have hcount : (h.step op).2.lastPromptId = h.lastPromptId ∨
      (h.step op).2.lastPromptId = h.lastPromptId + 1 := by
    rcases step_posts h op with hsilent | ⟨_, hposts⟩
    · exact hsilent.count
    · exact .inr hposts.count
  rcases hcount with hkept | hissued
  · rw [tokensIssued_of_kept hkept, hkept]
  · rw [tokensIssued_of_issued hissued] at fewer ⊢
    rw [hissued, toNat_add_one (by omega)]
    omega

theorem Counted.step {rs : List PromptRequest} {h : Handler σ} (hc : Counted rs h)
    {op : Operation} {ops : List Operation}
    (fewer : h.lastPromptId.toNat + h.tokensIssued (op :: ops) < 2 ^ 64) :
    Counted (rs ++ (h.step op).2.shownSince h) (h.step op).2 := by
  have hbudget := lastPromptId_step fewer
  rcases step_posts h op with hsilent | ⟨r, hposts⟩
  · rw [hsilent.shownSince_eq, List.append_nil]
    refine hc.mono (UInt64.le_iff_toNat_le.2 ?_)
    rw [tokensIssued] at hbudget
    omega
  · rw [hposts.shownSince_eq]
    refine hc.posts hposts (UInt64.lt_iff_toNat_lt.2 ?_)
    rw [tokensIssued_of_issued hposts.count] at hbudget
    omega

theorem Counted.run {rs : List PromptRequest} {h : Handler σ} (hc : Counted rs h)
    {ops : List Operation} (fewer : h.lastPromptId.toNat + h.tokensIssued ops < 2 ^ 64) :
    Counted (rs ++ (h.run ops).shownSince h) (h.run ops) := by
  induction ops generalizing h rs with
  | nil =>
      rw [Handler.run, shownSince_self, List.append_nil]
      exact hc
  | cons op ops ih =>
      rw [shownSince_cons, ← List.append_assoc]
      exact ih (hc.step fewer) (lastPromptId_step fewer ▸ fewer)

theorem Counted.superseded {h : Handler σ} {before since : List Operation} {n : Network}
    (hc : Counted ((h.run (before ++ .prepare n :: since)).shownSince h)
      (h.run (before ++ .prepare n :: since)))
    {r : PromptRequest} (hr : r ∈ (h.run before).shownSince h) :
    (h.run (before ++ .prepare n :: since)).activeToken ≠ some r.token := by
  intro active
  rw [run_append] at active
  have hclear : ((h.run before).prepare n).2.2.activeToken = none := by
    rw [prepare_eq]
    rfl
  obtain ⟨earlier, last, hshown, htoken⟩ := (run_hasShown hclear since).latest r.token active
  have hlast : last ∈ (((h.run before).prepare n).2.2.run since).shownSince
      ((h.run before).prepare n).2.2 := by
    rw [hshown]
    exact List.mem_append_right earlier (List.mem_singleton_self last)
  rw [shownSince_append, shownSince_cons] at hc
  exact hc.token_ne hr (List.mem_append_right _ hlast) htoken.symm

/-- Stale replies are inert. While fewer than 2 ^ 64 tokens are given out, the numbers of the
prompts that are shown go up, and the token on the screen is that of the latest of them only. A
reply under any other token changes nothing while a connection is pending or if the token is
informational; otherwise it reports an error and flushes the interface. So a reply to a prompt from
before the preparation of an attempt does not touch that attempt. -/
theorem stale_replies_are_inert (policy : Policy) (store : σ) (session : NativeSession)
    (board : PromptBoard) (decisions : List Decision) (ops : List Operation)
    (fewer : (fresh policy store session board decisions).tokensIssued ops < 2 ^ 64) :
    let h₀ := fresh policy store session board decisions
    let h := h₀.run ops
    let shown := h.shownSince h₀
    h.board.requests = board.requests ++ shown ∧
    (shown.map (·.token.id)).Pairwise (· < ·) ∧
    (∀ token, h.activeToken = some token → ∃ earlier last, shown = earlier ++ [last] ∧
      last.token = token ∧ ∀ r ∈ earlier, r.token ≠ token) ∧
    (∀ token reply, h.activeToken ≠ some token →
      (h.pending ≠ none ∨ token.kind.isInformational = true → h.reply token reply = h) ∧
      (h.pending = none → token.kind.isInformational = false → h.reply token reply =
        { h with
          session := ⟨h.session.calls ++ [.removeAllNetworks policy.interfaceName]⟩
          board := h.clearedBoard
          active := none
          decisions := h.decisions ++ [.error none] })) ∧
    ∀ before n since, ops = before ++ .prepare n :: since →
      ∀ r ∈ (h₀.run before).shownSince h₀, h.activeToken ≠ some r.token ∧
        (h.pending ≠ none → ∀ reply, h.reply r.token reply = h) := by
  intro h₀ h shown
  have hpolicy : h.policy = policy := run_policy h₀ ops
  have hstart : Counted [] h₀ := ⟨.nil, List.forall_mem_nil _⟩
  have hbudget : h₀.lastPromptId.toNat + h₀.tokensIssued ops < 2 ^ 64 := by
    rw [show h₀.lastPromptId.toNat = 0 from rfl, Nat.zero_add]
    exact fewer
  have hcounted : Counted shown h := hstart.run hbudget
  have hshown : HasShown board.requests shown h := run_hasShown (h := h₀) rfl ops
  refine ⟨hshown.requests, List.pairwise_map.2 hcounted.increasing, ?_, ?_, ?_⟩
  · intro token active
    obtain ⟨earlier, last, hlast, rfl⟩ := hshown.latest token active
    rw [hlast] at hcounted
    exact ⟨earlier, last, hlast, rfl, fun r hr =>
      hcounted.token_ne hr (List.mem_singleton_self last)⟩
  · intro token reply inactive
    constructor
    · rintro (pending | informs)
      · exact reply_of_inactive inactive pending reply
      · exact reply_of_inactive_informational inactive informs reply
    · intro hnone asks
      rw [← hpolicy]
      exact reply_of_lost inactive hnone asks reply
  · rintro before n since rfl r hr
    have inactive : h.activeToken ≠ some r.token := hcounted.superseded hr
    exact ⟨inactive, fun pending reply => reply_of_inactive inactive pending reply⟩

open Corporate in
theorem stale_corporate_reply_is_inert :
    let h₀ : Handler MemoryStore := fresh {} { clock := default } {} {} []
    let ops := collection ++ [.start true, .prepare { network with id := 8 }]
    let h := h₀.run ops
    h₀.tokensIssued ops < 2 ^ 64 ∧ h.pendingSsid = some "corp" ∧
      h.reply (token .tofuDialog) .accept = h := by
  intro h₀ ops h
  have issued : h₀.tokensIssued ops = 1 := by rfl
  have fewer : h₀.tokensIssued ops < 2 ^ 64 := by
    rw [issued]
    decide
  have ssid : h.pendingSsid = some "corp" := by rfl
  have pending : h.pending ≠ none := Option.some_ne_none _
  obtain ⟨_, _, _, _, hsuperseded⟩ :=
    stale_replies_are_inert {} ({ clock := default } : MemoryStore) {} {} [] ops fewer
  obtain ⟨_, hinert⟩ := hsuperseded (collection ++ [.start true]) _ [] rfl _ List.mem_cons_self
  exact ⟨fewer, ssid, hinert pending .accept⟩

end WifiTrust.Handler
