import WifiTrust.Proofs.Handler.Coherence
import WifiTrust.Proofs.Prompt.Board
import WifiTrust.Store.Memory

/-!
# The screen of a handler

The pending connection, the prompt that a handler takes to be on the screen and the board of prompts
stay in step over every run, and the device decides which prompts are ever shown.
-/

namespace WifiTrust.Handler

variable {σ : Type}

inductive ScreenStep (h : Handler σ) : Handler σ → Prop
  | kept {h' : Handler σ} (board : h'.board = h.board) (active : h'.active = h.active) :
      ScreenStep h h'
  | cleared {h' : Handler σ} (board : h'.board = h.clearedBoard) (active : h'.active = none) :
      ScreenStep h h'
  | posted {h' : Handler σ} (r : PromptRequest) (board : h'.board = h.clearedBoard.post r)
      (active : h'.active = some ⟨r.token, h.clearedBoard.nextHandle⟩) : ScreenStep h h'

theorem Shown.screenStep {h h' : Handler σ} (shown : Shown h h') : ScreenStep h h' := by
  cases shown with
  | @request _ r => exact .posted r rfl rfl
  | nothing => exact .kept rfl rfl

/-- What the handler takes to be on the screen is there, and nothing else is. -/
structure InStep (board : PromptBoard) (active : Option ActivePrompt) : Prop where
  numbered : board.Numbered
  empty : active = none → ∀ q ∈ board.shown, q.dismissed = true
  single : ∀ a, active = some a → ∃ before last, board.shown = before ++ [last] ∧
    (∀ q ∈ before, q.dismissed = true) ∧ last.dismissed = false ∧ last.handle = a.handle ∧
    last.request.token = a.token

theorem InStep.cleared {h : Handler σ} (hs : InStep h.board h.active) :
    InStep h.clearedBoard none := by
  unfold clearedBoard
  cases ha : h.active with
  | none => exact ⟨hs.numbered, fun _ => hs.empty ha, nofun⟩
  | some a =>
      obtain ⟨before, last, hshown, hbefore, -, hhandle, -⟩ := hs.single a ha
      have hdismissed : (h.board.dismiss a.handle).shown =
          before ++ [{ last with dismissed := true }] := by
        rw [← hhandle]
        exact PromptBoard.dismiss_last hshown (hs.numbered.ne_last hshown)
      refine ⟨hs.numbered.dismiss a.handle, fun _ q hq => ?_, nofun⟩
      change q ∈ (h.board.dismiss a.handle).shown at hq
      rw [hdismissed] at hq
      rcases List.mem_append.1 hq with hq | hq
      · exact hbefore q hq
      · rw [List.mem_singleton.1 hq]

theorem InStep.posted {b : PromptBoard} (hs : InStep b none) (r : PromptRequest) :
    InStep (b.post r) (some ⟨r.token, b.nextHandle⟩) := by
  refine ⟨hs.numbered.post r, nofun, ?_⟩
  rintro a ⟨⟩
  exact ⟨b.shown, ⟨b.nextHandle, r, false⟩, rfl, hs.empty rfl, rfl, rfl, rfl⟩

theorem ScreenStep.inStep {h h' : Handler σ} (step : ScreenStep h h')
    (hs : InStep h.board h.active) : InStep h'.board h'.active := by
  cases step with
  | kept hboard hactive => rw [hboard, hactive]; exact hs
  | cleared hboard hactive => rw [hboard, hactive]; exact hs.cleared
  | posted r hboard hactive => rw [hboard, hactive]; exact hs.cleared.posted r

theorem requests_clearedBoard (h : Handler σ) : h.clearedBoard.requests = h.board.requests := by
  unfold clearedBoard
  cases h.active with
  | none => rfl
  | some a => exact PromptBoard.requests_dismiss h.board a.handle

variable [NetworkStore σ]

theorem Effect.screenStep {h h' : Handler σ} {op : Operation} (effect : Effect h op h') :
    ScreenStep h h' := by
  cases effect with
  | ignored => exact .kept rfl rfl
  | prepared n => rw [prepare_eq]; exact .cleared rfl rfl
  | collected => rw [received_eq]; exact .kept rfl rfl
  | started _ _ _ _ shown =>
      cases shown with
      | @request _ r => exact .posted r rfl rfl
      | nothing => exact .kept rfl rfl
  | @broken userSelected p => rw [showInvalidChain_eq, error_eq]; exact .posted _ rfl rfl
  | reopened _ _ shown => exact shown.screenStep
  | acknowledged => rw [dismissPrompt_eq]; exact .cleared rfl rfl
  | installed => rw [installChain_eq, grant_eq]; exact .cleared rfl rfl
  | approved => rw [grant_eq]; exact .cleared rfl rfl
  | refused _ hp => rw [refuse_eq h hp]; exact .cleared rfl rfl
  | failed => rw [error_eq]; exact .cleared rfl rfl
  | held => rw [putOnHold_eq]; exact .kept rfl rfl
  | cleaned => rw [cleanup_eq]; exact .cleared rfl rfl

theorem Effect.requests {h h' : Handler σ} {op : Operation} (effect : Effect h op h')
    (hc : h'.Coherent) : ∃ rs, h'.board.requests = h.board.requests ++ rs ∧
      ∀ r ∈ rs, r.token.kind.isLegacy = !h'.policy.trustOnFirstUseSupported := by
  cases effect.screenStep with
  | kept hboard => exact ⟨[], by rw [hboard, List.append_nil], List.forall_mem_nil _⟩
  | cleared hboard =>
      exact ⟨[], by rw [hboard, requests_clearedBoard, List.append_nil], List.forall_mem_nil _⟩
  | posted r hboard hactive =>
      refine ⟨[r], by rw [hboard, PromptBoard.requests_post, requests_clearedBoard], ?_⟩
      intro q hq
      rw [List.mem_singleton.1 hq]
      exact hc.offered _ hactive

/-- What holds in every state of a run that begins with `board`. -/
structure Steady (policy : Policy) (board : PromptBoard) (h : Handler σ) : Prop where
  policy_eq : h.policy = policy
  coherent : h.Coherent
  inStep : InStep h.board h.active
  shown : ∃ rs, h.board.requests = board.requests ++ rs ∧
    ∀ r ∈ rs, r.token.kind.isLegacy = !policy.trustOnFirstUseSupported

theorem Effect.steady {policy : Policy} {board : PromptBoard} {h h' : Handler σ} {op : Operation}
    (effect : Effect h op h') (hs : Steady policy board h) : Steady policy board h' := by
  have hc := effect.coherent hs.coherent
  have hpolicy : h'.policy = policy := effect.policy_eq.trans hs.policy_eq
  obtain ⟨rs, hrs, hkind⟩ := hs.shown
  obtain ⟨new, hnew, hnewKind⟩ := effect.requests hc
  refine ⟨hpolicy, hc, effect.screenStep.inStep hs.inStep, rs ++ new, ?_, ?_⟩
  · rw [hnew, hrs, List.append_assoc]
  · intro r hr
    rcases List.mem_append.1 hr with hr | hr
    · exact hkind r hr
    · rw [← hpolicy]
      exact hnewKind r hr

theorem run_steady (policy : Policy) (store : σ) (session : NativeSession)
    (decisions : List Decision) {board : PromptBoard} (built : board.Built)
    (clear : ∀ q ∈ board.shown, q.dismissed = true) (ops : List Operation) :
    Steady policy board ((fresh policy store session board decisions).run ops) :=
  run_invariant Effect.steady
    ⟨rfl, coherent_fresh policy store session board decisions,
      ⟨built.numbered, fun _ => clear, fun _ ha => by cases ha⟩, [], (List.append_nil _).symm,
      List.forall_mem_nil _⟩ ops

/-- The prompt invariant. Handles count up from one; without an active prompt everything is
dismissed, and an active prompt is the one prompt on the screen, the latest. It fits the pending
connection, and only prompts that suit the device are ever shown. -/
theorem prompt_invariant (policy : Policy) (store : σ) (session : NativeSession)
    (decisions : List Decision) {board : PromptBoard} (built : board.Built)
    (clear : ∀ q ∈ board.shown, q.dismissed = true) (ops : List Operation) :
    let h := (fresh policy store session board decisions).run ops
    h.board.shown.map (·.handle) = List.range' 1 h.board.shown.length ∧
    (h.active = none → ∀ q ∈ h.board.shown, q.dismissed = true) ∧
    (∀ a, h.active = some a →
      (∃ before last, h.board.shown = before ++ [last] ∧
        (∀ q ∈ before, q.dismissed = true) ∧ last.dismissed = false ∧ last.handle = a.handle ∧
        last.request.token = a.token) ∧
      (a.token.kind = .tofuDialog ∨ a.token.kind = .tofuNotification →
        ∃ p, h.pending = some p ∧ p.gated = true ∧ p.usesTofu = true ∧
          p.approvalStarted = true ∧ p.network.ssid = a.token.ssid ∧ p.chain.get? 0 ≠ none) ∧
      (a.token.kind = .legacyDialog ∨ a.token.kind = .legacyNotification →
        ∃ p, h.pending = some p ∧ p.gated = true ∧ p.usesTofu = false ∧
          p.approvalStarted = true ∧ p.network.ssid = a.token.ssid) ∧
      (a.token.kind = .invalidChainDialog ∨ a.token.kind = .invalidChainNotification →
        h.pending = none)) ∧
    ∃ rs, h.board.requests = board.requests ++ rs ∧
      (policy.trustOnFirstUseSupported = true →
        ∀ r ∈ rs, r.token.kind ≠ .legacyDialog ∧ r.token.kind ≠ .legacyNotification) ∧
      (policy.trustOnFirstUseSupported = false →
        ∀ r ∈ rs, r.token.kind = .legacyDialog ∨ r.token.kind = .legacyNotification) := by
  intro h
  have hs : Steady policy board h := run_steady policy store session decisions built clear ops
  obtain ⟨rs, hrs, hkind⟩ := hs.shown
  refine ⟨hs.inStep.numbered, hs.inStep.empty, fun a ha => ?_, rs, hrs, ?_, ?_⟩
  · have hfits := hs.coherent.fits a ha
    refine ⟨hs.inStep.single a ha, fun hkind => ?_, fun hkind => ?_, fun hkind => ?_⟩
    · obtain ⟨hasks, htofu⟩ := PromptKind.asks_tofu_iff.2 hkind
      obtain ⟨p, hp, hw⟩ := hfits.awaited hasks
      have hmode : p.usesTofu = true := by rw [hw.mode, htofu]; rfl
      exact ⟨p, hp, hw.gated, hmode, hw.started, hw.ssid_eq, hw.leaf hmode⟩
    · have hlegacy := PromptKind.isLegacy_iff.2 hkind
      obtain ⟨p, hp, hw⟩ := hfits.awaited (PromptKind.isInformational_of_isLegacy hlegacy)
      exact ⟨p, hp, hw.gated, by rw [hw.mode, hlegacy]; rfl, hw.started, hw.ssid_eq⟩
    · exact hfits.informational (PromptKind.isInformational_iff.2 hkind)
  · intro hsupported r hr
    have hlegacy := hkind r hr
    rw [hsupported, Bool.not_true, Bool.eq_false_iff, ne_eq, PromptKind.isLegacy_iff,
      not_or] at hlegacy
    exact hlegacy
  · intro hsupported r hr
    have hlegacy := hkind r hr
    rw [hsupported, Bool.not_false] at hlegacy
    exact PromptKind.isLegacy_iff.1 hlegacy

open Corporate in
theorem corporate_prompt_invariant :
    let board : PromptBoard := (({} : PromptBoard).post
      (.notification (Wording.tofuNotification (token .tofuNotification)))).dismiss 1
    let h : Handler MemoryStore := fresh {} { clock := default } {} board []
    board.Built ∧ (∀ q ∈ board.shown, q.dismissed = true) ∧
      (h.run (collection ++ [.start true])).active = some ⟨token .tofuDialog, 2⟩ ∧
      ∃ p, (h.run (collection ++ [.start true])).pending = some p ∧ p.approvalStarted = true ∧
        p.network.ssid = "corp" := by
  intro board h
  have built : board.Built := .dismiss (.post .empty _) 1
  have clear : ∀ q ∈ board.shown, q.dismissed = true := by
    intro q hq
    rw [List.mem_singleton.1 hq]
  have active : (h.run (collection ++ [.start true])).active = some ⟨token .tofuDialog, 2⟩ := by rfl
  have hinvariant := prompt_invariant {} ({ clock := default } : MemoryStore) {} [] built clear
    (collection ++ [.start true])
  obtain ⟨p, hp, _, _, hstarted, hssid, _⟩ := (hinvariant.2.2.1 _ active).2.1 (.inl rfl)
  exact ⟨built, clear, active, p, hp, hstarted, hssid⟩

end WifiTrust.Handler
