import WifiTrust.Proofs.Handler.Requests
import WifiTrust.Proofs.Handler.Starting
import WifiTrust.Proofs.Handler.Verdicts
import WifiTrust.Proofs.Prompt.Offers

/-!
# Every reply that is offered gets an attempt on

The prompt on the screen is what the board shows latest, and a reply that it offers either ends the
attempt, or acknowledges a notice, or leads to a prompt of a kind that is nearer to the end. Two
such replies are enough, whatever the handshake reports between them.
-/

namespace WifiTrust.Handler

variable {σ : Type}

/-- The prompt on the screen is the latest on the board that is not dismissed. -/
structure Presents (h : Handler σ) (a : ActivePrompt) (shown : ShownPrompt) : Prop where
  outstanding : h.board.outstanding? = some shown
  handle : shown.handle = a.handle
  token : shown.request.token = a.token

structure Responsive (h : Handler σ) : Prop where
  coherent : h.Coherent
  numbered : h.board.Numbered
  presented : ∀ a, h.active = some a → ∃ shown, h.Presents a shown ∧ shown.request.Honest

theorem responsive_fresh (policy : Policy) (store : σ) (session : NativeSession)
    {board : PromptBoard} (built : board.Built) (decisions : List Decision) :
    (fresh policy store session board decisions).Responsive :=
  ⟨coherent_fresh policy store session board decisions, built.numbered, nofun⟩

theorem ScreenStep.numbered {h h' : Handler σ} (step : ScreenStep h h') (hn : h.board.Numbered) :
    h'.board.Numbered := by
  have hcleared : h.clearedBoard.Numbered := by
    unfold clearedBoard
    cases h.active with
    | none => exact hn
    | some a => exact hn.dismiss a.handle
  cases step with
  | kept hboard => rw [hboard]; exact hn
  | cleared hboard => rw [hboard]; exact hcleared
  | posted r hboard => rw [hboard]; exact hcleared.post r

section Presented

variable {h h' : Handler σ}

theorem presented_prompted (h : Handler σ) {r : PromptRequest} (honest : r.Honest) :
    ∀ a, (h.prompted r).active = some a →
      ∃ shown, (h.prompted r).Presents a shown ∧ shown.request.Honest := by
  rintro a ⟨⟩
  exact ⟨_, ⟨PromptBoard.outstanding?_post h.clearedBoard r, rfl, rfl⟩, honest⟩

theorem Presents.kept {a : ActivePrompt} {shown : ShownPrompt} (presents : h.Presents a shown)
    (board : h'.board = h.board) : h'.Presents a shown :=
  ⟨(congrArg _ board).trans presents.outstanding, presents.handle, presents.token⟩

theorem Shown.presented (shown : Shown h h')
    (hp : ∀ a, h.active = some a → ∃ shown, h.Presents a shown ∧ shown.request.Honest) :
    ∀ a, h'.active = some a → ∃ shown, h'.Presents a shown ∧ shown.request.Honest := by
  cases shown with
  | request _ asks => exact presented_prompted h asks.honest
  | nothing =>
      intro a ha
      obtain ⟨shown, hpresents, honest⟩ := hp a ha
      exact ⟨shown, hpresents.kept rfl, honest⟩

variable [NetworkStore σ]

theorem Effect.presented {op : Operation} (effect : Effect h op h')
    (hp : ∀ a, h.active = some a → ∃ shown, h.Presents a shown ∧ shown.request.Honest) :
    ∀ a, h'.active = some a → ∃ shown, h'.Presents a shown ∧ shown.request.Honest := by
  have kept {g : Handler σ} (board : g.board = h.board) (active : g.active = h.active) :
      ∀ a, g.active = some a → ∃ shown, g.Presents a shown ∧ shown.request.Honest := by
    intro a ha
    obtain ⟨shown, hpresents, honest⟩ := hp a (active ▸ ha)
    exact ⟨shown, hpresents.kept board, honest⟩
  cases effect with
  | ignored => exact hp
  | prepared n => rw [prepare_eq]; exact nofun
  | collected => rw [received_eq]; exact kept rfl rfl
  | started _ _ _ _ shown =>
      have hmarked : ∀ a, h.markStarted.active = some a →
          ∃ shown, h.markStarted.Presents a shown ∧ shown.request.Honest := kept rfl rfl
      exact shown.presented hmarked
  | broken =>
      rw [showInvalidChain_eq]
      apply presented_prompted
      split
      · exact honest_invalidChainDialog _
      · exact honest_invalidChainNotification _
  | reopened _ _ shown => exact shown.presented hp
  | acknowledged => rw [dismissPrompt_eq]; exact nofun
  | installed => rw [installChain_eq, grant_eq]; exact nofun
  | approved => rw [grant_eq]; exact nofun
  | refused _ hpending => rw [refuse_eq h hpending]; exact nofun
  | failed => rw [error_eq]; exact nofun
  | held => rw [putOnHold_eq]; exact kept rfl rfl
  | cleaned => rw [cleanup_eq]; exact nofun

theorem Effect.responsive {op : Operation} (effect : Effect h op h') (hr : h.Responsive) :
    h'.Responsive :=
  ⟨effect.coherent hr.coherent, effect.screenStep.numbered hr.numbered,
    effect.presented hr.presented⟩

theorem Responsive.step (hr : h.Responsive) (op : Operation) : (h.step op).2.Responsive :=
  (step_effect h op).responsive hr

end Presented

/-- An attempt is closed by one decision, and its prompt goes off the screen. -/
structure Resolves (h h' : Handler σ) : Prop where
  decided : ∃ d, h'.decisions = h.decisions ++ [d]
  idle : h'.pending = none
  blank : h'.active = none
  board : h'.board = h.clearedBoard

/-- What a reply to the prompt on the screen does if it does anything. -/
inductive Advances (h : Handler σ) (kind : PromptKind) (reply : PromptReply) : Handler σ → Prop
  | resolved {h' : Handler σ} (resolves : h.Resolves h') : Advances h kind reply h'
  | acknowledged (informs : kind.isInformational = true) : Advances h kind reply h.dismissPrompt
  | reopened {p : Pending} {r : PromptRequest} (pending : h.pending = some p)
      (asks : Asks h.policy p (h.lastPromptId + 1) r)
      (leads : kind.next? reply = some r.token.kind) : Advances h kind reply (h.prompted r)

/-- A connection is pending only as long as the user is asked about it. -/
def Settled (h : Handler σ) : Prop := h.active = none → h.pending = none

theorem Settled.of_active {h : Handler σ} {a : ActivePrompt} (active : h.active = some a) :
    h.Settled := fun blank => by rw [active] at blank; cases blank

/-- How many replies it takes at most until nothing is on the screen. -/
def stepsLeft (h : Handler σ) : Nat := h.activeToken.elim 0 (·.kind.steps)

theorem stepsLeft_of_active {h : Handler σ} {a : ActivePrompt} (active : h.active = some a) :
    h.stepsLeft = a.token.kind.steps := by
  simp [stepsLeft, activeToken, active]

theorem stepsLeft_of_blank {h : Handler σ} (blank : h.active = none) : h.stepsLeft = 0 := by
  simp [stepsLeft, activeToken, blank]

theorem active_of_stepsLeft {h : Handler σ} (left : h.stepsLeft = 0) : h.active = none := by
  cases hactive : h.active with
  | none => rfl
  | some a =>
      rw [stepsLeft_of_active hactive] at left
      exact absurd left (Nat.ne_of_gt a.token.kind.steps_pos)

theorem stepsLeft_le_two (h : Handler σ) : h.stepsLeft ≤ 2 := by
  cases hactive : h.active with
  | none => simp [stepsLeft_of_blank hactive]
  | some a =>
      rw [stepsLeft_of_active hactive]
      exact a.token.kind.steps_le_two

section Advance

variable {h h' : Handler σ} {a : ActivePrompt} {reply : PromptReply}

theorem Advances.stepsLeft_lt (advances : h.Advances a.token.kind reply h')
    (active : h.active = some a) : h'.stepsLeft < h.stepsLeft := by
  rw [stepsLeft_of_active active]
  cases advances with
  | resolved resolves =>
      rw [stepsLeft_of_blank resolves.blank]
      exact a.token.kind.steps_pos
  | acknowledged =>
      rw [stepsLeft_of_blank (by rw [dismissPrompt_eq])]
      exact a.token.kind.steps_pos
  | reopened _ _ leads => exact PromptKind.steps_of_next? leads

theorem Advances.settled (advances : h.Advances a.token.kind reply h') (hr : h.Responsive)
    (active : h.active = some a) : h'.Settled := by
  intro blank
  cases advances with
  | resolved resolves => exact resolves.idle
  | acknowledged informs =>
      rw [dismissPrompt_eq]
      exact (hr.coherent.fits a active).informational informs
  | reopened => cases blank

theorem Advances.dismissed (advances : h.Advances a.token.kind reply h') (hr : h.Responsive)
    (active : h.active = some a) : ∀ q ∈ h'.board.shown, q.handle = a.handle →
      q.dismissed = true := by
  have hcleared : h.clearedBoard = h.board.dismiss a.handle := by simp [clearedBoard, active]
  have hgone : ∀ q ∈ h.clearedBoard.shown, q.handle = a.handle → q.dismissed = true := by
    intro q hq hhandle
    rw [hcleared] at hq
    exact PromptBoard.dismissed_of_mem_dismiss hr.numbered.nodup hq hhandle
  cases advances with
  | resolved resolves =>
      rw [resolves.board]
      exact hgone
  | acknowledged =>
      rw [dismissPrompt_eq]
      exact hgone
  | @reopened _ r =>
      intro q hq hhandle
      rcases List.mem_append.1 hq with hq | hq
      · exact hgone q hq hhandle
      · obtain ⟨shown, hpresents, -⟩ := hr.presented a active
        have hlt := hr.numbered.handle_lt (PromptBoard.mem_of_outstanding? hpresents.outstanding)
        have hnew : q.handle = h.board.nextHandle := by
          rw [List.mem_singleton.1 hq, hcleared]
          exact congrArg (· + 1) (PromptBoard.length_dismiss h.board a.handle)
        rw [hpresents.handle, ← hhandle, hnew] at hlt
        exact absurd hlt (Nat.lt_irrefl _)

variable [NetworkStore σ]

theorem resolves_error (h : Handler σ) (ssid : Option String) : h.Resolves (h.error ssid) := by
  rw [error_eq]
  exact ⟨⟨_, rfl⟩, rfl, rfl, rfl⟩

theorem resolves_approve (h : Handler σ) (p : Pending) (ssid : String) :
    h.Resolves (h.approve p ssid) := by
  unfold approve
  split
  · split
    · rw [installChain_eq, grant_eq]
      exact ⟨⟨_, rfl⟩, rfl, rfl, rfl⟩
    · exact resolves_error h (some ssid)
  · rw [grant_eq]
    exact ⟨⟨_, rfl⟩, rfl, rfl, rfl⟩

theorem resolves_refuse {p : Pending} (hp : h.pending = some p) (ssid : String) :
    h.Resolves (h.refuse p ssid) := by
  rw [refuse_eq h hp]
  exact ⟨⟨_, rfl⟩, rfl, rfl, rfl⟩

theorem resolves_resolving {p : Pending} (hp : h.pending = some p) {act : Pending → Handler σ}
    (acts : h.Resolves (act p)) : h.Resolves (h.resolving p.network.ssid act) := by
  unfold resolving
  rw [hp]
  dsimp only
  split
  · exact resolves_error h none
  · rw [if_pos rfl]
    exact acts

/-- A reply that the prompt on the screen offers gets the attempt on. -/
theorem Responsive.reply_advances (hr : h.Responsive) (active : h.active = some a)
    {shown : ShownPrompt} (presents : h.Presents a shown)
    (offered : shown.request.offers reply = true) :
    h.Advances a.token.kind reply (h.reply a.token reply) := by
  have hactive : h.activeToken = some a.token := by simp [activeToken, active]
  have hopens : reply = .tap ∨ reply = .link → ∃ kind, a.token.kind.next? reply = some kind := by
    obtain ⟨shown', hpresents, honest⟩ := hr.presented a active
    cases presents.outstanding.symm.trans hpresents.outstanding
    rw [← presents.token]
    exact honest reply offered
  cases hkind : a.token.kind.isInformational with
  | true =>
      have hreply : h.reply a.token reply = h.dismissPrompt := by
        simp [Handler.reply, hkind, hactive]
      rw [hreply]
      exact .acknowledged hkind
  | false =>
      obtain ⟨p, hp, hawaits⟩ := (hr.coherent.fits a active).awaited hkind
      have hready : p.usesTofu = true → p.chain.leaf? ≠ none := hawaits.leaf
      rw [reply_of_active hactive hkind]
      cases reply with
      | accept =>
          rw [follow, ← hawaits.ssid_eq]
          exact .resolved (resolves_resolving hp (resolves_approve h p _))
      | reject | neutral | cancel =>
          rw [follow, ← hawaits.ssid_eq]
          exact .resolved (resolves_resolving hp (resolves_refuse hp _))
      | tap =>
          obtain ⟨kind, hleads⟩ := hopens (.inl rfl)
          have hnotice : a.token.kind = .tofuNotification := by
            cases h' : a.token.kind <;> simp_all [PromptKind.next?]
          have htofu : p.usesTofu = true := by rw [hawaits.mode, hnotice]; rfl
          obtain ⟨leaf, hleaf⟩ := Option.ne_none_iff_exists'.1 (hready htofu)
          obtain ⟨r, hasks, hfirst, hshown⟩ :=
            askForApproval_asks hp (hr.coherent.ssid_ne_empty hp hleaf) hready
          rw [follow, if_pos hnotice, hshown]
          refine .reopened hp hasks ?_
          rw [hnotice, hfirst, htofu]
          rfl
      | link =>
          obtain ⟨kind, hleads⟩ := hopens (.inr rfl)
          have hdialog : a.token.kind = .legacyDialog := by
            cases h' : a.token.kind <;> simp_all [PromptKind.next?]
          have hlegacy : p.usesTofu = false := by rw [hawaits.mode, hdialog]; rfl
          obtain ⟨r, hasks, hfirst, hshown⟩ := notifyUser_asks hp hready
          rw [follow, if_pos hdialog, hshown]
          refine .reopened hp hasks ?_
          rw [hdialog, hfirst, hlegacy]
          rfl

end Advance

section Exchange

variable [NetworkStore σ]

/-- The user answers the prompts, each as it offers. In between, anything may happen that neither
puts a prompt on the screen nor begins another attempt. -/
inductive Exchange : Handler σ → List PromptReply → Handler σ → Prop
  | done (h : Handler σ) : Exchange h [] h
  | answered {h h' : Handler σ} {a : ActivePrompt} {shown : ShownPrompt} {reply : PromptReply}
      {replies : List PromptReply} (active : h.active = some a)
      (outstanding : h.board.outstanding? = some shown)
      (offered : shown.request.offers reply = true)
      (rest : Exchange (h.reply a.token reply) replies h') : Exchange h (reply :: replies) h'
  | meanwhile {h h' : Handler σ} {op : Operation} {replies : List PromptReply}
      (quiet : op.canShow = false) (same : ∀ n, op ≠ .prepare n)
      (rest : Exchange (h.step op).2 replies h') : Exchange h replies h'

variable {h h' : Handler σ}

theorem stepsLeft_of_quiet (h : Handler σ) {op : Operation} (quiet : op.canShow = false) :
    (h.step op).2.stepsLeft ≤ h.stepsLeft := by
  unfold stepsLeft
  rcases ((step_effect h op).silent quiet).active with hsame | hnone
  · exact Nat.le_of_eq (by rw [hsame])
  · rw [hnone]
    exact Nat.zero_le _

theorem Effect.settled {op : Operation} (effect : Effect h op h') (hs : h.Settled)
    (quiet : op.canShow = false) (same : ∀ n, op ≠ .prepare n) : h'.Settled := by
  cases effect with
  | ignored => exact hs
  | prepared n => exact absurd rfl (same n)
  | collected _ _ _ pending =>
      rw [received_eq]
      intro blank
      exact absurd (pending.symm.trans (hs blank)) (Option.some_ne_none _)
  | started | broken | reopened | acknowledged => cases quiet
  | installed => rw [installChain_eq, grant_eq]; exact fun _ => rfl
  | approved => rw [grant_eq]; exact fun _ => rfl
  | refused _ pending => rw [refuse_eq h pending]; exact fun _ => rfl
  | failed => rw [error_eq]; exact fun _ => rfl
  | held => rw [putOnHold_eq]; exact hs
  | cleaned => rw [cleanup_eq]; exact fun _ => rfl

theorem Exchange.settled {replies : List PromptReply} (exchange : Exchange h replies h')
    (hr : h.Responsive) (hs : h.Settled) : h'.Settled := by
  induction exchange with
  | done => exact hs
  | @answered h _ a shown reply _ active outstanding offered _ ih =>
      obtain ⟨shown', hpresents, -⟩ := hr.presented a active
      cases outstanding.symm.trans hpresents.outstanding
      have hadvances := hr.reply_advances active hpresents offered
      exact ih (hr.step (.reply a.token reply)) (hadvances.settled hr active)
  | @meanwhile h _ op _ quiet same _ ih =>
      exact ih (hr.step op) ((step_effect h op).settled hs quiet same)

/-- Each reply that is given was one of those that were left. -/
theorem Exchange.stepsLeft_add_le {replies : List PromptReply} (exchange : Exchange h replies h')
    (hr : h.Responsive) : replies.length + h'.stepsLeft ≤ h.stepsLeft := by
  induction exchange with
  | done h => simp
  | @answered h _ a shown reply replies active outstanding offered _ ih =>
      obtain ⟨shown', hpresents, -⟩ := hr.presented a active
      cases outstanding.symm.trans hpresents.outstanding
      have hlt := (hr.reply_advances active hpresents offered).stepsLeft_lt active
      have hrest := ih (hr.step (.reply a.token reply))
      rw [List.length_cons]
      omega
  | @meanwhile h _ op _ quiet _ _ ih =>
      exact Nat.le_trans (ih (hr.step op)) (stepsLeft_of_quiet h quiet)

end Exchange

end WifiTrust.Handler
