import WifiTrust.Proofs.Handler.LateCertificates
import WifiTrust.Proofs.Handler.Tokens
import WifiTrust.Proofs.Store.Entry

/-!
# Replies after a hand-over

A handler can be taken apart and another one made of what it worked on. The board goes on then and
the count of tokens starts again, so a prompt of an earlier handler can have the token of a prompt
that is on the screen. A reply to it moves the pending connection in that case, and in no other.
-/

namespace WifiTrust

namespace Handler

variable {σ : Type}

theorem prompted_ne_self (h : Handler σ) (r : PromptRequest) : h.prompted r ≠ h := by
  intro hsame
  have hcount : h.lastPromptId + 1 = h.lastPromptId := congrArg lastPromptId hsame
  exact add_one_ne_self h.lastPromptId hcount

section Follow

variable {h : Handler σ} {p : Pending} {token : PromptToken}

/-- A tap reopens the dialog of a notification that shows a chain. -/
theorem Coherent.askForApproval_ne_self (hc : h.Coherent) (hp : h.pending = some p)
    (hawaits : p.Awaits token) (hkind : token.kind = .tofuNotification) :
    h.askForApproval ≠ h := by
  have htofu : p.usesTofu = true := by
    rw [hawaits.mode, hkind]
    rfl
  obtain ⟨leaf, hleaf⟩ := Option.ne_none_iff_exists'.1 (hawaits.leaf htofu)
  rw [askForApproval_of_leaf h hp (hc.ssid_ne_empty hp hleaf) htofu hleaf]
  exact prompted_ne_self h _

theorem notifyUser_ne_self (hp : h.pending = some p) (hawaits : p.Awaits token)
    (hkind : token.kind = .legacyDialog) : h.notifyUser ≠ h := by
  have hlegacy : p.usesTofu ≠ true := by
    rw [hawaits.mode, hkind]
    decide
  unfold notifyUser
  rw [hp]
  dsimp only [issueToken]
  rw [if_neg hlegacy, showPrompt_issued]
  exact prompted_ne_self h _

variable [NetworkStore σ]

theorem pending_resolving (hp : h.pending = some p) {act : Pending → Handler σ}
    (closes : (act p).pending = none) : (h.resolving p.network.ssid act).pending = none := by
  unfold resolving
  rw [hp]
  dsimp only
  split
  · rw [error_eq]
  · rw [if_pos rfl]
    exact closes

theorem accept_ne_self (hp : h.pending = some p) (hawaits : p.Awaits token) :
    h.accept token.ssid ≠ h := by
  have hcloses : (h.approve p p.network.ssid).pending = none := by
    unfold approve
    split
    · split
      · rw [grant_eq]
      · rw [error_eq]
    · rw [grant_eq]
  have hnone : (h.accept p.network.ssid).pending = none := pending_resolving hp hcloses
  intro hsame
  rw [hawaits.ssid_eq, hsame, hp] at hnone
  cases hnone

theorem reject_ne_self (hp : h.pending = some p) (hawaits : p.Awaits token) :
    h.reject token.ssid ≠ h := by
  have hcloses : (h.refuse p p.network.ssid).pending = none := by rw [refuse_eq h hp]
  have hnone : (h.reject p.network.ssid).pending = none := pending_resolving hp hcloses
  intro hsame
  rw [hawaits.ssid_eq, hsame, hp] at hnone
  cases hnone

/-- Under the token on the screen, only a tap and a link can leave things as they are, and only on a
prompt that has nothing to open. -/
theorem Coherent.follow_eq_self_iff (hc : h.Coherent) (hp : h.pending = some p)
    (hawaits : p.Awaits token) (reply : PromptReply) : h.follow token reply = h ↔
      reply = .tap ∧ token.kind ≠ .tofuNotification ∨
        reply = .link ∧ token.kind ≠ .legacyDialog := by
  cases reply with
  | accept => simpa [follow] using accept_ne_self hp hawaits
  | reject | neutral | cancel => simpa [follow] using reject_ne_self hp hawaits
  | tap =>
      by_cases hkind : token.kind = .tofuNotification
      · have hne := hc.askForApproval_ne_self hp hawaits hkind
        simpa [follow, hkind] using hne
      · simp [follow, hkind]
  | link =>
      by_cases hkind : token.kind = .legacyDialog
      · have hne := notifyUser_ne_self hp hawaits hkind
        simpa [follow, hkind] using hne
      · simp [follow, hkind]

end Follow

theorem Coherent.reply_eq_self_iff [NetworkStore σ] {h : Handler σ} (hc : h.Coherent)
    (pending : h.pending ≠ none) (token : PromptToken) (reply : PromptReply) :
    h.reply token reply = h ↔
      h.activeToken ≠ some token ∨ reply = .tap ∧ token.kind ≠ .tofuNotification ∨
        reply = .link ∧ token.kind ≠ .legacyDialog := by
  by_cases hactive : h.activeToken = some token
  · obtain ⟨p, hp⟩ := Option.ne_none_iff_exists'.1 pending
    obtain ⟨hawaits, hasks⟩ := hc.awaits hactive hp
    have hnever : ¬ h.activeToken ≠ some token := fun hne => hne hactive
    rw [reply_of_active hactive hasks, hc.follow_eq_self_iff hp hawaits, or_iff_right hnever]
  · exact iff_of_true (reply_of_inactive hactive pending reply) (.inl hactive)

variable [NetworkStore σ]

/-- What one handler is made for: its policy, and what it is asked to do. -/
structure Shift where
  policy : Policy
  ops : List Operation

/-- Handlers one after the other, each made of what the one before worked on. -/
def relay (h : Handler σ) : List Shift → Handler σ
  | [] => h
  | shift :: shifts => ((h.successor shift.policy).run shift.ops).relay shifts

/-- A prompt from before a hand-over is no more than its token. A reply to it leaves an attempt that
is pending in the handler after it alone exactly if the prompt on the screen has another token, or
the prompt has nothing that a tap or a link opens. If the prompt on the screen has the same token,
the later handler has given it out again, to ask about its own connection. -/
theorem handed_over_reply_inert_iff (policy₀ : Policy) (store : σ) (session : NativeSession)
    (board : PromptBoard) (decisions : List Decision) (shifts : List Shift) (policy : Policy)
    (ops : List Operation) :
    let g := ((fresh policy₀ store session board decisions).relay shifts).successor policy
    let h := g.run ops
    ∀ r ∈ g.board.requests, h.pending ≠ none →
      (∀ reply, h.reply r.token reply = h ↔ h.activeToken ≠ some r.token ∨
        reply = .tap ∧ r.token.kind ≠ .tofuNotification ∨
          reply = .link ∧ r.token.kind ≠ .legacyDialog) ∧
      (h.activeToken = some r.token → ∃ before between last p,
        h.board.requests = before ++ r :: between ++ [last] ∧ last.token = r.token ∧
          g.board.requests <+: before ++ r :: between ∧
          h.pending = some p ∧ p.network.ssid = r.token.ssid) := by
  intro g h r hr pending
  have hc : h.Coherent := (Coherent.of_idle (h := g) rfl rfl).run ops
  refine ⟨hc.reply_eq_self_iff pending r.token, fun hactive => ?_⟩
  have hshown : HasShown g.board.requests (h.shownSince g) h := run_hasShown (h := g) rfl ops
  obtain ⟨earlier, last, hlast, htoken⟩ := hshown.latest r.token hactive
  obtain ⟨p, hp⟩ := Option.ne_none_iff_exists'.1 pending
  obtain ⟨hawaits, _⟩ := hc.awaits hactive hp
  obtain ⟨before, after, hsplit⟩ := List.append_of_mem hr
  have hbefore : before ++ r :: (after ++ earlier) = g.board.requests ++ earlier := by
    rw [hsplit, List.append_assoc, List.cons_append]
  refine ⟨before, after ++ earlier, last, p, ?_, htoken, ?_, hp, hawaits.ssid_eq⟩
  · rw [hshown.requests, hlast, hbefore, List.append_assoc]
  · rw [hbefore]
    exact List.prefix_append _ _

end Handler

namespace Corporate

def handedOver : Handler MemoryStore :=
  ((Handler.fresh {} { clock := default } {} {} []).relay
    [⟨{}, collection ++ [.start true]⟩]).successor {}

def otherAttempt (userSelected : Bool) : List Operation :=
  [.prepare { network with id := 8 }, .addCertificate "corp" 0 leaf, .addCertificate "corp" 1 root,
    .start userSelected]

def shownBefore : PromptRequest := .dialog (Wording.tofuDialog (token .tofuDialog) leafEntry)

theorem requests_handedOver : handedOver.board.requests = [shownBefore] := by rfl

end Corporate

namespace Handler

open Corporate

/-- An approval of the first dialog does nothing while the next handler shows a notification. -/
theorem corporate_reply_after_hand_over :
    shownBefore ∈ handedOver.board.requests ∧
      (handedOver.run (otherAttempt false)).pending.map (·.network.id) = some 8 ∧
      (handedOver.run (otherAttempt false)).reply shownBefore.token .accept =
        handedOver.run (otherAttempt false) := by
  have shown : shownBefore ∈ handedOver.board.requests := by
    rw [requests_handedOver]
    exact List.mem_singleton_self shownBefore
  have hpending : (handedOver.run (otherAttempt false)).pending.map (·.network.id) = some 8 := by
    rfl
  have pending : (handedOver.run (otherAttempt false)).pending ≠ none := by
    intro hnone
    rw [hnone] at hpending
    cases hpending
  have hactive : (handedOver.run (otherAttempt false)).activeToken =
      some (token .tofuNotification) := by rfl
  have inactive : (handedOver.run (otherAttempt false)).activeToken ≠ some shownBefore.token := by
    rw [hactive]
    decide
  unfold handedOver at shown hpending pending inactive ⊢
  have hreplies := handed_over_reply_inert_iff {} ({ clock := default } : MemoryStore) {} {} []
    [⟨{}, collection ++ [.start true]⟩] {} (otherAttempt false)
  obtain ⟨hinert, _⟩ := hreplies shownBefore shown pending
  exact ⟨shown, hpending, (hinert .accept).2 (.inl inactive)⟩

/-- Once the next handler asks about the other network, the approval of the first dialog installs
the trust of that network: the count of tokens has started again. -/
theorem handed_over_reply_resolves :
    shownBefore ∈ handedOver.board.requests ∧
      (handedOver.run (otherAttempt true)).pending.map (·.network.id) = some 8 ∧
      (handedOver.run (otherAttempt true)).reply shownBefore.token .accept ≠
        handedOver.run (otherAttempt true) ∧
      (((handedOver.run (otherAttempt true)).reply shownBefore.token .accept).store.entry
        8).trustedCa = some ⟨root, leaf, default⟩ := by
  have shown : shownBefore ∈ handedOver.board.requests := by
    rw [requests_handedOver]
    exact List.mem_singleton_self shownBefore
  have hundecided : (handedOver.run (otherAttempt true)).decisions = [] := by rfl
  have hdecided : ((handedOver.run (otherAttempt true)).reply shownBefore.token .accept).decisions =
      [.accept "corp"] := by rfl
  refine ⟨shown, by rfl, ?_, by rfl⟩
  intro hsame
  rw [hsame, hundecided] at hdecided
  cases hdecided

end Handler

end WifiTrust
