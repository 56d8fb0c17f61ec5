import WifiTrust.Proofs.Handler.Review

/-!
# Whether the dialog has been shown

The dialog of an attempt comes up for a start that the user made and for a tap on the notification.
An approval may also answer the notification, and then the server has been installed unseen.
-/

namespace WifiTrust.Handler

variable {σ : Type}

inductive OpensDialog (h : Handler σ) : Operation → Prop
  | selected : OpensDialog h (.start true)
  | tapped {token : PromptToken} (active : h.activeToken = some token)
      (kind : token.kind = .tofuNotification) : OpensDialog h (.reply token .tap)

/-- A dialog that describes a server has been shown since an earlier state. -/
def ShowsDialog (h earlier : Handler σ) : Prop :=
  ∃ r ∈ h.shownSince earlier, r.token.kind = .tofuDialog

theorem Silent.not_showsDialog {h h' : Handler σ} (silent : Silent h h') :
    ¬h'.ShowsDialog h := by
  rintro ⟨r, hr, _⟩
  rw [silent.shownSince_eq] at hr
  cases hr

theorem showsDialog_prompted (h : Handler σ) (r : PromptRequest) :
    (h.prompted r).ShowsDialog h ↔ r.token.kind = .tofuDialog := by
  unfold ShowsDialog
  rw [shownSince_prompted]
  simp only [List.mem_singleton, exists_eq_left]

variable [NetworkStore σ] {h : Handler σ} {p : Pending}

theorem start_showsDialog_iff (hc : h.Coherent) (hp : h.pending = some p) (gated : p.gated = true)
    (tofu : p.usesTofu = true) {userSelected : Bool}
    (unresolved : (h.start userSelected).2.pending ≠ none) :
    (h.start userSelected).2.ShowsDialog h ↔ userSelected = true := by
  obtain ⟨hvalid, hbegun⟩ := start_of_collecting hp gated tofu unresolved
  obtain ⟨root, leaf, hanchors⟩ := Chain.validate_eq_ok_iff.1 hvalid
  have hleaf : p.chain.leaf? = some leaf := Chain.leaf?_of_anchors hanchors
  have hname : p.network.ssid ≠ "" := hc.ssid_ne_empty hp hleaf
  have hmarked : h.markStarted.pending = some { p with approvalStarted := true } := by
    rw [markStarted, hp]
    rfl
  rw [hbegun, beginApproval]
  cases userSelected
  · rw [if_neg Bool.false_ne_true, notifyUser_of_leaf _ hmarked tofu hleaf]
    refine (showsDialog_prompted h.markStarted _).trans (iff_of_false ?_ Bool.false_ne_true)
    intro hkind
    cases hkind
  · rw [if_pos rfl, askForApproval_of_leaf _ hmarked hname tofu hleaf]
    exact (showsDialog_prompted h.markStarted _).trans ⟨fun _ => rfl, fun _ => rfl⟩

theorem Waiting.follow_showsDialog_iff (hw : h.Waiting p) {token : PromptToken}
    (active : h.activeToken = some token) (reply : PromptReply) :
    (h.follow token reply).ShowsDialog h ↔ reply = .tap ∧ token.kind = .tofuNotification := by
  obtain ⟨hawaits, _⟩ := hw.coherent.awaits active hw.pending
  have hself : ¬h.ShowsDialog h := (Silent.of_kept rfl rfl rfl).not_showsDialog
  cases reply with
  | accept =>
      have hsilent : Silent h (h.accept token.ssid) := (accept_effect h .host).silent rfl
      exact iff_of_false hsilent.not_showsDialog fun hopens => PromptReply.noConfusion hopens.1
  | reject | neutral | cancel =>
      have hsilent : Silent h (h.reject token.ssid) := (reject_effect h .host).silent rfl
      exact iff_of_false hsilent.not_showsDialog fun hopens => PromptReply.noConfusion hopens.1
  | tap =>
      dsimp only [follow]
      split
      · next hkind =>
          obtain ⟨leaf, hleaf⟩ := Option.ne_none_iff_exists'.1 (hawaits.leaf hw.tofu)
          rw [askForApproval_of_leaf h hw.pending hw.ssid_ne_empty hw.tofu hleaf]
          exact (showsDialog_prompted h _).trans ⟨fun _ => ⟨rfl, hkind⟩, fun _ => rfl⟩
      · next hkind => exact iff_of_false hself fun hopens => hkind hopens.2
  | link =>
      dsimp only [follow]
      split
      · next hkind =>
          have hmode := hawaits.mode
          rw [hw.tofu, hkind] at hmode
          cases hmode
      · exact iff_of_false hself fun hopens => PromptReply.noConfusion hopens.1

/-- While the attempt of a collecting connection goes on, its dialog comes up exactly when an
operation opens it. -/
theorem step_showsDialog_iff (hc : h.Coherent) (hp : h.pending = some p) (tofu : p.usesTofu = true)
    {op : Operation} (unresolved : (h.step op).2.pending ≠ none) :
    (h.step op).2.ShowsDialog h ↔ h.OpensDialog op := by
  have gated : p.gated = true := by
    have hmode := hc.mode p hp
    rw [tofu] at hmode
    exact (Bool.and_eq_true_iff.1 hmode.symm).1
  cases op with
  | start userSelected =>
      refine (start_showsDialog_iff hc hp gated tofu unresolved).trans ⟨?_, ?_⟩
      · rintro rfl
        exact .selected
      · rintro ⟨⟩
        rfl
  | reply token reply =>
      by_cases active : h.activeToken = some token
      · obtain ⟨a, ha, rfl⟩ := activeToken_eq_some active
        have hw : h.Waiting p := ⟨hc, hp, tofu, ha ▸ Option.some_ne_none a⟩
        obtain ⟨_, hasks⟩ := hc.awaits active hp
        have hreply : (h.step (.reply a.token reply)).2 = h.follow a.token reply :=
          reply_of_active active hasks reply
        rw [hreply]
        refine (hw.follow_showsDialog_iff active reply).trans ⟨?_, ?_⟩
        · rintro ⟨rfl, hkind⟩
          exact .tapped active hkind
        · rintro (_ | ⟨_, hkind⟩)
          exact ⟨rfl, hkind⟩
      · have hignored : (h.step (.reply token reply)).2 = h :=
          reply_of_inactive active (hp ▸ Option.some_ne_none p) reply
        rw [hignored]
        refine iff_of_false (Silent.of_kept rfl rfl rfl).not_showsDialog ?_
        rintro (_ | ⟨hactive, _⟩)
        exact active hactive
  | prepare | addCertificate | setCertificate | accept | reject | error | putOnHold | cleanup =>
      refine iff_of_false ((step_effect h _).silent rfl).not_showsDialog fun hopens => ?_
      cases hopens

/-- The dialog of an attempt has come up exactly if an operation of the attempt has opened it. -/
theorem Attempt.showsDialog_iff {ops : List Operation} (a : Attempt ops) {h : Handler σ}
    (hc : h.Coherent) {p : Pending} (hp : (h.run ops).pending = some p) (tofu : p.usesTofu = true) :
    (h.run ops).ShowsDialog (a.opened h) ↔ ∃ earlier op later, a.since = earlier ++ op :: later ∧
      ((a.opened h).run earlier).OpensDialog op := by
  have hstep {earlier later : List Operation} {op : Operation}
      (split : a.since = earlier ++ op :: later) :
      (((a.opened h).run earlier).step op).2.ShowsDialog ((a.opened h).run earlier) ↔
        ((a.opened h).run earlier).OpensDialog op := by
    obtain ⟨q, hq, hgrown⟩ := grown_between hp split
    obtain ⟨next, hnext, _⟩ := grown_after hp split
    have hcoherent : ((a.opened h).run earlier).Coherent := by
      rw [a.opened_eq_run]
      exact (hc.run _).run earlier
    exact step_showsDialog_iff hcoherent hq (hgrown.mode.symm.trans tofu)
      (Option.ne_none_iff_exists'.2 ⟨next, hnext⟩)
  constructor
  · rintro ⟨r, hr, hkind⟩
    rw [a.run_eq] at hr
    obtain ⟨earlier, op, later, split, hshown⟩ := mem_shownSince_run.1 hr
    exact ⟨earlier, op, later, split, (hstep split).1 ⟨r, hshown, hkind⟩⟩
  · rintro ⟨earlier, op, later, split, hopens⟩
    obtain ⟨r, hshown, hkind⟩ := (hstep split).2 hopens
    refine ⟨r, ?_, hkind⟩
    rw [a.run_eq]
    exact mem_shownSince_run.2 ⟨earlier, op, later, split, hshown⟩

theorem Effect.installs {h h' : Handler (Recorded σ)} {op : Operation} (effect : Effect h op h') :
    h'.store.installs = h.store.installs ∨ ∃ p root leaf, Approves h p.network.ssid op ∧
      h.pending = some p ∧ p.usesTofu = true ∧ p.chain.anchors = .ok (root, leaf) ∧
      h'.store.installs =
        h.store.installs ++ [(p.network.id, root.certificate, leaf.certificate)] := by
  cases effect with
  | ignored => exact .inl rfl
  | prepared n =>
      rw [prepare_eq]
      left
      dsimp only
      split
      · exact Recorded.installs_updateSelection h.store n.id .disabledByPolicy
      · rfl
  | @collected _ _ _ _ p =>
      rw [received_eq]
      left
      dsimp only
      split
      · exact Recorded.installs_updateSelection h.store p.network.id .disabledByPolicy
      · rfl
  | started _ _ _ _ shown => rw [shown.frame]; exact .inl rfl
  | broken => rw [showInvalidChain_eq, error_eq]; exact .inl (installs_heldStore h)
  | reopened _ _ shown => rw [shown.frame]; exact .inl rfl
  | acknowledged => rw [dismissPrompt_eq]; exact .inl rfl
  | @installed _ p root leaf approval hp htofu hvalid =>
      rw [installChain_eq, grant_eq]
      refine .inr ⟨p, root, leaf, approval, hp, htofu, hvalid, ?_⟩
      dsimp only
      rw [Recorded.installs_allowAutojoin, Recorded.installs_updateSelection,
        installs_installedStore]
  | approved =>
      rw [grant_eq]
      left
      dsimp only
      rw [Recorded.installs_allowAutojoin, Recorded.installs_updateSelection,
        Recorded.installs_setApprovedWithoutCa]
  | refused _ hp =>
      rw [refuse_eq h hp]
      left
      dsimp only
      rw [Recorded.installs_allowAutojoin, installs_heldStore]
  | failed => rw [error_eq]; exact .inl (installs_heldStore h)
  | held => rw [putOnHold_eq]; exact .inl (installs_heldStore h)
  | cleaned => rw [cleanup_eq]; exact .inl rfl

/-- When a chain is installed unseen. If the host does not approve by itself, a store is asked to
install a chain only by the user's approval of the prompt on the screen, which was shown in the
attempt. That the server's details were shown follows if the prompt is the dialog. In general they
were shown exactly if the attempt had a start for the user or a tap on its notification. -/
theorem installed_server_was_shown_iff (policy : Policy) (store : Recorded σ)
    (session : NativeSession) (board : PromptBoard) (decisions : List Decision)
    (ops : List Operation) {op : Operation} (hop : ∀ ssid, op ≠ .accept ssid) :
    let h₀ := fresh policy store session board decisions
    let h := h₀.run ops
    (h.step op).2.store.installs ≠ h.store.installs →
      ∃ (token : PromptToken) (a : Attempt ops),
        op = .reply token .accept ∧ h.activeToken = some token ∧
        (token.kind = .tofuDialog ∨ token.kind = .tofuNotification) ∧
        (∃ r ∈ h.shownSince (a.opened h₀), r.token = token) ∧
        (token.kind = .tofuDialog → h.ShowsDialog (a.opened h₀)) ∧
        (h.ShowsDialog (a.opened h₀) ↔ ∃ earlier o later, a.since = earlier ++ o :: later ∧
          ((a.opened h₀).run earlier).OpensDialog o) := by
  intro h₀ h installs
  have hc₀ : h₀.Coherent := coherent_fresh policy store session board decisions
  obtain ⟨p, _, _, approval, hp, htofu, _⟩ := (step_effect h op).installs.resolve_left installs
  cases approval with
  | host => exact absurd rfl (hop p.network.ssid)
  | @user token active asks _ =>
      obtain ⟨hawaits, _⟩ := (hc₀.run ops).awaits active hp
      have hlegacy : token.kind.isLegacy = false := by
        have hmode := hawaits.mode
        rw [htofu] at hmode
        simpa using hmode.symm
      obtain ⟨a, _⟩ := Attempt.exists_of_pending (h := h₀) rfl hp
      have hclear : (a.opened h₀).activeToken = none := by
        rw [Attempt.opened, prepare_eq]
        rfl
      have hshown : HasShown _ (h.shownSince (a.opened h₀)) h :=
        a.run_eq h₀ ▸ run_hasShown hclear a.since
      obtain ⟨earlier, last, hlast, rfl⟩ := hshown.latest token active
      have hmem : last ∈ h.shownSince (a.opened h₀) := by
        rw [hlast]
        exact List.mem_append_right earlier (List.mem_singleton_self last)
      exact ⟨last.token, a, rfl, active, PromptKind.asks_tofu_iff.1 ⟨asks, hlegacy⟩,
        ⟨last, hmem, rfl⟩, fun hkind => ⟨last, hmem, hkind⟩, a.showsDialog_iff hc₀ hp htofu⟩

open Corporate in
theorem corporate_server_was_shown :
    let ops := collection ++ [.start false, .reply (token .tofuNotification) .tap]
    let h₀ : Handler (Recorded MemoryStore) := fresh {} ⟨{ clock := default }, []⟩ {} {} []
    let h := h₀.run ops
    let dialog : PromptToken := ⟨2, "corp", .tofuDialog⟩
    (h.step (.reply dialog .accept)).2.store.installs ≠ h.store.installs ∧
      ∃ a : Attempt ops, h.ShowsDialog (a.opened h₀) ∧
        ∃ earlier o later, a.since = earlier ++ o :: later ∧
          ((a.opened h₀).run earlier).OpensDialog o := by
  intro ops h₀ h dialog
  have hop : ∀ ssid, Operation.reply dialog .accept ≠ .accept ssid := fun _ h => by cases h
  have installs : (h.step (.reply dialog .accept)).2.store.installs ≠ h.store.installs :=
    List.cons_ne_nil (7, root, leaf) []
  obtain ⟨_, a, happroval, _, _, _, hdialog, hopened⟩ :=
    installed_server_was_shown_iff {} (⟨{ clock := default }, []⟩ : Recorded MemoryStore) {} {} []
      ops hop installs
  obtain ⟨rfl, _⟩ := Operation.reply.inj happroval
  exact ⟨installs, a, hdialog rfl, hopened.1 (hdialog rfl)⟩

open Corporate in
/-- A chain can be trusted unseen: an approval that answers the notification installs it. -/
theorem notification_installs_unseen_server :
    ¬∀ (ops : List Operation) (op : Operation) (id : NetworkId) (a : Attempt ops),
      let h₀ : Handler MemoryStore := fresh {} { clock := default } {} {} []
      let h := h₀.run ops
      (∀ o ∈ ops ++ [op], ∀ ssid, o ≠ .accept ssid) →
      ((h.step op).2.store.entry id).trustedCa ≠ (h.store.entry id).trustedCa →
        h.ShowsDialog (a.opened h₀) := by
  intro seen
  let a : Attempt (collection ++ [.start false]) :=
    ⟨[], network, [.addCertificate "corp" 0 leaf, .addCertificate "corp" 1 root, .start false], rfl,
      by simp⟩
  have hshown := seen _ (.reply (token .tofuNotification) .accept) 7 a (by simp [collection])
    (Option.some_ne_none (⟨root, leaf, default⟩ : TrustedCa))
  obtain ⟨r, hr, hkind⟩ := hshown
  have hnotified : r = .notification (Wording.tofuNotification (token .tofuNotification)) :=
    List.mem_singleton.1 hr
  rw [hnotified] at hkind
  cases hkind

end WifiTrust.Handler
