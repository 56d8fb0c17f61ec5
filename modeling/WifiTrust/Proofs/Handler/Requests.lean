import WifiTrust.Proofs.Handler.Attempt
import WifiTrust.Proofs.Handler.Screen

namespace WifiTrust

theorem Asks.token_id {policy : Policy} {p : Pending} {id : UInt64} {r : PromptRequest}
    (h : Asks policy p id r) : r.token.id = id := by
  cases h with
  | tofuDialog | tofuNotification | legacyDialog | legacyNotification => rfl

def Operation.canShow : Operation → Bool
  | .start _ | .reply _ _ => true
  | _ => false

namespace Handler

variable {σ : Type}

def shownSince (h earlier : Handler σ) : List PromptRequest :=
  h.board.requests.drop earlier.board.requests.length

/-- A request comes onto the screen under the next token. It asks about what is then pending. -/
structure Posts (h : Handler σ) (r : PromptRequest) (h' : Handler σ) : Prop where
  requests : h'.board.requests = h.board.requests ++ [r]
  active : h'.activeToken = some r.token
  count : h'.lastPromptId = h.lastPromptId + 1
  numbered : r.token.id = h.lastPromptId + 1
  asks : ∀ p, h'.pending = some p → Asks h.policy p (h.lastPromptId + 1) r

structure Silent (h h' : Handler σ) : Prop where
  requests : h'.board.requests = h.board.requests
  active : h'.activeToken = h.activeToken ∨ h'.activeToken = none
  count : h'.lastPromptId = h.lastPromptId ∨ h'.lastPromptId = h.lastPromptId + 1

theorem Silent.of_kept {h h' : Handler σ} (board : h'.board = h.board)
    (active : h'.active = h.active) (count : h'.lastPromptId = h.lastPromptId) : Silent h h' where
  requests := by rw [board]
  active := .inl (by rw [activeToken, activeToken, active])
  count := .inl count

theorem Silent.of_cleared {h h' : Handler σ} (board : h'.board = h.clearedBoard)
    (active : h'.active = none) (count : h'.lastPromptId = h.lastPromptId) : Silent h h' where
  requests := by rw [board, requests_clearedBoard]
  active := .inr (by rw [activeToken, active]; rfl)
  count := .inl count

theorem Silent.shownSince_eq {h h' : Handler σ} (silent : Silent h h') : h'.shownSince h = [] := by
  rw [shownSince, silent.requests, List.drop_length]

theorem Posts.shownSince_eq {h h' : Handler σ} {r : PromptRequest} (posts : Posts h r h') :
    h'.shownSince h = [r] := by
  rw [shownSince, posts.requests, List.drop_left]

theorem requests_prompted (h : Handler σ) (r : PromptRequest) :
    (h.prompted r).board.requests = h.board.requests ++ [r] := by
  rw [← requests_clearedBoard h]
  exact PromptBoard.requests_post h.clearedBoard r

theorem shownSince_prompted (h : Handler σ) (r : PromptRequest) :
    (h.prompted r).shownSince h = [r] := by
  rw [shownSince, requests_prompted, List.drop_left]

theorem posts_prompted (h : Handler σ) {r : PromptRequest}
    (numbered : r.token.id = h.lastPromptId + 1)
    (asks : ∀ p, h.pending = some p → Asks h.policy p (h.lastPromptId + 1) r) :
    Posts h r (h.prompted r) where
  requests := requests_prompted h r
  active := rfl
  count := rfl
  numbered := numbered
  asks := asks

theorem Shown.posts {h h' : Handler σ} (shown : Shown h h') : Silent h h' ∨ ∃ r, Posts h r h' := by
  cases shown with
  | nothing count => exact .inl ⟨rfl, .inl rfl, count⟩
  | @request p r hp asks =>
      refine .inr ⟨r, posts_prompted h asks.token_id fun q hq => ?_⟩
      cases hp.symm.trans hq
      exact asks

/-- The requests that came after others, of which the latest is on the screen if anything is. -/
structure HasShown (base rs : List PromptRequest) (h : Handler σ) : Prop where
  requests : h.board.requests = base ++ rs
  latest : ∀ token, h.activeToken = some token →
    ∃ earlier last, rs = earlier ++ [last] ∧ last.token = token

theorem HasShown.silent {base rs : List PromptRequest} {h h' : Handler σ} (hs : HasShown base rs h)
    (silent : Silent h h') : HasShown base rs h' where
  requests := silent.requests.trans hs.requests
  latest := by
    intro token ht
    rcases silent.active with hsame | hnone
    · exact hs.latest token (hsame.symm.trans ht)
    · rw [hnone] at ht
      cases ht

theorem HasShown.posts {base rs : List PromptRequest} {h h' : Handler σ} (hs : HasShown base rs h)
    {r : PromptRequest} (posts : Posts h r h') : HasShown base (rs ++ [r]) h' where
  requests := by rw [posts.requests, hs.requests, List.append_assoc]
  latest := by
    intro token ht
    rw [posts.active] at ht
    exact ⟨rs, r, rfl, Option.some.inj ht⟩

theorem showInvalidChain_posts {h : Handler σ} (hnone : h.pending = none) (ssid : String)
    (userSelected : Bool) : ∃ r, Posts h r (h.showInvalidChain ssid userSelected) := by
  rw [showInvalidChain_eq]
  refine ⟨_, posts_prompted h ?_ fun p hp => ?_⟩
  · cases userSelected
    · rfl
    · rfl
  · rw [hnone] at hp
    cases hp

theorem shownSince_self (h : Handler σ) : h.shownSince h = [] := List.drop_length

variable [NetworkStore σ]

theorem Effect.posts {h h' : Handler σ} {op : Operation} (effect : Effect h op h') :
    Silent h h' ∨ op.canShow = true ∧ ∃ r, Posts h r h' := by
  cases effect with
  | ignored => exact .inl (.of_kept rfl rfl rfl)
  | prepared n => rw [prepare_eq]; exact .inl (.of_cleared rfl rfl rfl)
  | collected => rw [received_eq]; exact .inl (.of_kept rfl rfl rfl)
  | started _ _ _ _ shown =>
      rcases shown.posts with hsilent | ⟨r, hposts⟩
      · exact .inl ⟨hsilent.requests, hsilent.active, hsilent.count⟩
      · refine .inr ⟨rfl, r, ?_⟩
        exact ⟨hposts.requests, hposts.active, hposts.count, hposts.numbered, hposts.asks⟩
  | @broken userSelected p =>
      obtain ⟨r, hposts⟩ := showInvalidChain_posts (h := h.error (some p.network.ssid))
        (by rw [error_eq]) p.network.ssid userSelected
      refine .inr ⟨rfl, r, ?_⟩
      have herror := error_eq h (some p.network.ssid)
      rw [herror] at hposts ⊢
      have hrequests := hposts.requests
      rw [requests_clearedBoard] at hrequests
      exact ⟨hrequests, hposts.active, hposts.count, hposts.numbered, hposts.asks⟩
  | reopened _ _ shown =>
      rcases shown.posts with hsilent | hposts
      · exact .inl hsilent
      · exact .inr ⟨rfl, hposts⟩
  | acknowledged => rw [dismissPrompt_eq]; exact .inl (.of_cleared rfl rfl rfl)
  | installed => rw [installChain_eq, grant_eq]; exact .inl (.of_cleared rfl rfl rfl)
  | approved => rw [grant_eq]; exact .inl (.of_cleared rfl rfl rfl)
  | refused _ hp => rw [refuse_eq h hp]; exact .inl (.of_cleared rfl rfl rfl)
  | failed => rw [error_eq]; exact .inl (.of_cleared rfl rfl rfl)
  | held => rw [putOnHold_eq]; exact .inl (.of_kept rfl rfl rfl)
  | cleaned => rw [cleanup_eq]; exact .inl (.of_cleared rfl rfl rfl)

theorem Effect.silent {h h' : Handler σ} {op : Operation} (effect : Effect h op h')
    (hop : op.canShow = false) : Silent h h' := by
  refine effect.posts.resolve_right fun hshows => ?_
  rw [hop] at hshows
  exact absurd hshows.1 Bool.false_ne_true

theorem step_posts (h : Handler σ) (op : Operation) :
    Silent h (h.step op).2 ∨ ∃ r, Posts h r (h.step op).2 :=
  (step_effect h op).posts.imp_right And.right

theorem requests_step (h : Handler σ) (op : Operation) :
    (h.step op).2.board.requests = h.board.requests ++ (h.step op).2.shownSince h := by
  rcases step_posts h op with hsilent | ⟨r, hposts⟩
  · rw [hsilent.shownSince_eq, hsilent.requests, List.append_nil]
  · rw [hposts.shownSince_eq, hposts.requests]

theorem requests_run (h : Handler σ) (ops : List Operation) :
    (h.run ops).board.requests = h.board.requests ++ (h.run ops).shownSince h := by
  induction ops generalizing h with
  | nil => rw [run, shownSince_self, List.append_nil]
  | cons op ops ih =>
      have hrun : ((h.step op).2.run ops).board.requests =
          h.board.requests ++ ((h.step op).2.shownSince h ++
            ((h.step op).2.run ops).shownSince (h.step op).2) := by
        rw [ih, requests_step, List.append_assoc]
      rw [run, shownSince, hrun, List.drop_left]

theorem shownSince_append (h : Handler σ) (ops ops' : List Operation) :
    (h.run (ops ++ ops')).shownSince h =
      (h.run ops).shownSince h ++ ((h.run ops).run ops').shownSince (h.run ops) := by
  have hrun := requests_run (h.run ops) ops'
  rw [requests_run h ops, List.append_assoc] at hrun
  rw [run_append, shownSince, hrun, List.drop_left]

theorem shownSince_cons (h : Handler σ) (op : Operation) (ops : List Operation) :
    (h.run (op :: ops)).shownSince h =
      (h.step op).2.shownSince h ++ ((h.step op).2.run ops).shownSince (h.step op).2 :=
  shownSince_append h [op] ops

theorem mem_shownSince_run {h : Handler σ} {ops : List Operation} {r : PromptRequest} :
    r ∈ (h.run ops).shownSince h ↔ ∃ earlier op later, ops = earlier ++ op :: later ∧
      r ∈ ((h.run earlier).step op).2.shownSince (h.run earlier) := by
  induction ops generalizing h with
  | nil =>
      rw [run, shownSince_self]
      refine ⟨fun hr => absurd hr List.not_mem_nil, ?_⟩
      rintro ⟨earlier, op, later, hops, _⟩
      cases earlier with
      | nil => cases hops
      | cons => cases hops
  | cons op ops ih =>
      rw [shownSince_cons, List.mem_append, ih]
      constructor
      · rintro (hr | ⟨earlier, o, later, rfl, hr⟩)
        · exact ⟨[], op, ops, rfl, hr⟩
        · exact ⟨op :: earlier, o, later, rfl, hr⟩
      · rintro ⟨earlier, o, later, hops, hr⟩
        cases earlier with
        | nil =>
            cases hops
            exact .inl hr
        | cons =>
            cases hops
            exact .inr ⟨_, o, later, rfl, hr⟩

theorem mem_shownSince_step {h : Handler σ} {op : Operation} {r : PromptRequest}
    (hr : r ∈ (h.step op).2.shownSince h) : Posts h r (h.step op).2 := by
  rcases step_posts h op with hsilent | ⟨r', hposts⟩
  · rw [hsilent.shownSince_eq] at hr
    cases hr
  · rw [hposts.shownSince_eq] at hr
    rw [List.mem_singleton.1 hr]
    exact hposts

theorem HasShown.step {base rs : List PromptRequest} {h : Handler σ} (hs : HasShown base rs h)
    {h' : Handler σ} {op : Operation} (effect : Effect h op h') :
    ∃ rs', HasShown base rs' h' := by
  rcases effect.posts with hsilent | ⟨_, r, hposts⟩
  · exact ⟨rs, hs.silent hsilent⟩
  · exact ⟨rs ++ [r], hs.posts hposts⟩

theorem run_hasShown {h : Handler σ} (hclear : h.activeToken = none) (ops : List Operation) :
    HasShown h.board.requests ((h.run ops).shownSince h) (h.run ops) := by
  have hstart : HasShown h.board.requests [] h :=
    ⟨(List.append_nil _).symm, fun token ht => by rw [hclear] at ht; cases ht⟩
  obtain ⟨rs, hs⟩ := run_invariant (P := fun g => ∃ rs, HasShown h.board.requests rs g)
    (fun effect ⟨_, hg⟩ => hg.step effect) ⟨[], hstart⟩ ops
  have hshown : (h.run ops).shownSince h = rs := by
    rw [shownSince, hs.requests, List.drop_left]
  rw [hshown]
  exact hs

end Handler

end WifiTrust
