import WifiTrust.Proofs.Handler.Progress
import WifiTrust.Proofs.Replay.Course

/-!
# How often a replay asks

A user who only replies as the prompts offer is asked twice at most, whatever came before, so the
rounds that a replay allows are never used up.
-/

namespace WifiTrust

namespace Replay

open Handler

variable {σ : Type}

/-- A replay that keeps the prompts it has asked about, oldest first. -/
abbrev Interview := ExceptT Failure (StateM (List ShownPrompt))

/-- A user whose reply to a prompt may depend on the prompts before. No reply means to walk away. -/
abbrev User := List ShownPrompt → ShownPrompt → Option PromptReply

def User.asked (user : User) (shown : ShownPrompt) : Interview (Option PromptReply) := do
  let before ← getThe (List ShownPrompt)
  set (before ++ [shown])
  return user before shown

/-- The user only replies as the prompts offer. -/
def User.Offered (user : User) : Prop :=
  ∀ before shown reply, user before shown = some reply → shown.request.offers reply = true

theorem User.run_asked (user : User) (shown : ShownPrompt) (before : List ShownPrompt) :
    (user.asked shown).run.run before = (.ok (user before shown), before ++ [shown]) := rfl

theorem run_bind_of_ok {α β : Type} {x : Interview α} {f : α → Interview β}
    {before since : List ShownPrompt} {a : α} (ran : x.run.run before = (.ok a, since)) :
    (x >>= f).run.run before = (f a).run.run since := by
  show (x.run >>= ExceptT.bindCont f).run before = _
  rw [StateT.run_bind, ran]
  rfl

theorem leave_blank (h : Handler σ) : (leave h).active = none := by
  unfold leave
  split
  · rw [cleanup_eq]
  · next blank => simpa using blank

theorem leave_idle {h : Handler σ} (hs : h.Settled) : (leave h).pending = none := by
  unfold leave
  split
  · rw [cleanup_eq]
  · next blank => exact hs (by simpa using blank)

variable [NetworkStore σ] {user : User}

theorem deliverChain_of_short (h : Handler σ) (preparation : Preparation) (ssid : String)
    {cs : List Certificate} (short : cs.length ≤ depths) :
    ∃ delivered, deliverChain h preparation ssid cs = .ok delivered := by
  unfold deliverChain
  split
  · exact ⟨_, rfl⟩
  · rw [if_neg (Nat.not_lt.2 short)]
    exact ⟨_, rfl⟩

/-- From a responsive handler on, a conversation ends before it runs out of rounds. -/
theorem converse_asked (offered : user.Offered) {h : Handler σ} (hr : h.Responsive)
    (before : List ShownPrompt) : ∃ h' since,
      (∀ n, h.stepsLeft ≤ n →
        (converse user.asked n h).run.run before = (.ok h', before ++ since)) ∧
      since.length ≤ h.stepsLeft ∧ (h.Settled → h'.Settled) := by
  -- each reply leaves fewer to be given
  induction hleft : h.stepsLeft using Nat.strongRecOn generalizing h before with
  | _ left ih =>
      subst hleft
      cases hactive : h.active with
      | none =>
          have hover (n : Nat) : converse user.asked n h = pure h := by
            cases n with
            | zero => rfl
            | succ n => simp only [converse, activeToken, hactive, Option.map_none]
          refine ⟨h, [], fun n _ => ?_, Nat.zero_le _, id⟩
          rw [hover, List.append_nil]
          rfl
      | some a =>
          obtain ⟨shown, hpresents, -⟩ := hr.presented a hactive
          have hround (n : Nat) : (converse user.asked (n + 1) h).run.run before =
              ((user before shown).elim (pure h) fun reply =>
                converse user.asked n (h.reply a.token reply)).run.run (before ++ [shown]) := by
            simp only [converse, activeToken, hactive, hpresents.outstanding, Option.map_some]
            rw [run_bind_of_ok (user.run_asked shown before)]
            cases user before shown with
            | none => rfl
            | some reply => rfl
          have hpos : 0 < h.stepsLeft := by
            rw [stepsLeft_of_active hactive]
            exact a.token.kind.steps_pos
          cases hreply : user before shown with
          | none =>
              refine ⟨h, [shown], fun n enough => ?_, hpos, id⟩
              obtain ⟨m, rfl⟩ := Nat.exists_eq_add_one.2 (Nat.lt_of_lt_of_le hpos enough)
              rw [hround, hreply]
              rfl
          | some reply =>
              have hoffered := offered before shown reply hreply
              have hadvances := hr.reply_advances hactive hpresents hoffered
              have hlt := hadvances.stepsLeft_lt hactive
              obtain ⟨h', since, hrest, hlength, hsettled⟩ :=
                ih _ hlt (hr.step (.reply a.token reply)) (before ++ [shown]) rfl
              refine ⟨h', shown :: since, fun n enough => ?_, Nat.lt_of_le_of_lt hlength hlt, ?_⟩
              · obtain ⟨m, rfl⟩ := Nat.exists_eq_add_one.2 (Nat.lt_of_lt_of_le hpos enough)
                rw [hround, hreply]
                have hmost := hrest m (Nat.le_of_lt_succ (Nat.lt_of_lt_of_le hlt enough))
                rwa [List.append_assoc] at hmost
              · exact fun _ => hsettled (hadvances.settled hr hactive)

theorem drive_of_delivered {h g : Handler σ} {n : Network} {cs : List Certificate} {accepted : Nat}
    (delivered : deliverChain (h.prepare n).2.2 (h.prepare n).1 (h.prepare n).2.1.ssid cs =
      .ok (accepted, g))
    {userSelected : Bool} {h' : Handler σ} {before since : List ShownPrompt}
    (talked : (converse user.asked rounds (g.start userSelected).2).run.run before =
      (.ok h', since)) :
    (drive h n cs userSelected user.asked).run.run before =
      (.ok ⟨(h.prepare n).1, accepted, (h.prepare n).2.1, leave h'⟩, since) := by
  simp only [drive]
  rw [delivered]
  exact run_bind_of_ok talked

theorem drive_of_undelivered {h : Handler σ} {n : Network} {cs : List Certificate} {e : Failure}
    (undelivered : deliverChain (h.prepare n).2.2 (h.prepare n).1 (h.prepare n).2.1.ssid cs =
      .error e) (userSelected : Bool) (before : List ShownPrompt) :
    (drive h n cs userSelected user.asked).run.run before = (.error e, before) := by
  simp only [drive]
  rw [undelivered]
  rfl

/-- A user who only replies as the prompts offer is asked twice at most, and no attempt whose user
has been asked is left open. -/
theorem drive_asked (offered : user.Offered) {h : Handler σ} (hr : h.Responsive) (n : Network)
    (cs : List Certificate) (userSelected : Bool) : ∃ result asked,
      (drive h n cs userSelected user.asked).run.run [] = (result, asked) ∧ asked.length ≤ 2 ∧
        (cs.length ≤ depths → ∃ r, result = .ok r) ∧
        ∀ r, result = .ok r →
          r.handler.active = none ∧ (asked ≠ [] → r.handler.pending = none) := by
  have hprepared : (h.prepare n).2.2.Responsive := hr.step (.prepare n)
  cases hdelivered : deliverChain (h.prepare n).2.2 (h.prepare n).1 (h.prepare n).2.1.ssid cs with
  | error e =>
      refine ⟨.error e, [], drive_of_undelivered hdelivered userSelected [], Nat.zero_le 2, ?_, ?_⟩
      · intro short
        obtain ⟨delivered, hshort⟩ :=
          deliverChain_of_short (h.prepare n).2.2 (h.prepare n).1 (h.prepare n).2.1.ssid short
        cases hdelivered.symm.trans hshort
      · intro r hr
        cases hr
  | ok delivered =>
      obtain ⟨accepted, g⟩ := delivered
      have hg : g.Responsive :=
        (leads_deliverChain hdelivered).keeps (fun _ op hr => hr.step op) hprepared
      have hstarted : (g.start userSelected).2.Responsive := hg.step (.start userSelected)
      obtain ⟨h', asked, htalked, hlength, hsettled⟩ := converse_asked offered hstarted []
      have hfew : asked.length ≤ 2 := Nat.le_trans hlength (stepsLeft_le_two _)
      have hrounds : (g.start userSelected).2.stepsLeft ≤ rounds :=
        Nat.le_trans (stepsLeft_le_two _) (by decide)
      refine ⟨_, asked, drive_of_delivered hdelivered (htalked rounds hrounds), hfew,
        fun _ => ⟨_, rfl⟩, ?_⟩
      intro r hr
      obtain rfl := Except.ok.inj hr
      refine ⟨leave_blank h', fun some_asked => leave_idle (hsettled ?_)⟩
      intro blank
      rw [stepsLeft_of_blank blank] at hlength
      exact absurd (List.length_eq_zero_iff.1 (Nat.le_zero.1 hlength)) some_asked

/-- Every reply that is offered gets an attempt on. -/
theorem offered_replies_progress (policy : Policy) (store : σ) (session : NativeSession)
    {board : PromptBoard} (built : board.Built) (decisions : List Decision)
    (offered : user.Offered) :
    let start := fresh policy store session board decisions
    (∀ ops a, (start.run ops).active = some a → ∃ shown, (start.run ops).Presents a shown ∧
      ∀ reply, shown.request.offers reply = true →
        let h' := (start.run ops).reply a.token reply
        (start.run ops).Advances a.token.kind reply h' ∧
          ∀ q ∈ h'.board.shown, q.handle = a.handle → q.dismissed = true) ∧
    (∀ ops a replies h', (start.run ops).active = some a → Exchange (start.run ops) replies h' →
      replies.length ≤ 2 ∧ (replies.length = 2 → h'.active = none) ∧
        (h'.active = none → h'.pending = none)) ∧
    (∀ ops asked n, 2 ≤ n → (converse user.asked n (start.run ops)).run.run asked =
      (converse user.asked rounds (start.run ops)).run.run asked) ∧
    ∀ n cs userSelected, ∃ result asked,
      (drive start n cs userSelected user.asked).run.run [] = (result, asked) ∧ asked.length ≤ 2 ∧
        (cs.length ≤ depths → ∃ r, result = .ok r) ∧
        ∀ r, result = .ok r →
          r.handler.active = none ∧ (asked ≠ [] → r.handler.pending = none) := by
  intro start
  have hstart : start.Responsive := responsive_fresh policy store session built decisions
  have hrun (ops : List Operation) : (start.run ops).Responsive :=
    run_invariant Effect.responsive hstart ops
  refine ⟨fun ops a active => ?_, fun ops a replies h' active exchange => ?_,
    fun ops asked n enough => ?_, drive_asked offered hstart⟩
  · obtain ⟨shown, hpresents, -⟩ := (hrun ops).presented a active
    refine ⟨shown, hpresents, fun reply hreply => ?_⟩
    have hadvances := (hrun ops).reply_advances active hpresents hreply
    exact ⟨hadvances, hadvances.dismissed (hrun ops) active⟩
  · have hleft := exchange.stepsLeft_add_le (hrun ops)
    have hmost := stepsLeft_le_two (start.run ops)
    refine ⟨by omega, fun both => active_of_stepsLeft (by omega), ?_⟩
    exact exchange.settled (hrun ops) (.of_active active)
  · obtain ⟨h', since, htalked, -⟩ := converse_asked offered (hrun ops) asked
    have hmost := stepsLeft_le_two (start.run ops)
    rw [htalked n (Nat.le_trans hmost enough), htalked rounds (Nat.le_trans hmost (by decide))]

end Replay

namespace Corporate

/-- A user who opens what can be opened and accepts what can be accepted. -/
def willing : Replay.User := fun _ shown =>
  [.tap, .accept].find? fun reply => shown.request.offers reply

theorem willing_offered : Replay.User.Offered willing :=
  fun _ _ _ replied => by simpa using List.find?_some replied

end Corporate

namespace Replay

open Handler Corporate

/-- On the corporate network, the notification is tapped and the dialog is accepted, and that is the
end of the attempt. -/
theorem corporate_replies_progress :
    let start : Handler MemoryStore := fresh {} { clock := default } {} {} []
    let h := start.run (collection ++ [.start false])
    (∃ shown a, h.active = some a ∧ h.Presents a shown ∧ shown.request.offers .tap = true ∧
      h.Advances .tofuNotification .tap (h.reply a.token .tap)) ∧
    (∃ h', Exchange h [.tap, .accept] h' ∧ h'.active = none ∧ h'.pending = none) ∧
    ∃ r asked, (drive start network [leaf, root] false willing.asked).run.run [] = (.ok r, asked) ∧
      asked.length ≤ 2 ∧ r.handler.active = none := by
  intro start h
  obtain ⟨hreplies, hexchanges, -, hdrive⟩ := offered_replies_progress {}
    ({ clock := default } : MemoryStore) {} .empty [] willing_offered
  have hreply := hreplies (collection ++ [.start false])
  have hexchange := hexchanges (collection ++ [.start false])
  have hrun : start.run (collection ++ [.start false]) = h := rfl
  rw [hrun] at hreply hexchange
  have active : h.active = some ⟨token .tofuNotification, 1⟩ := rfl
  refine ⟨?_, ?_, ?_⟩
  · obtain ⟨shown, hpresents, hadvances⟩ := hreply _ active
    have hoffered : shown.request.offers .tap = true := by
      cases hpresents.outstanding
      rfl
    exact ⟨shown, _, active, hpresents, hoffered, (hadvances .tap hoffered).1⟩
  · have exchange : Exchange h [.tap, .accept] _ :=
      .answered active rfl rfl (.answered rfl rfl rfl (.done _))
    obtain ⟨-, hblank, hidle⟩ := hexchange _ _ _ active exchange
    exact ⟨_, exchange, hblank rfl, hidle (hblank rfl)⟩
  · obtain ⟨result, asked, hran, hfew, hshort, hend⟩ := hdrive network [leaf, root] false
    obtain ⟨r, rfl⟩ := hshort (by decide)
    exact ⟨r, asked, hran, hfew, (hend r rfl).1⟩

end Replay

end WifiTrust
