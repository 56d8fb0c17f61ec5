import WifiTrust.Proofs.Handler.Arrival
import WifiTrust.Proofs.Handler.LastingApproval
import WifiTrust.Proofs.Handler.Starting

/-!
# Connections that need no decision

A network that needs no decision is pending like any other. Nothing that the handshake or the user
does reaches it: it takes no certificate, it is never asked about, and the prompt of the attempt
before is gone, so that a late reply to it counts for nothing.
-/

namespace WifiTrust

namespace Operation

/-- Whether the operation passes on what the handshake reports or the user does. -/
def isSignal : Operation → Bool
  | .addCertificate .. | .setCertificate .. | .start _ | .reply .. => true
  | .prepare _ | .accept _ | .reject _ | .error _ | .putOnHold _ | .cleanup => false

/-- What a signal is answered if the handler has no use for it. -/
def declined : Operation → Answer
  | .reply .. => .done
  | _ => .flag false

end Operation

namespace Handler

variable {σ : Type}

/-- A connection that needs no decision is under way, and nothing is on the screen. -/
structure Unasked (h : Handler σ) (n : Network) : Prop where
  pending : h.pending = some { network := n, gated := false, usesTofu := false }
  screen : h.active = none

/-- The second handler has only turned to a connection that needs no decision. -/
structure Undisturbed (h h' : Handler σ) : Prop where
  store : h'.store = h.store
  session : h'.session = h.session
  decisions : h'.decisions = h.decisions
  requests : h'.board.requests = h.board.requests
  screen : h'.active = none
  chain : h'.chain = some .empty
  state : h'.state = .idle

variable [NetworkStore σ]

section Step

variable {h : Handler σ} {n : Network}

theorem Unasked.addCertificate (hu : h.Unasked n) (ssid : String) (depth : Int) (c : Certificate) :
    h.addCertificate ssid depth c = (false, h) := by
  apply addCertificate_of_not_collects
  intro p hp collects
  rw [hu.pending] at hp
  cases hp
  exact absurd collects.tofu Bool.false_ne_true

theorem Unasked.start (hu : h.Unasked n) (userSelected : Bool) :
    h.start userSelected = (false, h) := by
  apply start_of_free
  intro p hp
  rw [hu.pending] at hp
  cases hp
  rfl

theorem Unasked.reply (hu : h.Unasked n) (token : PromptToken) (reply : PromptReply) :
    h.reply token reply = h := by
  apply reply_of_inactive
  · simp [activeToken, hu.screen]
  · simp [hu.pending]

theorem Unasked.step (hu : h.Unasked n) {op : Operation} (signal : op.isSignal = true) :
    h.step op = (op.declined, h) := by
  cases op with
  | addCertificate ssid depth c => simp [Handler.step, Operation.declined, hu.addCertificate]
  | setCertificate ssid c =>
      simp [Handler.step, Operation.declined, setCertificate, hu.addCertificate]
  | start userSelected => simp [Handler.step, Operation.declined, hu.start]
  | reply token reply => simp [Handler.step, Operation.declined, hu.reply]
  | prepare | accept | reject | error | putOnHold | cleanup => cases signal

theorem Unasked.run (hu : h.Unasked n) {ops : List Operation}
    (signals : ∀ op ∈ ops, op.isSignal = true) :
    h.run ops = h ∧ h.answers ops = ops.map Operation.declined := by
  induction ops with
  | nil => exact ⟨rfl, rfl⟩
  | cons op ops ih =>
      obtain ⟨hsignal, hsignals⟩ := List.forall_mem_cons.1 signals
      have hstep := hu.step hsignal
      obtain ⟨hrun, hanswers⟩ := ih hsignals
      constructor
      · rw [Handler.run, hstep]
        exact hrun
      · rw [answers, hstep, List.map_cons]
        exact congrArg (op.declined :: ·) hanswers

theorem unasked_prepare (free : (h.prepare n).1 = .notRequired) : (h.prepare n).2.2.Unasked n := by
  have hfree : requiresDecision h.policy n = false := (notRequired_iff h n).1 free
  rw [prepare_eq]
  constructor
  · simp [Pending.opening, hfree]
  · rfl

theorem undisturbed_prepare (free : (h.prepare n).1 = .notRequired) :
    Undisturbed h (h.prepare n).2.2 := by
  have hpasses := Passes.of_notRequired free
  have hunasked := unasked_prepare free
  constructor
  · exact hpasses.store
  · exact hpasses.session
  · rw [prepare_eq]
  · exact hpasses.requests
  · exact hunasked.screen
  · simp [chain, hunasked.pending]
  · simp [state, hunasked.pending]

end Step

/-- That no decision is needed is final. The network is handed back as it is, nothing is written,
called or shown, and no sequence of certificates, starts and replies changes that, be they for the
network or for another: each is declined, and the connection stays as it was prepared. -/
theorem notRequired_is_final (h : Handler σ) (n : Network)
    (free : (h.prepare n).1 = .notRequired) :
    (h.prepare n).2.1 = n ∧ Undisturbed h (h.prepare n).2.2 ∧
      ∀ ops, (∀ op ∈ ops, op.isSignal = true) →
        (h.prepare n).2.2.answers ops = ops.map Operation.declined ∧
          Undisturbed h ((h.prepare n).2.2.run ops) := by
  refine ⟨(Passes.of_notRequired free).network, undisturbed_prepare free, ?_⟩
  intro ops signals
  obtain ⟨hrun, hanswers⟩ := (unasked_prepare free).run signals
  refine ⟨hanswers, ?_⟩
  rw [hrun]
  exact undisturbed_prepare free

end Handler

namespace Corporate

open Handler

def awaitingReply : Handler MemoryStore := (arrival true).run (collection ++ [.start true])

def personal : Network where
  id := 9
  ssid := "corp"

/-- The handshake goes on, and the user answers the prompt of the corporate network and another that
nobody has seen. -/
def leftovers : List Operation :=
  [.addCertificate "corp" 0 leaf, .setCertificate "corp" leaf, .start true,
    .reply (token .tofuDialog) .accept, .reply (token .invalidChainDialog) .tap, .start false]

end Corporate

namespace Handler

open Corporate

theorem personal_network_unasked :
    awaitingReply.activeToken = some (token .tofuDialog) ∧
      (awaitingReply.prepare personal).2.1 = personal ∧
      (awaitingReply.prepare personal).2.2.answers leftovers =
        [.flag false, .flag false, .flag false, .done, .done, .flag false] ∧
      Undisturbed awaitingReply ((awaitingReply.prepare personal).2.2.run leftovers) := by
  obtain ⟨hnetwork, -, hsignals⟩ := notRequired_is_final awaitingReply personal rfl
  obtain ⟨hanswers, hundisturbed⟩ := hsignals leftovers (by decide)
  exact ⟨rfl, hnetwork, hanswers, hundisturbed⟩

end Handler

end WifiTrust
