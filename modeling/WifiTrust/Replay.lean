import WifiTrust.Command.Request
import WifiTrust.Failure
import WifiTrust.Handler.Basic

/-!
# Replaying a connection attempt

One attempt from its preparation to its decision: the certificates are delivered in order, the
leaf first, approval is started, and the prompts are answered one after the other.
-/

namespace WifiTrust

/-- What an attempt came to. -/
structure Replayed (σ : Type) where
  preparation : Preparation
  /-- How many certificates were taken. -/
  accepted : Nat
  /-- The network as it was handed back. -/
  network : Network
  handler : Handler σ
  deriving DecidableEq

namespace Replay

variable {σ : Type} [NetworkStore σ]

/-- How many prompts are answered at most. A tap and a link each open one more prompt; anything
longer goes in circles. -/
def rounds : Nat := 8

/-- How many certificates have a depth. -/
def depths : Nat := Nat.pow 2 31

/-- Deliver certificates from a depth upwards and count those that are taken. -/
def deliver (h : Handler σ) (ssid : String) : Nat → List Certificate → Nat × Handler σ
  | _, [] => (0, h)
  | depth, c :: cs =>
      let (added, h) := h.addCertificate ssid depth c
      let (count, h) := deliver h ssid (depth + 1) cs
      (if added then count + 1 else count, h)

/-- Deliver a chain to a handler that collects one. -/
def deliverChain (h : Handler σ) (p : Preparation) (ssid : String) (cs : List Certificate) :
    Except Failure (Nat × Handler σ) :=
  if p ≠ .gated then .ok (0, h)
  else if depths < cs.length then .error .tooManyCertificates
  else .ok (deliver h ssid 0 cs)

/-- Answer the prompts until none is left, `n` of them at most. No answer means to walk away. -/
def converse {m : Type → Type} [Monad m] (answer : ShownPrompt → m (Option PromptReply)) :
    Nat → Handler σ → m (Handler σ)
  | 0, h => pure h
  | n + 1, h =>
      match h.activeToken, h.board.outstanding? with
      | some token, some shown => do
          match ← answer shown with
          | some reply => converse answer n (h.reply token reply)
          | none => pure h
      | _, _ => pure h

/-- Drop an attempt whose prompt is still on the screen. -/
def leave (h : Handler σ) : Handler σ := if h.active.isSome then h.cleanup else h

/-- Replay an attempt. -/
def drive {m : Type → Type} [Monad m] [MonadExceptOf Failure m] (h : Handler σ) (n : Network)
    (cs : List Certificate) (userSelected : Bool)
    (answer : ShownPrompt → m (Option PromptReply)) : m (Replayed σ) := do
  let (preparation, n, h) := h.prepare n
  let (accepted, h) ← MonadExcept.ofExcept (deliverChain h preparation n.ssid cs)
  let (_, h) := h.start userSelected
  let h ← converse answer rounds h
  return ⟨preparation, accepted, n, leave h⟩

/-- The reply to a prompt where the answer stands beforehand: a notification that only leads to a
dialog is tapped, and a notice is acknowledged. -/
def autoReply (a : StandingAnswer) (k : PromptKind) : PromptReply :=
  if k = .tofuNotification then .tap
  else if k.isInformational then .accept
  else
    match a with
    | .accept => .accept
    | .reject => .reject

end Replay

end WifiTrust
