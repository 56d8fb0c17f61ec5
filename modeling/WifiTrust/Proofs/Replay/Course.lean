import WifiTrust.Proofs.Handler.Arrival
import WifiTrust.Proofs.Handler.Attempt
import WifiTrust.Replay

/-!
# The course of a replay

A replay keeps what each operation keeps, whoever answers its prompts. Its delivery fills the chain
of a connection that collects one and changes nothing that a user could see.
-/

namespace WifiTrust.Replay

open Handler

variable {σ : Type}

/-- Certificates have gone into the chain of the pending connection. What has been asked and decided
is as it was. -/
structure Collected (h g : Handler σ) (p : Pending) (c : Chain) : Prop where
  pending : g.pending = some { p with chain := c }
  policy : g.policy = h.policy
  decisions : g.decisions = h.decisions
  board : g.board = h.board
  active : g.active = h.active

theorem Collected.trans {h g g' : Handler σ} {p : Pending} {c c' : Chain}
    (earlier : Collected h g p c) (later : Collected g g' { p with chain := c } c') :
    Collected h g' p c' where
  pending := later.pending
  policy := later.policy.trans earlier.policy
  decisions := later.decisions.trans earlier.decisions
  board := later.board.trans earlier.board
  active := later.active.trans earlier.active

/-- The operations that bring an attempt to its end once the user is being asked. -/
inductive Closing : Operation → Prop
  | reply (token : PromptToken) (reply : PromptReply) : Closing (.reply token reply)
  | cleanup : Closing .cleanup

variable [NetworkStore σ]

/-- Operations of a kind lead from one handler to another. -/
def Leads (kind : Operation → Prop) (h h' : Handler σ) : Prop :=
  ∃ ops, (∀ op ∈ ops, kind op) ∧ h.run ops = h'

namespace Leads

variable {kind : Operation → Prop} {h h' h'' : Handler σ}

theorem refl (h : Handler σ) : Leads kind h h := ⟨[], List.forall_mem_nil _, rfl⟩

theorem single (h : Handler σ) (op : Operation) (hop : kind op) : Leads kind h (h.step op).2 :=
  ⟨[op], by simpa using hop, rfl⟩

theorem trans (first : Leads kind h h') (second : Leads kind h' h'') : Leads kind h h'' := by
  obtain ⟨ops, hkind, rfl⟩ := first
  obtain ⟨ops', hkind', rfl⟩ := second
  exact ⟨ops ++ ops', List.forall_mem_append.2 ⟨hkind, hkind'⟩, run_append h ops ops'⟩

theorem mono {kind' : Operation → Prop} (led : Leads kind h h')
    (weaker : ∀ op, kind op → kind' op) : Leads kind' h h' := by
  obtain ⟨ops, hkind, rfl⟩ := led
  exact ⟨ops, fun op hop => weaker op (hkind op hop), rfl⟩

theorem keeps {P : Handler σ → Prop} (keeps : ∀ h op, P h → P (h.step op).2)
    (led : Leads kind h h') (hP : P h) : P h' := by
  obtain ⟨ops, -, rfl⟩ := led
  induction ops generalizing h with
  | nil => exact hP
  | cons op ops ih => exact ih (keeps h op hP)

end Leads

theorem drive_eq (h : Handler σ) (n : Network) (cs : List Certificate) (userSelected : Bool)
    (answer : ShownPrompt → Except Failure (Option PromptReply)) :
    drive h n cs userSelected answer = do
      let (accepted, g) ←
        deliverChain (h.prepare n).2.2 (h.prepare n).1 (h.prepare n).2.1.ssid cs
      let h' ← converse answer rounds (g.start userSelected).2
      return ⟨(h.prepare n).1, accepted, (h.prepare n).2.1, leave h'⟩ := by
  simp only [drive]
  cases deliverChain (h.prepare n).2.2 (h.prepare n).1 (h.prepare n).2.1.ssid cs with
  | error e => rfl
  | ok delivered => rfl

private theorem ok_of_bind {α β : Type} {x : Except Failure α} {f : α → Except Failure β} {y : β}
    (h : (x >>= f) = .ok y) : ∃ a, x = .ok a ∧ f a = .ok y := by
  cases x with
  | error e => cases h
  | ok a => exact ⟨a, rfl, h⟩

section Run

theorem leads_deliver (h : Handler σ) (ssid : String) (depth : Nat) (cs : List Certificate) :
    Leads (·.delivery? ≠ none) h (deliver h ssid depth cs).2 := by
  induction cs generalizing h depth with
  | nil => exact .refl h
  | cons c cs ih =>
      have hfirst : Leads (·.delivery? ≠ none) h (h.addCertificate ssid depth c).2 :=
        .single h (.addCertificate ssid depth c) (Option.some_ne_none _)
      exact hfirst.trans (ih _ (depth + 1))

theorem leads_deliverChain {h : Handler σ} {preparation : Preparation} {ssid : String}
    {cs : List Certificate} {accepted : Nat} {g : Handler σ}
    (delivered : deliverChain h preparation ssid cs = .ok (accepted, g)) :
    Leads (·.delivery? ≠ none) h g := by
  unfold deliverChain at delivered
  split at delivered
  · cases delivered
    exact .refl _
  · split at delivered
    · cases delivered
    · have hend : deliver h ssid 0 cs = (accepted, g) := Except.ok.inj delivered
      have hled := leads_deliver h ssid 0 cs
      rwa [hend] at hled

theorem leads_converse {answer : ShownPrompt → Except Failure (Option PromptReply)} {n : Nat}
    {h h' : Handler σ} (talked : converse answer n h = .ok h') : Leads Closing h h' := by
  induction n generalizing h with
  | zero =>
      cases talked
      exact .refl _
  | succ n ih =>
      unfold converse at talked
      split at talked
      · next token shown _ _ =>
          obtain ⟨answered, -, hrest⟩ := ok_of_bind talked
          cases answered with
          | none =>
              cases hrest
              exact .refl _
          | some reply =>
              have hfirst : Leads Closing h (h.reply token reply) :=
                .single h (.reply token reply) (.reply token reply)
              exact hfirst.trans (ih hrest)
      · cases talked
        exact .refl _

theorem leads_leave (h : Handler σ) : Leads Closing h (leave h) := by
  unfold leave
  split
  · exact .single h .cleanup .cleanup
  · exact .refl h

/-- A replay that has gone through, cut where its certificates have been delivered. -/
structure Course (h : Handler σ) (n : Network) (cs : List Certificate) (userSelected : Bool)
    (r : Replayed σ) (g : Handler σ) : Prop where
  preparation : r.preparation = (h.prepare n).1
  network : r.network = (h.prepare n).2.1
  delivered : deliverChain (h.prepare n).2.2 r.preparation r.network.ssid cs = .ok (r.accepted, g)
  closed : Leads Closing (g.start userSelected).2 r.handler

theorem exists_course {answer : ShownPrompt → Except Failure (Option PromptReply)} {h : Handler σ}
    {n : Network} {cs : List Certificate} {userSelected : Bool} {r : Replayed σ}
    (driven : drive h n cs userSelected answer = .ok r) : ∃ g, Course h n cs userSelected r g := by
  rw [drive_eq] at driven
  obtain ⟨⟨accepted, g⟩, hdelivered, hrest⟩ := ok_of_bind driven
  obtain ⟨h', htalked, hend⟩ := ok_of_bind hrest
  cases hend
  exact ⟨g, rfl, rfl, hdelivered, (leads_converse htalked).trans (leads_leave h')⟩

/-- What every operation keeps, a replay keeps, whoever answers the prompts. -/
theorem drive_keeps {P : Handler σ → Prop} (keeps : ∀ h op, P h → P (h.step op).2)
    {answer : ShownPrompt → Except Failure (Option PromptReply)} {h : Handler σ}
    (hP : P h) {n : Network} {cs : List Certificate} {userSelected : Bool} {r : Replayed σ}
    (driven : drive h n cs userSelected answer = .ok r) : P r.handler := by
  obtain ⟨g, course⟩ := exists_course driven
  have hprepared : P (h.prepare n).2.2 := keeps h (.prepare n) hP
  have hcollected : P g := (leads_deliverChain course.delivered).keeps keeps hprepared
  exact course.closed.keeps keeps (keeps g (.start userSelected) hcollected)

end Run

theorem collected_received (h : Handler σ) (p : Pending) (c : Chain) (depth : Int) :
    Collected h (h.received p c depth) p c := by
  rw [received_eq]
  exact ⟨rfl, rfl, rfl, rfl, rfl⟩

theorem deliver_of_collects {h : Handler σ} {p : Pending} (hp : h.pending = some p) {ssid : String}
    (collects : p.Collects ssid) (depth : Nat) (cs : List Certificate) :
    (deliver h ssid depth cs).1 = cs.countP (·.isReadable) ∧
      Collected h (deliver h ssid depth cs).2 p (p.chain.enteredFrom depth cs) := by
  induction cs generalizing h p depth with
  | nil => exact ⟨rfl, hp, rfl, rfl, rfl, rfl⟩
  | cons c cs ih =>
      have hadded := addCertificate_of_collects hp collects depth c
      cases hread : c.isReadable with
      | false =>
          have unreadable : ¬c.Readable := by simp [← Certificate.isReadable_iff, hread]
          have hrefused : h.addCertificate ssid depth c = (false, h) := by
            simpa [hread] using hadded
          obtain ⟨hcount, hcollected⟩ := ih hp collects (depth + 1)
          simp only [deliver, hrefused, Chain.enteredFrom, Chain.entered_of_unreadable _ _ unreadable]
          refine ⟨?_, hcollected⟩
          simp [hcount, hread]
      | true =>
          have htaken : h.addCertificate ssid depth c =
              (true, h.received p (p.chain.entered depth c) depth) := by
            simpa [hread] using hadded
          have hreceived := received_pending h p (p.chain.entered depth c) depth
          obtain ⟨hcount, hcollected⟩ := ih hreceived (collects.grown _) (depth + 1)
          simp only [deliver, htaken, Chain.enteredFrom]
          refine ⟨?_, (collected_received h p _ depth).trans hcollected⟩
          simp [hcount, hread]

theorem deliver_of_not_collects {h : Handler σ} {ssid : String}
    (hnone : ∀ p, h.pending = some p → ¬p.Collects ssid) (depth : Nat) (cs : List Certificate) :
    deliver h ssid depth cs = (0, h) := by
  induction cs generalizing depth with
  | nil => rfl
  | cons c cs ih => simp [deliver, addCertificate_of_not_collects hnone, ih]

theorem deliverChain_of_collects {h : Handler σ} {ssid : String} {cs : List Certificate}
    (short : cs.length ≤ depths) :
    deliverChain h .gated ssid cs = .ok (deliver h ssid 0 cs) := by
  simp [deliverChain, Nat.not_lt.2 short]

theorem deliverChain_of_not_collects {h : Handler σ} {ssid : String}
    (hnone : ∀ p, h.pending = some p → ¬p.Collects ssid) {cs : List Certificate}
    (short : cs.length ≤ depths) (preparation : Preparation) :
    deliverChain h preparation ssid cs = .ok (0, h) := by
  simp [deliverChain, Nat.not_lt.2 short, deliver_of_not_collects hnone]

end WifiTrust.Replay
