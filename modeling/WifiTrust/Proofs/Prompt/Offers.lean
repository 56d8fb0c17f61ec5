import WifiTrust.Prompt.Menu
import WifiTrust.Proofs.Handler.Effect

/-!
# What a prompt offers

The replies that a request lets the user give, and the kind of prompt that a reply leads to. A
request offers to open something only where there is something to open.
-/

namespace WifiTrust

namespace PromptRequest

/-- Whether the user can give a reply to the request. A prompt can always be closed. -/
def offers : PromptRequest → PromptReply → Bool
  | _, .cancel => true
  | dialog d, .accept => d.positive.isSome
  | dialog d, .reject => d.negative.isSome
  | dialog d, .neutral => d.neutral.isSome
  | dialog d, .link => d.link.isSome
  | dialog _, .tap => false
  | notification n, .accept => n.accept.isSome
  | notification n, .reject => n.reject.isSome
  | notification n, .tap => n.tap = .reply
  | notification _, .neutral | notification _, .link => false

/-- The choices at the terminal give just the replies that are offered. -/
theorem offers_iff_replyTo {r : PromptRequest} {reply : PromptReply} :
    r.offers reply = true ↔ ∃ chosen, r.replyTo chosen = some reply := by
  have hchosen : (∃ chosen, r.replyTo chosen = some reply) ↔
      reply = .cancel ∨ ∃ label, (label, some reply) ∈ r.choices := by
    constructor
    · rintro ⟨_ | index, h⟩
      · exact .inl (Option.some.inj h).symm
      · obtain ⟨⟨label, _⟩, hentry, rfl⟩ := Option.bind_eq_some_iff.1 h
        exact .inr ⟨label, List.mem_of_getElem? hentry⟩
    · rintro (rfl | ⟨label, hentry⟩)
      · exact ⟨none, rfl⟩
      · obtain ⟨index, hindex⟩ := List.getElem?_of_mem hentry
        exact ⟨some index, by rw [replyTo, hindex, Option.bind_some]⟩
  rw [hchosen]
  cases r with
  | dialog d =>
      cases hlink : d.link <;> cases reply <;>
        simp [offers, choices, Option.isSome_iff_exists, hlink]
  | notification n =>
      cases hkind : n.token.kind.isInformational <;> cases reply <;>
        simp [offers, choices, Option.isSome_iff_exists, hkind]

end PromptRequest

namespace PromptKind

/-- The kind of the prompt that takes the place of one of a kind after a reply. -/
def next? : PromptKind → PromptReply → Option PromptKind
  | tofuNotification, .tap => some tofuDialog
  | legacyDialog, .link => some legacyNotification
  | _, _ => none

/-- How many replies it takes at most until no prompt is left. -/
def steps : PromptKind → Nat
  | tofuNotification | legacyDialog => 2
  | tofuDialog | legacyNotification | invalidChainDialog | invalidChainNotification => 1

theorem steps_le_two (kind : PromptKind) : kind.steps ≤ 2 := by
  cases kind with
  | tofuNotification | legacyDialog => exact Nat.le_refl 2
  | tofuDialog | legacyNotification | invalidChainDialog | invalidChainNotification =>
      exact Nat.le_succ 1

theorem steps_pos (kind : PromptKind) : 0 < kind.steps := by
  cases kind with
  | tofuNotification | legacyDialog => exact Nat.two_pos
  | tofuDialog | legacyNotification | invalidChainDialog | invalidChainNotification =>
      exact Nat.one_pos

theorem steps_of_next? {kind kind' : PromptKind} {reply : PromptReply}
    (leads : kind.next? reply = some kind') : kind'.steps < kind.steps := by
  unfold next? at leads
  split at leads
  · cases leads
    exact Nat.lt_succ_self 1
  · cases leads
    exact Nat.lt_succ_self 1
  · cases leads

end PromptKind

/-- A request that offers to open something is of a kind that has something to open. -/
def PromptRequest.Honest (r : PromptRequest) : Prop :=
  ∀ reply, r.offers reply = true → reply = .tap ∨ reply = .link →
    ∃ kind, r.token.kind.next? reply = some kind

theorem Asks.honest {policy : Policy} {p : Pending} {id : UInt64} {r : PromptRequest}
    (asks : Asks policy p id r) : r.Honest := by
  rintro reply offered (rfl | rfl)
  · cases asks with
    | tofuNotification => exact ⟨.tofuDialog, rfl⟩
    | tofuDialog | legacyDialog => cases offered
    | legacyNotification =>
        cases hlink : policy.helpLink with
        | none => simp [PromptRequest.offers, Wording.legacyNotification, hlink] at offered
        | some => simp [PromptRequest.offers, Wording.legacyNotification, hlink] at offered
  · cases asks with
    | legacyDialog => exact ⟨.legacyNotification, rfl⟩
    | tofuDialog | tofuNotification | legacyNotification => cases offered

theorem honest_invalidChainDialog (token : PromptToken) :
    (PromptRequest.dialog (Wording.invalidChainDialog token)).Honest := by
  rintro reply offered (rfl | rfl)
  · cases offered
  · cases offered

theorem honest_invalidChainNotification (token : PromptToken) :
    (PromptRequest.notification (Wording.invalidChainNotification token)).Honest := by
  rintro reply offered (rfl | rfl)
  · simp [PromptRequest.offers, Wording.invalidChainNotification] at offered
  · cases offered

end WifiTrust
