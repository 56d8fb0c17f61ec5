import WifiTrust.Proofs.Handler.Arrival
import WifiTrust.Proofs.Store.Writing

/-!
# The intake of certificates

A certificate is taken or refused as a whole. One that is refused has touched nothing, and one that
is taken fills at most one place in the chain; only the server's own reaches the store and the
supplicant, also where its place was taken before.
-/

namespace WifiTrust

namespace Handler

variable {σ : Type} [NetworkStore σ]

open NetworkStore

section Intake

variable {h : Handler σ} {ssid : String} {depth : Int} {c : Certificate}

theorem addCertificate_taken_iff : (h.addCertificate ssid depth c).1 = true ↔
    (∃ p, h.pending = some p ∧ p.Collects ssid) ∧ 0 ≤ depth ∧
      c.isReadable = true := by
  by_cases hcollects : ∃ p, h.pending = some p ∧ p.Collects ssid
  · obtain ⟨p, hp, collects⟩ := hcollects
    rw [addCertificate_of_collects hp collects]
    by_cases hfit : 0 ≤ depth ∧ c.isReadable = true
    · rw [if_pos hfit]
      exact iff_of_true rfl ⟨⟨p, hp, collects⟩, hfit⟩
    · rw [if_neg hfit]
      exact iff_of_false Bool.false_ne_true fun taken => hfit taken.2
  · have hnone : ∀ p, h.pending = some p → ¬p.Collects ssid :=
      fun p hp collects => hcollects ⟨p, hp, collects⟩
    rw [addCertificate_of_not_collects hnone]
    exact iff_of_false Bool.false_ne_true fun taken => hcollects taken.1

theorem addCertificate_of_refused (refused : (h.addCertificate ssid depth c).1 = false) :
    (h.addCertificate ssid depth c).2 = h := by
  unfold addCertificate at refused ⊢
  cases hcollect : h.collect ssid depth c with
  | none => rfl
  | some h' =>
      rw [hcollect] at refused
      cases refused

theorem addCertificate_of_taken (taken : (h.addCertificate ssid depth c).1 = true) {p : Pending}
    (hp : h.pending = some p) :
    (h.addCertificate ssid depth c).2 = h.received p (p.chain.entered depth.toNat c) depth := by
  obtain ⟨⟨q, hq, collects⟩, hfit⟩ := addCertificate_taken_iff.1 taken
  have hsame : q = p := Option.some.inj (hq.symm.trans hp)
  subst hsame
  rw [addCertificate_of_collects hp collects, if_pos hfit]

end Intake

/-- Delivery is all or nothing. A certificate is taken exactly if a chain is collected under the
SSID that it is delivered for, the depth is one, and both names can be taken apart. Otherwise the
handler is as it was. A certificate that is taken fills its place in the chain if that was vacant.
Only for depth zero the selection is forbidden, the association torn down and the keys flushed. -/
theorem delivery_all_or_nothing (h : Handler σ) (ssid : String) (depth : Int) (c : Certificate) :
    let taken := (h.addCertificate ssid depth c).1
    let h' := (h.addCertificate ssid depth c).2
    (taken = true ↔ ssid ≠ "" ∧ 0 ≤ depth ∧
      (∃ p, h.pending = some p ∧ p.network.ssid = ssid ∧ p.usesTofu = true) ∧
      (∃ subject, DistinguishedName.parse c.subject = .ok subject) ∧
      ∃ issuer, DistinguishedName.parse c.issuer = .ok issuer) ∧
    (taken = false → h' = h) ∧
    (taken = true → ∃ p chain subject issuer, h.pending = some p ∧
      DistinguishedName.parse c.subject = .ok subject ∧
      DistinguishedName.parse c.issuer = .ok issuer ∧
      (∀ d, chain.get? d =
        if d = depth.toNat ∧ p.chain.get? d = none then some ⟨d, c, subject, issuer⟩
        else p.chain.get? d) ∧
      h' =
        { h with
          pending := some { p with chain := chain }
          store :=
            if depth = 0 then (updateSelection h.store p.network.id .disabledByPolicy).2
            else h.store
          session :=
            if depth = 0 then
              ⟨h.session.calls ++ [.disconnect h.policy.interfaceName,
                .removeCachedKeyMaterial p.network.id, .removeAllNetworks h.policy.interfaceName]⟩
            else h.session }) ∧
    ∀ (s : MemoryStore) (id : NetworkId), (updateSelection s id .disabledByPolicy).2 =
      if s.failSelectionUpdates then s
      else
        { s with
          networks := s.networks.insert id { s.entry id with selection := .disabledByPolicy }
          selectionHistory := s.selectionHistory ++ [(id, .disabledByPolicy)] } := by
  intro taken h'
  refine ⟨?_, addCertificate_of_refused, fun htaken => ?_, fun s id => s.updateSelection_eq ..⟩
  · rw [addCertificate_taken_iff, Certificate.isReadable_iff]
    constructor
    · rintro ⟨⟨p, hp, collects⟩, hdepth, hreadable⟩
      exact ⟨collects.named, hdepth, ⟨p, hp, collects.ssid_eq, collects.tofu⟩, hreadable⟩
    · rintro ⟨named, hdepth, ⟨p, hp, hssid, htofu⟩, hreadable⟩
      exact ⟨⟨p, hp, named, hssid, htofu⟩, hdepth, hreadable⟩
  · obtain ⟨⟨p, hp, -⟩, -, hreadable⟩ := addCertificate_taken_iff.1 htaken
    obtain ⟨entry, hentry⟩ :=
      ChainEntry.exists_ofCertificate_iff.2 (Certificate.isReadable_iff.1 hreadable)
    obtain ⟨hdepth, rfl, hsubject, hissuer⟩ := ChainEntry.ofCertificate_eq_ok_iff.1 hentry
    refine ⟨p, _, entry.subject, entry.issuer, hp, hsubject, hissuer, fun d => ?_,
      (addCertificate_of_taken htaken hp).trans (received_eq ..)⟩
    rw [Chain.get?_entered, ChainEntry.ofCertificate?_eq_some.2 hentry]
    by_cases hd : d = depth.toNat
    · cases hplace : p.chain.get? d with
      | none => simp [hd, ← hdepth]
      | some first => simp
    · simp [hd]

open Corporate in
/-- A second certificate for the corporate server ends the association again without a place in the
chain, and one without a name changes nothing. -/
theorem corporate_delivery_all_or_nothing :
    let h : Handler MemoryStore := (fresh {} { clock := default } {} {} []).run collection
    let unnamed : Certificate := .ofParts "O=Corp" "CN=Corp Root" [] true
    (h.addCertificate "corp" 0 unnamed).1 = false ∧ (h.addCertificate "corp" 0 unnamed).2 = h ∧
      (h.addCertificate "corp" 0 root).1 = true ∧
      (h.addCertificate "corp" 0 root).2.chain = h.chain ∧
      (h.addCertificate "corp" 0 root).2.session.calls = h.session.calls ++
        [.disconnect "wlan0", .removeCachedKeyMaterial 7, .removeAllNetworks "wlan0"] := by
  intro h unnamed
  have taken : (h.addCertificate "corp" 0 root).1 = true := by rfl
  obtain ⟨hfits, hkept, -, -⟩ := delivery_all_or_nothing h "corp" 0 unnamed
  obtain ⟨-, -, htaken, -⟩ := delivery_all_or_nothing h "corp" 0 root
  have refused : (h.addCertificate "corp" 0 unnamed).1 = false := by
    refine Bool.eq_false_iff.2 fun fits => ?_
    obtain ⟨-, -, -, ⟨subject, hsubject⟩, -⟩ := hfits.1 fits
    have hparse : DistinguishedName.parse "O=Corp" = .ok subject := hsubject
    have unreadable : (DistinguishedName.parse "O=Corp").toOption.isSome = false := by rfl
    rw [hparse] at unreadable
    cases unreadable
  obtain ⟨p, chain, _, _, hp, -, -, hchain, hstate⟩ := htaken taken
  have occupied : p.chain.get? 0 ≠ none := by
    cases hp
    exact Option.some_ne_none _
  have hsame : chain = p.chain := by
    apply Chain.ext_get?
    intro d
    rw [hchain, if_neg]
    rintro ⟨rfl, hvacant⟩
    exact occupied hvacant
  refine ⟨refused, hkept refused, taken, ?_, ?_⟩
  · rw [hstate, Handler.chain, Handler.chain, hp, hsame]
  · rw [hstate]
    cases hp
    rfl

end Handler

end WifiTrust
