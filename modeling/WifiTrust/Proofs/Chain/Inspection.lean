import WifiTrust.Command.Inspect
import WifiTrust.Proofs.Chain.Anchors
import WifiTrust.Proofs.Chain.Delivery

namespace WifiTrust

namespace ChainError

def opening : ChainError → List Char
  | empty => ['n', 'o', ' ', 's']
  | missingLeaf => ['s', 'e', 'r', 'v']
  | untrustedRoot _ => ['c', 'e', 'r', 't']
  | missingLink _ => ['n', 'o', ' ', 'c']
  | issuerMismatch _ _ _ => ['i', 's', 's', 'u']

theorem length_opening (e : ChainError) : e.opening.length = 4 := by
  cases e <;> rfl

private theorem prefix_append {l : List Char} {s : String} (h : l <+: s.toList) (t : String) :
    l <+: (s ++ t).toList := by
  rw [String.toList_append]
  exact h.trans (List.prefix_append _ _)

theorem opening_prefix (e : ChainError) : e.opening <+: e.message.toList := by
  cases e with
  | empty | missingLeaf => decide
  | missingLink =>
      apply prefix_append
      dsimp only [opening]
      decide
  | untrustedRoot =>
      iterate 2 apply prefix_append
      dsimp only [opening]
      decide
  | issuerMismatch =>
      iterate 6 apply prefix_append
      dsimp only [opening]
      decide

theorem isBrokenLink_of_message {e e' : ChainError} (h : e.message = e'.message) :
    e.isBrokenLink = e'.isBrokenLink := by
  have hprefix : e'.opening <+: e.message.toList := h ▸ e'.opening_prefix
  have hlength : e.opening.length = e'.opening.length := by rw [length_opening, length_opening]
  have hopening : e.opening = e'.opening :=
    (List.prefix_of_prefix_length_le e.opening_prefix hprefix
      (Nat.le_of_eq hlength)).eq_of_length hlength
  cases e <;> cases e' <;> simp [isBrokenLink, opening] at hopening ⊢

end ChainError

def Chain.Readable (cs : List Certificate) : Prop :=
  ∀ c ∈ cs, c.Readable

theorem Chain.ends_of_anchors {cs : List Certificate} (readable : Readable cs)
    {root leaf : ChainEntry} (valid : (ofCertificates cs).anchors = .ok (root, leaf)) :
    cs.head? = some leaf.certificate ∧ cs.getLast? = some root.certificate := by
  obtain ⟨n, hanchored⟩ := anchors_eq_ok_iff.1 valid
  have hbottom := hanchored.bottom
  have htop := hanchored.top
  have habove := hanchored.above (n + 1) (Nat.lt_succ_self n)
  rw [get?_ofCertificates] at hbottom htop habove
  obtain ⟨first, hfirst, hleaf⟩ := Option.bind_eq_some_iff.1 hbottom
  obtain ⟨last, hlast, hroot⟩ := Option.bind_eq_some_iff.1 htop
  have hend : cs[n + 1]? = none := by
    refine Option.eq_none_iff_forall_ne_some.2 fun c hc => ?_
    rw [hc, Option.bind_some] at habove
    exact ChainEntry.ofCertificate?_eq_none_iff.1 habove (readable c (List.mem_of_getElem? hc))
  have hlength : cs.length - 1 = n := by
    have hle := List.getElem?_eq_none_iff.1 hend
    obtain ⟨hlt, -⟩ := List.getElem?_eq_some_iff.1 hlast
    omega
  constructor
  · rw [List.head?_eq_getElem?, hfirst, ChainEntry.certificate_of_ofCertificate? hleaf]
  · rw [List.getLast?_eq_getElem?, hlength, hlast, ChainEntry.certificate_of_ofCertificate? hroot]

theorem Chain.validate_of_selfSigned {c : Certificate} {e : ChainEntry}
    (readable : ChainEntry.ofCertificate? 0 c = some e) (self : c.subject = c.issuer) :
    (ofCertificates [c]).validate = .ok () := by
  refine validate_eq_ok_iff.2 ⟨e, e, anchors_eq_ok_iff.2 ⟨0, ?_⟩⟩
  have hcertificate := ChainEntry.certificate_of_ofCertificate? readable
  constructor
  · simp [get?_ofCertificates, readable]
  · intro d hd
    have hbeyond : ¬d = 0 := Nat.ne_of_gt hd
    simp [get?_ofCertificates, hbeyond]
  · simp [get?_ofCertificates, readable]
  · intro d hd
    exact absurd hd (Nat.not_lt_zero d)
  · simp [hcertificate, self]

namespace Inspection

theorem enterAll_eq_ok {c c' : Chain} {depth : Nat} {cs : List Certificate}
    (h : enterAll c depth cs = .ok c') : c' = c.enteredFrom depth cs ∧ Chain.Readable cs := by
  induction cs generalizing c depth with
  | nil =>
      cases h
      exact ⟨rfl, List.forall_mem_nil _⟩
  | cons x xs ih =>
      unfold enterAll at h
      split at h
      · next outcome next hinsert =>
          obtain ⟨hrest, hreadable⟩ := ih h
          obtain ⟨entry, hentry, -⟩ := Chain.insert_eq_ok_iff.1 hinsert
          have hnext : c.entered depth x = next := congrArg Prod.snd hinsert
          rw [Chain.enteredFrom, hnext]
          exact ⟨hrest, List.forall_mem_cons.2
            ⟨ChainEntry.exists_ofCertificate_iff.1 ⟨entry, hentry⟩, hreadable⟩⟩
      · cases h

theorem ofCertificates_eq_ok {source : Path} {cs : List Certificate} {i : Inspection}
    (h : ofCertificates source cs = .ok i) :
    i.chain = .ofCertificates cs ∧ Chain.Readable cs := by
  unfold ofCertificates at h
  split at h
  · cases h
  · cases hentered : enterAll .empty 0 cs with
    | error e =>
        rw [hentered] at h
        cases h
    | ok c =>
        rw [hentered] at h
        cases h
        exact enterAll_eq_ok hentered

theorem valid_iff (i : Inspection) : i.valid = true ↔ i.chain.validate = .ok () := by
  unfold valid error?
  cases i.chain.validate with
  | ok => simp
  | error e => simp

theorem error?_of_invalid {i : Inspection} {e : ChainError} (h : i.chain.validate = .error e) :
    i.error? = some e := by
  rw [error?, h]

theorem reportsBrokenLink_iff (i : Inspection) :
    (∃ e : ChainError, e.isBrokenLink = true ∧ i.error?.map ChainError.message = some e.message) ↔
      ∃ e, i.error? = some e ∧ e.isBrokenLink = true := by
  constructor
  · rintro ⟨e, hbroken, hmessage⟩
    obtain ⟨e', herror, hsame⟩ := Option.map_eq_some_iff.1 hmessage
    exact ⟨e', herror, (ChainError.isBrokenLink_of_message hsame).trans hbroken⟩
  · rintro ⟨e, herror, hbroken⟩
    exact ⟨e, hbroken, by rw [herror, Option.map_some]⟩

end Inspection

end WifiTrust
