import WifiTrust.Proofs.Chain.Entries

/-!
# Valid chains

What it means that a chain leads from a root down to the server, said without the walk that checks
it. Main statement: the walk finds anchors exactly in such chains.
-/

namespace WifiTrust.Chain

/-- Depths `0` to `n` are taken and none above, each entry below the root is issued by the one above
it, and the root can stand at the top. -/
structure Anchored (c : Chain) (n : Nat) (root leaf : ChainEntry) : Prop where
  top : c.get? n = some root
  above : ∀ d, n < d → c.get? d = none
  bottom : c.get? 0 = some leaf
  linked : ∀ d, d < n → ∃ child parent, c.get? d = some child ∧ c.get? (d + 1) = some parent ∧
    child.certificate.issuer = parent.certificate.subject
  trusted : root.certificate.isCa = true ∨ root.certificate.subject = root.certificate.issuer

theorem Anchored.taken {c : Chain} {n : Nat} {root leaf : ChainEntry} (h : c.Anchored n root leaf)
    {d : Nat} (hd : d ≤ n) : ∃ e, c.get? d = some e := by
  rcases Nat.lt_or_eq_of_le hd with hlt | rfl
  · obtain ⟨child, _, hchild, _⟩ := h.linked d hlt
    exact ⟨child, hchild⟩
  · exact ⟨root, h.top⟩

theorem root?_eq_last? (c : Chain) : c.root? = c.entries.last? := by
  unfold root?
  cases hlast : c.entries.last? with
  | none => rfl
  | some top =>
      obtain ⟨n, e⟩ := top
      have hdepth : e.depth = n := c.keyed n e (SortedMap.last?_eq_some_iff.1 hlast).1
      exact congrArg (fun d => some (d, e)) hdepth

theorem root?_eq_some_iff {c : Chain} {n : Nat} {root : ChainEntry} :
    c.root? = some (n, root) ↔ c.get? n = some root ∧ ∀ d, n < d → c.get? d = none := by
  rw [root?_eq_last?]
  refine SortedMap.last?_eq_some_iff.trans (and_congr_right fun _ => ⟨?_, ?_⟩)
  · intro h d hd
    cases hvacant : c.get? d with
    | none => rfl
    | some e =>
        have hle : (d : Int) ≤ n := h d e hvacant
        omega
  · intro h d e he
    by_cases hd : n < d
    · have hvacant : c.get? d = some e := he
      rw [h d hd] at hvacant
      cases hvacant
    · show (d : Int) ≤ n
      omega

theorem descend_eq_ok_iff {c : Chain} {n : Nat} {parent : ChainEntry}
    (hparent : c.get? n = some parent) :
    c.descend n parent = .ok () ↔ ∀ d, d < n → ∃ child above, c.get? d = some child ∧
      c.get? (d + 1) = some above ∧ child.certificate.issuer = above.certificate.subject := by
  induction n generalizing parent with
  | zero => exact ⟨fun _ d hd => absurd hd (Nat.not_lt_zero d), fun _ => rfl⟩
  | succ n ih =>
      rw [descend_succ]
      cases hchild : c.get? n with
      | none =>
          refine ⟨nofun, fun h => ?_⟩
          obtain ⟨child, _, hc, _⟩ := h n (Nat.lt_succ_self n)
          rw [hchild] at hc
          cases hc
      | some child =>
          dsimp only
          split
          · next hlink =>
              rw [ih hchild]
              refine ⟨fun h d hd => ?_, fun h d hd => h d (Nat.lt_succ_of_lt hd)⟩
              rcases Nat.lt_succ_iff_lt_or_eq.1 hd with hlt | rfl
              · exact h d hlt
              · exact ⟨child, parent, hchild, hparent, hlink⟩
          · next hlink =>
              refine ⟨nofun, fun h => ?_⟩
              obtain ⟨child', above, hc, ha, hlink'⟩ := h n (Nat.lt_succ_self n)
              rw [hchild] at hc
              rw [hparent] at ha
              cases hc
              cases ha
              exact absurd hlink' hlink

theorem canAnchor_iff {e : ChainEntry} : e.canAnchor = true ↔
    e.certificate.isCa = true ∨ e.certificate.subject = e.certificate.issuer := by
  simp [ChainEntry.canAnchor, Certificate.isSelfSigned]

/-- Anchors are found exactly in the valid chains. -/
theorem anchors_eq_ok_iff {c : Chain} {root leaf : ChainEntry} :
    c.anchors = .ok (root, leaf) ↔ ∃ n, c.Anchored n root leaf := by
  rw [anchors_eq]
  constructor
  · intro h
    split at h
    · cases h
    · next n top hroot =>
        obtain ⟨htop, habove⟩ := root?_eq_some_iff.1 hroot
        split at h
        · cases h
        · next bottom hleaf =>
            split at h
            · next hanchor =>
                cases hwalk : c.descend n top with
                | error e =>
                    rw [hwalk] at h
                    cases h
                | ok =>
                    rw [hwalk] at h
                    cases h
                    exact ⟨n, htop, habove, hleaf, (descend_eq_ok_iff htop).1 hwalk,
                      canAnchor_iff.1 hanchor⟩
            · cases h
  · rintro ⟨n, h⟩
    have hroot : c.root? = some (n, root) := root?_eq_some_iff.2 ⟨h.top, h.above⟩
    have hleaf : c.leaf? = some leaf := h.bottom
    have hwalk : c.descend n root = .ok () := (descend_eq_ok_iff h.top).2 h.linked
    rw [hroot]
    dsimp only
    rw [hleaf]
    dsimp only
    rw [if_pos (canAnchor_iff.2 h.trusted), hwalk]
    rfl

theorem leaf?_of_anchors {c : Chain} {root leaf : ChainEntry}
    (h : c.anchors = .ok (root, leaf)) : c.leaf? = some leaf := by
  obtain ⟨n, hanchored⟩ := anchors_eq_ok_iff.1 h
  exact hanchored.bottom

theorem validate_eq_ok_iff {c : Chain} :
    c.validate = .ok () ↔ ∃ root leaf, c.anchors = .ok (root, leaf) := by
  unfold validate
  cases c.anchors with
  | error e => exact ⟨nofun, nofun⟩
  | ok ends => exact ⟨fun _ => ⟨ends.1, ends.2, rfl⟩, fun _ => rfl⟩

theorem leaf?_of_valid {c : Chain} (valid : c.validate = .ok ()) : c.leaf? ≠ none := by
  obtain ⟨root, leaf, hanchors⟩ := validate_eq_ok_iff.1 valid
  simp [leaf?_of_anchors hanchors]

/-- Anchors of a chain that has grown keep the leaf, and the root is one of the new entries. -/
theorem anchors_of_extends {c c' : Chain} (hext : c.Extends c') {root leaf root' leaf' : ChainEntry}
    (h : c.anchors = .ok (root, leaf)) (h' : c'.anchors = .ok (root', leaf')) :
    leaf' = leaf ∧ (c' ≠ c → ∃ n, c'.get? n = some root' ∧ c.get? n = none) := by
  obtain ⟨n, hc⟩ := anchors_eq_ok_iff.1 h
  obtain ⟨n', hc'⟩ := anchors_eq_ok_iff.1 h'
  constructor
  · have hbottom := hext 0 leaf hc.bottom
    rw [hc'.bottom] at hbottom
    exact Option.some.inj hbottom
  · intro hne
    refine ⟨n', hc'.top, hc.above n' (Nat.lt_of_not_le fun hle => hne ?_)⟩
    -- the chain had every depth up to the new top already, so there was no room for a new entry
    refine (hext.antisymm fun d e he => ?_).symm
    have hd : d ≤ n := by
      refine Nat.le_of_not_lt fun hlt => ?_
      rw [hc'.above d (by omega)] at he
      cases he
    obtain ⟨e', he'⟩ := hc.taken hd
    rw [hext d e' he'] at he
    rw [he', ← he]

end WifiTrust.Chain
