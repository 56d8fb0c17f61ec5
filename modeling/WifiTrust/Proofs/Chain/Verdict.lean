import Mathlib.Data.List.Perm.Subperm
import WifiTrust.Proofs.Chain.Anchors

/-!
# The verdict on a chain

Why a chain has no anchors, said without the walk that looks for them: there is one reason for every
such chain, the first of a fixed order, and of the broken links it is the highest. The walk looks at
each depth once, and at no more depths than there are entries, however high the root lies.
-/

namespace WifiTrust

theorem ChainError.isBrokenLink_iff {e : ChainError} : e.isBrokenLink = true ↔
    (∃ d, e = .missingLink d) ∨ ∃ d issuer subject, e = .issuerMismatch d issuer subject := by
  cases e <;> simp [isBrokenLink]

namespace Chain

/-- The root stands at depth `n`, and nothing above it. -/
def Tops (c : Chain) (n : Nat) (root : ChainEntry) : Prop :=
  c.get? n = some root ∧ ∀ d, n < d → c.get? d = none

/-- The entry at a depth is issued by the one above it. -/
def Linked (c : Chain) (d : Nat) : Prop :=
  ∃ child parent, c.get? d = some child ∧ c.get? (d + 1) = some parent ∧
    child.certificate.issuer = parent.certificate.subject

inductive Broken (c : Chain) (d : Nat) : ChainError → Prop where
  | missing (vacant : c.get? d = none) : Broken c d (.missingLink d)
  | mismatch {child parent : ChainEntry} (there : c.get? d = some child)
      (above : c.get? (d + 1) = some parent)
      (strange : child.certificate.issuer ≠ parent.certificate.subject) :
      Broken c d (.issuerMismatch d child.certificate.issuer parent.certificate.subject)

/-- Of the links below a depth, the highest that does not hold is broken. -/
def BreaksBelow (c : Chain) (n : Nat) (e : ChainError) : Prop :=
  ∃ d, d < n ∧ (∀ k, d < k → k < n → c.Linked k) ∧ c.Broken d e

/-- The reason why a chain has no anchors. Each reason but the first comes up only where those
before it do not, and a link is to blame only if all links above it hold. -/
inductive Unsound (c : Chain) : ChainError → Prop where
  | empty (vacant : ∀ d, c.get? d = none) : Unsound c .empty
  | missingLeaf {n : Nat} {root : ChainEntry} (top : c.Tops n root) (vacant : c.get? 0 = none) :
      Unsound c .missingLeaf
  | untrustedRoot {n : Nat} {root leaf : ChainEntry} (top : c.Tops n root)
      (bottom : c.get? 0 = some leaf) (notCa : root.certificate.isCa = false)
      (notSelfSigned : root.certificate.subject ≠ root.certificate.issuer) :
      Unsound c (.untrustedRoot n)
  | broken {n : Nat} {root leaf : ChainEntry} {e : ChainError} (top : c.Tops n root)
      (bottom : c.get? 0 = some leaf)
      (trusted : root.certificate.isCa = true ∨
        root.certificate.subject = root.certificate.issuer)
      (breaks : c.BreaksBelow n e) : Unsound c e

section Walk

variable {c : Chain} {n : Nat} {parent : ChainEntry}

theorem not_linked_of_broken {d : Nat} {e : ChainError} (broken : c.Broken d e) : ¬c.Linked d := by
  rintro ⟨child, parent, hchild, hparent, hlink⟩
  cases broken with
  | missing vacant =>
      rw [vacant] at hchild
      cases hchild
  | mismatch there above strange =>
      rw [there] at hchild
      rw [above] at hparent
      cases hchild
      cases hparent
      exact strange hlink

theorem Broken.unique {d : Nat} {e e' : ChainError} (h : c.Broken d e) (h' : c.Broken d e') :
    e = e' := by
  cases h with
  | missing vacant =>
      cases h' with
      | missing => rfl
      | mismatch there =>
          rw [vacant] at there
          cases there
  | mismatch there above =>
      cases h' with
      | missing vacant =>
          rw [vacant] at there
          cases there
      | mismatch there' above' =>
          rw [there] at there'
          rw [above] at above'
          cases there'
          cases above'
          rfl

theorem BreaksBelow.unique {e e' : ChainError} (h : c.BreaksBelow n e) (h' : c.BreaksBelow n e') :
    e = e' := by
  obtain ⟨d, hd, hlinked, hbroken⟩ := h
  obtain ⟨d', hd', hlinked', hbroken'⟩ := h'
  rcases Nat.lt_trichotomy d d' with hlt | rfl | hgt
  · exact absurd (hlinked d' hlt hd') (not_linked_of_broken hbroken')
  · exact hbroken.unique hbroken'
  · exact absurd (hlinked' d hgt hd) (not_linked_of_broken hbroken)

theorem BreaksBelow.succ {e : ChainError} (h : c.BreaksBelow n e) (hlinked : c.Linked n) :
    c.BreaksBelow (n + 1) e := by
  obtain ⟨d, hd, habove, hbroken⟩ := h
  refine ⟨d, Nat.lt_succ_of_lt hd, fun k hdk hk => ?_, hbroken⟩
  rcases Nat.lt_succ_iff_lt_or_eq.1 hk with hlt | rfl
  · exact habove k hdk hlt
  · exact hlinked

theorem breaksBelow_of_broken {e : ChainError} (h : c.Broken n e) : c.BreaksBelow (n + 1) e :=
  ⟨n, Nat.lt_succ_self n, fun _ hk hk' => absurd (Nat.lt_succ_iff.1 hk') (Nat.not_le_of_lt hk), h⟩

theorem breaksBelow_of_descend (hparent : c.get? n = some parent) {e : ChainError}
    (h : c.descend n parent = .error e) : c.BreaksBelow n e := by
  induction n generalizing parent with
  | zero => cases h
  | succ n ih =>
      rw [descend_succ] at h
      split at h
      · next hchild =>
          cases h
          exact breaksBelow_of_broken (.missing hchild)
      · next child hchild =>
          split at h
          · next hlink => exact (ih hchild h).succ ⟨child, parent, hchild, hparent, hlink⟩
          · next hlink =>
              cases h
              exact breaksBelow_of_broken (.mismatch hchild hparent hlink)

theorem descend_eq_error_iff (hparent : c.get? n = some parent) {e : ChainError} :
    c.descend n parent = .error e ↔ c.BreaksBelow n e := by
  refine ⟨breaksBelow_of_descend hparent, fun h => ?_⟩
  cases hwalk : c.descend n parent with
  | error e' => rw [(breaksBelow_of_descend hparent hwalk).unique h]
  | ok =>
      obtain ⟨d, hd, -, hbroken⟩ := h
      exact absurd ((descend_eq_ok_iff hparent).1 hwalk d hd) (not_linked_of_broken hbroken)

end Walk

section Reasons

variable {c : Chain}

theorem root?_eq_none_iff : c.root? = none ↔ ∀ d, c.get? d = none := by
  constructor
  · intro h d
    rw [root?_eq_last?] at h
    have hentries : c.entries.entries = [] := List.getLast?_eq_none_iff.1 h
    refine Option.eq_none_iff_forall_ne_some.2 fun e he => ?_
    have hmem := SortedMap.get?_eq_some_iff_mem.1 he
    rw [hentries] at hmem
    cases hmem
  · intro h
    cases hroot : c.root? with
    | none => rfl
    | some top =>
        have hget := (root?_eq_some_iff.1 hroot).1
        rw [h top.1] at hget
        cases hget

theorem canAnchor_eq_false_iff {e : ChainEntry} : ¬e.canAnchor = true ↔
    e.certificate.isCa = false ∧ e.certificate.subject ≠ e.certificate.issuer := by
  rw [canAnchor_iff, not_or, Bool.not_eq_true]

theorem unsound_of_error {e : ChainError} (h : c.anchors = .error e) : c.Unsound e := by
  rw [anchors_eq] at h
  split at h
  · next hroot =>
      cases h
      exact .empty (root?_eq_none_iff.1 hroot)
  · next n root hroot =>
      have htop : c.Tops n root := root?_eq_some_iff.1 hroot
      split at h
      · next hleaf =>
          cases h
          exact .missingLeaf htop hleaf
      · next leaf hleaf =>
          split at h
          · next hanchor =>
              cases hwalk : c.descend n root with
              | ok =>
                  rw [hwalk] at h
                  cases h
              | error e' =>
                  rw [hwalk] at h
                  cases h
                  exact .broken htop hleaf (canAnchor_iff.1 hanchor)
                    ((descend_eq_error_iff htop.1).1 hwalk)
          · next hanchor =>
              cases h
              obtain ⟨hca, hself⟩ := canAnchor_eq_false_iff.1 hanchor
              exact .untrustedRoot htop hleaf hca hself

theorem error_of_unsound {e : ChainError} (h : c.Unsound e) : c.anchors = .error e := by
  rw [anchors_eq]
  cases h with
  | empty vacant => rw [root?_eq_none_iff.2 vacant]
  | missingLeaf top vacant =>
      have hleaf : c.leaf? = none := vacant
      rw [root?_eq_some_iff.2 top]
      dsimp only
      rw [hleaf]
  | untrustedRoot top bottom notCa notSelfSigned =>
      have hleaf : c.leaf? = some _ := bottom
      rw [root?_eq_some_iff.2 top]
      dsimp only
      rw [hleaf]
      dsimp only
      rw [if_neg (canAnchor_eq_false_iff.2 ⟨notCa, notSelfSigned⟩)]
  | broken top bottom trusted breaks =>
      have hleaf : c.leaf? = some _ := bottom
      have hwalk := (descend_eq_error_iff top.1).2 breaks
      rw [root?_eq_some_iff.2 top]
      dsimp only
      rw [hleaf]
      dsimp only
      rw [if_pos (canAnchor_iff.2 trusted), hwalk]
      rfl

/-- Anchors are refused for exactly the reason that there is. -/
theorem anchors_eq_error_iff {e : ChainError} : c.anchors = .error e ↔ c.Unsound e :=
  ⟨unsound_of_error, error_of_unsound⟩

theorem validate_eq_error_iff {e : ChainError} : c.validate = .error e ↔ c.anchors = .error e := by
  unfold validate
  cases c.anchors with
  | error e' => exact ⟨fun h => congrArg Except.error (Except.error.inj h),
      fun h => congrArg Except.error (Except.error.inj h)⟩
  | ok ends => exact ⟨nofun, nofun⟩

end Reasons

section Visits

/-- Look at a depth of a chain and take a note of it. -/
def noting (c : Chain) (d : Nat) : StateM (List Nat) (Option ChainEntry) := do
  modify (· ++ [d])
  return c.get? d

/-- The anchors of a chain and the depths that the walk looks at on the way to them, in order. -/
def anchorsNoted (c : Chain) : Except ChainError (ChainEntry × ChainEntry) × List Nat :=
  (c.anchorsBy c.noting).run []

variable {c : Chain} {n : Nat} {parent : ChainEntry}

theorem run_descendBy_succ (c : Chain) (n : Nat) (parent : ChainEntry) (seen : List Nat) :
    (descendBy c.noting (n + 1) parent).run seen =
      match c.get? n with
      | none => (.error (.missingLink n), seen ++ [n])
      | some child =>
          if child.certificate.issuer = parent.certificate.subject then
            (descendBy c.noting n child).run (seen ++ [n])
          else
            (.error (.issuerMismatch n child.certificate.issuer parent.certificate.subject),
              seen ++ [n]) := by
  have hlook : (c.noting n).run seen = (c.get? n, seen ++ [n]) := rfl
  rw [descendBy, StateT.run_bind, hlook]
  cases c.get? n with
  | none => rfl
  | some child =>
      change StateT.run (if child.certificate.issuer = parent.certificate.subject then _ else _) _ =
        if child.certificate.issuer = parent.certificate.subject then _ else _
      split <;> rfl

/-- The walk is the one that `descend` makes. It looks at depths one below the other, and only at
the last of them there may be nothing. -/
theorem run_descendBy (hparent : c.get? n = some parent) (seen : List Nat) :
    ∃ k, k ≤ n ∧ (∀ d, n - k < d → d ≤ n → ∃ e, c.get? d = some e) ∧
      (descendBy c.noting n parent).run seen =
        (c.descend n parent, seen ++ (List.range' (n - k) k).reverse) := by
  -- `k` counts the looks below `n`, the depth of an entry that has been found already
  induction n generalizing parent seen with
  | zero => exact ⟨0, Nat.le_refl 0, fun d h h' => absurd h' (by omega), by simp [descendBy]; rfl⟩
  | succ n ih =>
      have hself {d : Nat} (h : n < d) (h' : d ≤ n + 1) : ∃ e, c.get? d = some e := by
        obtain rfl : d = n + 1 := by omega
        exact ⟨parent, hparent⟩
      rw [run_descendBy_succ, descend_succ]
      cases hchild : c.get? n with
      | none => exact ⟨1, by omega, fun d h h' => hself h h', by simp⟩
      | some child =>
          dsimp only
          split
          · obtain ⟨k, hk, htaken, hrun⟩ := ih hchild (seen ++ [n])
            refine ⟨k + 1, by omega, fun d h h' => ?_, ?_⟩
            · rcases Nat.lt_or_ge n d with hlt | hle
              · exact hself hlt h'
              · exact htaken d (by omega) hle
            · have hlast : n - k + k = n := by omega
              rw [hrun, Nat.add_sub_add_right, List.range'_1_concat, hlast]
              simp
          · exact ⟨1, by omega, fun d h h' => hself h h', by simp⟩

theorem le_size_of_taken {k : Nat} (hk : k ≤ n)
    (htaken : ∀ d, n - k < d → d ≤ n → ∃ e, c.get? d = some e) : k ≤ c.size := by
  have hsubset : List.range' (n - k + 1) k ⊆ c.entries.keys := by
    intro d hd
    obtain ⟨hlow, hhigh⟩ := List.mem_range'_1.1 hd
    obtain ⟨e, he⟩ := htaken d (by omega) (by omega)
    exact List.mem_map.2 ⟨(d, e), SortedMap.get?_eq_some_iff_mem.1 he, rfl⟩
  have hle := (List.nodup_range' 1 |>.subperm hsubset).length_le
  simpa [SortedMap.keys, size, SortedMap.size] using hle

theorem anchorsNoted_spec (c : Chain) :
    c.anchorsNoted.1 = c.anchors ∧ c.anchorsNoted.2.length ≤ c.size := by
  rw [anchors_eq, anchorsNoted, anchorsBy]
  cases hroot : c.root? with
  | none => exact ⟨rfl, Nat.zero_le _⟩
  | some top =>
      obtain ⟨n, root⟩ := top
      obtain ⟨k, hk, htaken, hrun⟩ := run_descendBy (root?_eq_some_iff.1 hroot).1 []
      cases c.leaf? with
      | none => exact ⟨rfl, Nat.zero_le _⟩
      | some leaf =>
          dsimp only
          split
          · rw [StateT.run_bind, hrun]
            refine ⟨rfl, ?_⟩
            change ([] ++ (List.range' (n - k) k).reverse).length ≤ c.size
            simpa using le_size_of_taken hk htaken
          · exact ⟨rfl, Nat.zero_le _⟩

end Visits

/-- The verdict on a chain is exact. Anchors are found exactly if all depths from the server's up to
the root's are taken, each entry is issued by the one above it and the root can stand at the top, and
then they are the entries at both ends. Every other chain is refused for the one reason that there
is, also if it is only validated. The walk looks at no more depths than there are entries, and a link
is called broken exactly where one is missing or does not match. -/
theorem anchors_exact (c : Chain) :
    (∀ root leaf, c.anchors = .ok (root, leaf) ↔ ∃ n, c.Anchored n root leaf) ∧
    (∀ e, c.anchors = .error e ↔ c.Unsound e) ∧
    (c.validate = .ok () ↔ ∃ root leaf, c.anchors = .ok (root, leaf)) ∧
    (∀ e, c.validate = .error e ↔ c.anchors = .error e) ∧
    (c.anchorsNoted.1 = c.anchors ∧ c.anchorsNoted.2.length ≤ c.size) ∧
    ∀ e : ChainError, e.isBrokenLink = true ↔
      (∃ d, e = .missingLink d) ∨ ∃ d issuer subject, e = .issuerMismatch d issuer subject :=
  ⟨fun _ _ => anchors_eq_ok_iff, fun _ => anchors_eq_error_iff, validate_eq_ok_iff,
    fun _ => validate_eq_error_iff, c.anchorsNoted_spec, fun _ => ChainError.isBrokenLink_iff⟩

end Chain

end WifiTrust
