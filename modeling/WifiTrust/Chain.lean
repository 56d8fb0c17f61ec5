import WifiTrust.Certificate.Basic
import WifiTrust.Name.Parser
import WifiTrust.SortedMap
import WifiTrust.Text.Decimal

/-!
# Certificate chains

Certificates arrive from the handshake in any order, each with its depth; the server's own has
depth zero. The first certificate seen at a depth stays, and the one with the greatest depth is the
provisional root.
-/

namespace WifiTrust

/-- Why a chain cannot be trusted. -/
inductive ChainError where
  | empty
  | missingLeaf
  /-- The certificate of the greatest depth is neither an authority nor self-signed. -/
  | untrustedRoot (depth : Nat)
  | missingLink (depth : Nat)
  /-- The issuer at a depth is not the subject one depth above. -/
  | issuerMismatch (depth : Nat) (issuer parentSubject : String)
  deriving DecidableEq, Repr

namespace ChainError

private def number (n : Nat) : String := String.ofList (Decimal.ofNat n)

def message : ChainError → String
  | empty => "no server certificates were received"
  | missingLeaf => "server (leaf) certificate is missing"
  | untrustedRoot depth => "certificate at depth " ++ number depth ++ " cannot act as a root"
  | missingLink depth => "no certificate at depth " ++ number depth
  | issuerMismatch depth issuer parentSubject =>
      "issuer of depth " ++ number depth ++ " (" ++ issuer ++
        ") does not match parent subject (" ++ parentSubject ++ ")"

/-- Whether the chain is broken and not merely incomplete. -/
def isBrokenLink : ChainError → Bool
  | missingLink _ | issuerMismatch _ _ _ => true
  | _ => false

end ChainError

/-- Both names of a certificate, taken apart, the subject first. -/
def Certificate.names (c : Certificate) :
    Except NameError (DistinguishedName × DistinguishedName) := do
  let subject ← DistinguishedName.parse c.subject
  let issuer ← DistinguishedName.parse c.issuer
  return (subject, issuer)

theorem Certificate.names_eq_ok_iff {c : Certificate} {subject issuer : DistinguishedName} :
    c.names = .ok (subject, issuer) ↔ DistinguishedName.parse c.subject = .ok subject ∧
      DistinguishedName.parse c.issuer = .ok issuer := by
  unfold names
  cases DistinguishedName.parse c.subject with
  | error => simp [bind, Except.bind]
  | ok =>
      cases DistinguishedName.parse c.issuer with
      | error => simp [bind, Except.bind]
      | ok => simp [bind, Except.bind, pure, Except.pure]

/-- A certificate at a depth, with its names taken apart. -/
structure ChainEntry where
  depth : Nat
  certificate : Certificate
  subject : DistinguishedName
  issuer : DistinguishedName
  deriving DecidableEq, Inhabited, Repr

namespace ChainEntry

/-- The entry that a certificate makes at a depth. -/
def ofCertificate (depth : Nat) (c : Certificate) : Except NameError ChainEntry := do
  let (subject, issuer) ← c.names
  return ⟨depth, c, subject, issuer⟩

theorem ofCertificate_eq_ok_iff {depth : Nat} {c : Certificate} {e : ChainEntry} :
    ofCertificate depth c = .ok e ↔ e.depth = depth ∧ e.certificate = c ∧
      DistinguishedName.parse c.subject = .ok e.subject ∧
      DistinguishedName.parse c.issuer = .ok e.issuer := by
  obtain ⟨depth', certificate, subject, issuer⟩ := e
  rw [← Certificate.names_eq_ok_iff]
  unfold ofCertificate
  cases c.names with
  | error => simp [bind, Except.bind]
  | ok => simp [bind, Except.bind, pure, Except.pure, eq_comm, Prod.ext_iff]

def canAnchor (e : ChainEntry) : Bool := e.certificate.isCa || e.certificate.isSelfSigned

end ChainEntry

/-- The certificates collected so far, by depth. -/
structure Chain where
  entries : SortedMap Nat ChainEntry
  /-- An entry stands where its own depth says. -/
  keyed : ∀ d e, entries.get? d = some e → e.depth = d
  deriving DecidableEq

namespace Chain

def empty : Chain := ⟨.empty, nofun⟩

instance : Inhabited Chain := ⟨empty⟩

/-- What happens to a certificate on its way into a chain. -/
inductive Outcome where
  | stored
  | occupied
  deriving DecidableEq, Repr

/-- Put an entry where its depth says. -/
def put (c : Chain) (e : ChainEntry) : Chain where
  entries := c.entries.insert e.depth e
  keyed d e' h := by
    by_cases hd : e.depth = d
    · subst hd
      rw [SortedMap.get?_insert_self] at h
      cases h
      rfl
    · rw [SortedMap.get?_insert_of_ne _ _ hd] at h
      exact c.keyed d e' h

/-- Enter a certificate at a depth unless the depth is taken. A certificate whose names cannot be
taken apart is refused either way. -/
def insert (c : Chain) (depth : Nat) (certificate : Certificate) :
    Except NameError Outcome × Chain :=
  match ChainEntry.ofCertificate depth certificate with
  | .error e => (.error e, c)
  | .ok entry =>
      if c.entries.contains depth then (.ok .occupied, c)
      else (.ok .stored, c.put entry)

def get? (c : Chain) (depth : Nat) : Option ChainEntry := c.entries.get? depth

/-- The server's own certificate. -/
def leaf? (c : Chain) : Option ChainEntry := c.get? 0

/-- The entry of the greatest depth, with that depth. -/
def root? (c : Chain) : Option (Nat × ChainEntry) :=
  c.entries.last?.map fun top => (top.2.depth, top.2)

/-- The root, if it can stand at the top of a chain. -/
def trustedRoot? (c : Chain) : Option (Nat × ChainEntry) := c.root?.filter (·.2.canAnchor)

def size (c : Chain) : Nat := c.entries.size

def toList (c : Chain) : List ChainEntry := c.entries.entries.map (·.2)

/-- Follow the links below `depth`, whose entry is `parent`, down to the leaf. What stands at a depth
is found by looking. -/
def descendBy {m : Type → Type} [Monad m] (look : Nat → m (Option ChainEntry)) :
    Nat → ChainEntry → m (Except ChainError Unit)
  | 0, _ => pure (.ok ())
  | depth + 1, parent => look depth >>= fun
      | none => pure (.error (.missingLink depth))
      | some child =>
          if child.certificate.issuer = parent.certificate.subject then descendBy look depth child
          else pure (.error
            (.issuerMismatch depth child.certificate.issuer parent.certificate.subject))

/-- The root and the leaf of a chain in which every entry below the root is issued by the one above
it. For a single self-signed certificate both are the same entry. -/
def anchorsBy {m : Type → Type} [Monad m] (c : Chain) (look : Nat → m (Option ChainEntry)) :
    m (Except ChainError (ChainEntry × ChainEntry)) :=
  match c.root? with
  | none => pure (.error .empty)
  | some (depth, root) =>
      match c.leaf? with
      | none => pure (.error .missingLeaf)
      | some leaf =>
          if root.canAnchor then
            descendBy look depth root >>= fun walked => pure (walked.map fun _ => (root, leaf))
          else pure (.error (.untrustedRoot depth))

/-- The walk down a chain. -/
def descend (c : Chain) : Nat → ChainEntry → Except ChainError Unit := descendBy (m := Id) c.get?

/-- The root and the leaf of a chain, if its links hold. -/
def anchors (c : Chain) : Except ChainError (ChainEntry × ChainEntry) := c.anchorsBy (m := Id) c.get?

/-- Whether the chain has anchors. -/
def validate (c : Chain) : Except ChainError Unit := c.anchors.map fun _ => ()

theorem descend_succ (c : Chain) (depth : Nat) (parent : ChainEntry) :
    c.descend (depth + 1) parent =
      match c.get? depth with
      | none => .error (.missingLink depth)
      | some child =>
          if child.certificate.issuer = parent.certificate.subject then c.descend depth child
          else .error
            (.issuerMismatch depth child.certificate.issuer parent.certificate.subject) := by
  unfold descend
  rw [descendBy]
  cases c.get? depth with
  | none => rfl
  | some child => rfl

theorem anchors_eq (c : Chain) : c.anchors =
    match c.root? with
    | none => .error .empty
    | some (depth, root) =>
        match c.leaf? with
        | none => .error .missingLeaf
        | some leaf =>
            if root.canAnchor then (c.descend depth root).map fun _ => (root, leaf)
            else .error (.untrustedRoot depth) := rfl

end Chain

end WifiTrust
