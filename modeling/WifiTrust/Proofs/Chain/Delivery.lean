import WifiTrust.Proofs.Chain.Entries

/-!
# Certificates delivered to a chain

What a certificate makes of a chain, whether or not its names can be taken apart: those for different
depths commute, and a list that is delivered from the server upwards lies in the chain as it lay in
the list, with a gap for every certificate without a name.
-/

namespace WifiTrust

/-- Both names of the certificate can be taken apart. -/
def Certificate.Readable (c : Certificate) : Prop :=
  (∃ n, DistinguishedName.parse c.subject = .ok n) ∧ ∃ n, DistinguishedName.parse c.issuer = .ok n

def Certificate.isReadable (c : Certificate) : Bool := c.names.toOption.isSome

theorem Certificate.isReadable_iff {c : Certificate} : c.isReadable = true ↔ c.Readable := by
  unfold isReadable Readable
  cases hnames : c.names with
  | ok names =>
      obtain ⟨hsubject, hissuer⟩ := names_eq_ok_iff.1 hnames
      exact ⟨fun _ => ⟨⟨_, hsubject⟩, _, hissuer⟩, fun _ => rfl⟩
  | error e =>
      refine ⟨nofun, ?_⟩
      rintro ⟨⟨subject, hsubject⟩, issuer, hissuer⟩
      rw [names_eq_ok_iff.2 ⟨hsubject, hissuer⟩] at hnames
      cases hnames

namespace ChainEntry

def ofCertificate? (depth : Nat) (c : Certificate) : Option ChainEntry :=
  (ofCertificate depth c).toOption

theorem ofCertificate?_eq_some {depth : Nat} {c : Certificate} {e : ChainEntry} :
    ofCertificate? depth c = some e ↔ ofCertificate depth c = .ok e := by
  unfold ofCertificate?
  cases ofCertificate depth c with
  | error => simp [Except.toOption]
  | ok => simp [Except.toOption]

theorem ofCertificate?_eq_some_iff {depth : Nat} {c : Certificate} {e : ChainEntry} :
    ofCertificate? depth c = some e ↔ e.depth = depth ∧ e.certificate = c ∧
      DistinguishedName.parse c.subject = .ok e.subject ∧
      DistinguishedName.parse c.issuer = .ok e.issuer :=
  ofCertificate?_eq_some.trans ofCertificate_eq_ok_iff

theorem certificate_of_ofCertificate? {depth : Nat} {c : Certificate} {e : ChainEntry}
    (h : ofCertificate? depth c = some e) : e.certificate = c :=
  (ofCertificate?_eq_some_iff.1 h).2.1

theorem isSome_ofCertificate? (depth : Nat) (c : Certificate) :
    (ofCertificate? depth c).isSome = c.isReadable := by
  unfold ofCertificate? ofCertificate Certificate.isReadable
  cases c.names with
  | error => rfl
  | ok => rfl

theorem ofCertificate?_eq_none_iff {depth : Nat} {c : Certificate} :
    ofCertificate? depth c = none ↔ ¬c.Readable := by
  rw [← Certificate.isReadable_iff, ← isSome_ofCertificate? depth, Bool.not_eq_true,
    Option.isSome_eq_false_iff, Option.isNone_iff_eq_none]

theorem exists_ofCertificate_iff {depth : Nat} {c : Certificate} :
    (∃ e, ofCertificate depth c = .ok e) ↔ c.Readable := by
  rw [← Certificate.isReadable_iff, ← isSome_ofCertificate? depth, Option.isSome_iff_exists]
  simp only [ofCertificate?_eq_some]

end ChainEntry

namespace Chain

def entered (c : Chain) (depth : Nat) (certificate : Certificate) : Chain :=
  (c.insert depth certificate).2

theorem insert_of_readable (c : Chain) (depth : Nat) {certificate : Certificate}
    (readable : certificate.Readable) :
    ∃ outcome, c.insert depth certificate = (.ok outcome, c.entered depth certificate) := by
  obtain ⟨entry, hentry⟩ := ChainEntry.exists_ofCertificate_iff.2 readable
  obtain ⟨outcome, c', hinsert⟩ := c.exists_insert depth hentry
  exact ⟨outcome, by rw [entered, hinsert]⟩

theorem insert_of_unreadable (c : Chain) (depth : Nat) {certificate : Certificate}
    (unreadable : ¬certificate.Readable) : ∃ e, c.insert depth certificate = (.error e, c) := by
  unfold insert
  cases hentry : ChainEntry.ofCertificate depth certificate with
  | error e => exact ⟨e, rfl⟩
  | ok entry => exact absurd (ChainEntry.exists_ofCertificate_iff.1 ⟨entry, hentry⟩) unreadable

theorem entered_of_unreadable (c : Chain) (depth : Nat) {certificate : Certificate}
    (unreadable : ¬certificate.Readable) : c.entered depth certificate = c := by
  obtain ⟨e, hinsert⟩ := c.insert_of_unreadable depth unreadable
  rw [entered, hinsert]

theorem get?_entered (c : Chain) (depth : Nat) (certificate : Certificate) (d : Nat) :
    (c.entered depth certificate).get? d =
      if d = depth then (c.get? d).or (ChainEntry.ofCertificate? depth certificate)
      else c.get? d := by
  by_cases readable : certificate.Readable
  · obtain ⟨entry, hentry⟩ := ChainEntry.exists_ofCertificate_iff.2 readable
    obtain ⟨outcome, hinsert⟩ := c.insert_of_readable depth readable
    rw [get?_of_insert hinsert hentry, ChainEntry.ofCertificate?_eq_some.2 hentry]
  · rw [c.entered_of_unreadable depth readable, ChainEntry.ofCertificate?_eq_none_iff.2 readable,
      Option.or_none, ite_self]

theorem entered_comm (c : Chain) {d d' : Nat} (hne : d ≠ d') (x y : Certificate) :
    (c.entered d x).entered d' y = (c.entered d' y).entered d x := by
  apply ext_get?
  intro k
  simp only [get?_entered]
  by_cases hd : k = d
  · have hd' : k ≠ d' := fun h => hne (hd.symm.trans h)
    simp [hd, hne]
  · simp [hd]

/-- The chain once certificates have been delivered one after the other, the first for `depth`. -/
def enteredFrom (c : Chain) : Nat → List Certificate → Chain
  | _, [] => c
  | depth, x :: xs => (c.entered depth x).enteredFrom (depth + 1) xs

/-- The chain that a list of certificates makes, the server's first. -/
def ofCertificates (cs : List Certificate) : Chain := empty.enteredFrom 0 cs

theorem get?_enteredFrom (c : Chain) (depth : Nat) (cs : List Certificate) (d : Nat) :
    (c.enteredFrom depth cs).get? d =
      if d < depth then c.get? d
      else (c.get? d).or (cs[d - depth]?.bind (ChainEntry.ofCertificate? d)) := by
  induction cs generalizing c depth with
  | nil => simp [enteredFrom]
  | cons x xs ih =>
      rw [enteredFrom, ih, get?_entered]
      rcases Nat.lt_trichotomy d depth with hlt | rfl | hgt
      · have hbelow : d < depth + 1 := by omega
        simp [hlt, hbelow, Nat.ne_of_lt hlt]
      · simp
      · have hnext : ¬d < depth + 1 := by omega
        have hplace : d - depth = d - (depth + 1) + 1 := by omega
        simp [hnext, Nat.not_lt_of_gt hgt, Nat.ne_of_gt hgt, hplace]

/-- Each certificate of a list has its own place. -/
theorem get?_ofCertificates (cs : List Certificate) (d : Nat) :
    (ofCertificates cs).get? d = cs[d]?.bind (ChainEntry.ofCertificate? d) := by
  rw [ofCertificates, get?_enteredFrom]
  simp [get?_empty]

end Chain

end WifiTrust
