import WifiTrust.Certificate.X509
import WifiTrust.Proofs.Name.Reading

namespace WifiTrust

open DistinguishedName

namespace DistinguishedName.Field

def identifier : Field → ObjectId
  | commonName => ⟨[0x55, 0x04, 0x03]⟩
  | country => ⟨[0x55, 0x04, 0x06]⟩
  | locality => ⟨[0x55, 0x04, 0x07]⟩
  | state => ⟨[0x55, 0x04, 0x08]⟩
  | organization => ⟨[0x55, 0x04, 0x0A]⟩
  | email => ⟨[0x2A, 0x86, 0x48, 0x86, 0xF7, 0x0D, 0x01, 0x09, 0x01]⟩

def ofIdentifier? (id : ObjectId) : Option Field :=
  [commonName, country, locality, state, organization, email].find? (·.identifier = id)

theorem ofIdentifier?_eq_some_iff {id : ObjectId} {f : Field} :
    ofIdentifier? id = some f ↔ id = f.identifier := by
  constructor
  · intro h
    simpa [eq_comm] using List.find?_some h
  · rintro rfl
    cases f <;> rfl

end DistinguishedName.Field

namespace ObjectId

theorem registry_names : ∀ group ∈ registry, ∀ known ∈ group.2,
    IsKey known.2.toList ∧
      Field.ofKey? known.2.toList = Field.ofIdentifier? ⟨group.1 ++ [known.1]⟩ := by
  decide +kernel

theorem isKey_decimal (n : Nat) : IsKey (Decimal.ofNat n) := by
  intro c hc
  have hdigit : Decimal.isDigit c = true := Decimal.isDigit_of_mem_ofNat hc
  refine ⟨?_, ?_, ?_⟩
  · rintro rfl
    exact absurd hdigit (by decide)
  · rintro (rfl | rfl)
    · exact absurd hdigit (by decide)
    · exact absurd hdigit (by decide)
  · rintro rfl
    exact absurd hdigit (by decide)

private theorem isKey_digit : ∀ n < 16, IsKey [Hex.digit n] := by decide

theorem isKey_hex (bs : Bytes) : IsKey (Hex.encode bs) := by
  induction bs with
  | nil => exact List.forall_mem_nil _
  | cons b bs ih =>
      have hb : b.toNat < 256 := b.toNat_lt
      have hhigh := isKey_digit (b.toNat / 16) (by omega)
      have hlow := isKey_digit (b.toNat % 16) (by omega)
      exact hhigh.append (hlow.append ih)

theorem isKey_text (id : ObjectId) : IsKey id.text.toList := by
  unfold text
  split
  · rw [String.toList_intercalate]
    refine IsKey.intercalate (by decide) ?_
    simpa using fun b _ => isKey_hex [b]
  · rw [String.toList_intercalate]
    refine IsKey.intercalate (by decide) ?_
    simpa using fun n _ => isKey_decimal n

theorem registered_of_name? {id : ObjectId} {name : String} (named : id.name? = some name) :
    ∃ group ∈ registry, ∃ last, (last, name) ∈ group.2 ∧ id.bytes = group.1 ++ [last] := by
  unfold name? at named
  obtain ⟨last, hlast, named⟩ := Option.bind_eq_some_iff.1 named
  obtain ⟨group, hgroup, named⟩ := Option.bind_eq_some_iff.1 named
  obtain ⟨known, hknown, named⟩ := Option.bind_eq_some_iff.1 named
  obtain rfl : known.2 = name := Option.some.inj named
  have hbytes : group.1 = id.bytes.dropLast := by simpa using List.find?_some hgroup
  have hkey : known.1 = last := by simpa using List.find?_some hknown
  refine ⟨group, List.mem_of_find?_eq_some hgroup, known.1, List.mem_of_find?_eq_some hknown, ?_⟩
  obtain ⟨front, hfront⟩ := List.getLast?_eq_some_iff.1 hlast
  rw [hbytes, hkey, hfront, List.dropLast_concat]

end ObjectId

theorem DistinguishedName.ofKey?_of_parenthesis {key : List Char} (parenthesis : '(' ∈ key) :
    Field.ofKey? key = none := by
  have hmem : '(' ∈ (Text.trim key).map Text.toCapital :=
    List.mem_map.2 ⟨'(', Text.mem_trim (by decide) parenthesis, by decide⟩
  have hword (word : String) (without : '(' ∉ word.toList) :
      String.ofList ((Text.trim key).map Text.toCapital) ≠ word := by
    rintro rfl
    rw [String.toList_ofList] at without
    exact without hmem
  unfold Field.ofKey?
  split
  all_goals first
    | rfl
    | next h => exact absurd h (hword _ (by decide))

namespace X509

open ObjectId

theorem isKey_keyText (id : ObjectId) : IsKey (keyText id).toList := by
  unfold keyText
  cases hname : id.name? with
  | some name =>
      obtain ⟨group, hgroup, last, hknown, -⟩ := registered_of_name? hname
      exact (registry_names group hgroup _ hknown).1
  | none =>
      have hfront : IsKey "OID(".toList := by decide
      have hback : IsKey ")".toList := by decide
      rw [Option.getD_none, String.toList_append, String.toList_append]
      exact (hfront.append (isKey_text id)).append hback

theorem ofKey?_keyText (id : ObjectId) :
    Field.ofKey? (keyText id).toList = Field.ofIdentifier? id := by
  unfold keyText
  cases hname : id.name? with
  | some name =>
      obtain ⟨group, hgroup, last, hknown, hbytes⟩ := registered_of_name? hname
      have hfield := (registry_names group hgroup _ hknown).2
      rwa [← hbytes] at hfield
  | none =>
      rw [Option.getD_none, ofKey?_of_parenthesis (by simp)]
      cases hfield : Field.ofIdentifier? id with
      | none => rfl
      | some f =>
          rw [Field.ofIdentifier?_eq_some_iff.1 hfield] at hname
          cases f <;> cases hname

end X509

end WifiTrust
