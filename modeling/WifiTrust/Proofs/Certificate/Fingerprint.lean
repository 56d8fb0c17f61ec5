import WifiTrust.Proofs.Bytes.Utf8
import WifiTrust.Store.Memory

/-!
# What a fingerprint names

A certificate without an encoding is fingerprinted by its subject, issuer and signature with bars
between them. Main statement: as long as no two messages with one digest are at hand, the fingerprint
names a single choice of the three exactly if none of their own bars can be taken for one that
separates them.
-/

namespace WifiTrust

/-- Two messages with one digest. -/
def Sha256.Collide (message message' : Bytes) : Prop :=
  message ≠ message' ∧ digest message = digest message'

namespace Utf8

theorem decode?_stray (bs : Bytes) : decode? (0x80 :: bs) = none := by
  have hscan : scan none (0x80 :: bs) = none :: scan none bs := rfl
  simp [decode?, hscan]

theorem encode_bar (cs : List Char) : encode ('|' :: cs) = 0x7c :: encode cs := rfl

private theorem ofNat_ne_bar {n : Nat} (low : 0x80 ≤ n) (high : n < 256) :
    (0x7c : UInt8) ≠ UInt8.ofNat n := by
  intro h
  have hbyte := congrArg UInt8.toNat h
  rw [toNat_ofNat_of_lt high] at hbyte
  change 0x7c = n at hbyte
  omega

theorem eq_bar_of_mem_encodeChar {c : Char} (h : 0x7c ∈ encodeChar c) : c = '|' := by
  have hrange := toNat_range c
  have hself : Char.ofNat c.toNat = c := Char.ofNat_toNat c
  unfold encodeChar at h
  dsimp only at h
  generalize c.toNat = n at hrange hself h
  have htail (k : Nat) : (0x7c : UInt8) ≠ UInt8.ofNat (0x80 + k % 64) :=
    ofNat_ne_bar (by omega) (by omega)
  by_cases hone : n < 0x80
  · rw [if_pos hone, List.mem_singleton] at h
    have hbyte := congrArg UInt8.toNat h
    rw [toNat_ofNat_of_lt (by omega)] at hbyte
    rw [← hself, ← hbyte]
    rfl
  · rw [if_neg hone] at h
    by_cases htwo : n < 0x800
    · have hlead : (0x7c : UInt8) ≠ UInt8.ofNat (0xC0 + n / 64) :=
        ofNat_ne_bar (by omega) (by omega)
      simp only [if_pos htwo, List.mem_cons, List.not_mem_nil, or_false, hlead, htail] at h
    · rw [if_neg htwo] at h
      by_cases hthree : n < 0x10000
      · have hlead : (0x7c : UInt8) ≠ UInt8.ofNat (0xE0 + n / 4096) :=
          ofNat_ne_bar (by omega) (by omega)
        simp only [if_pos hthree, List.mem_cons, List.not_mem_nil, or_false, hlead, htail] at h
      · have hlead : (0x7c : UInt8) ≠ UInt8.ofNat (0xF0 + n / 262144) :=
          ofNat_ne_bar (by omega) (by omega)
        simp only [if_neg hthree, List.mem_cons, List.not_mem_nil, or_false, hlead, htail] at h

theorem bar_mem_of_mem_encode {cs : List Char} (h : 0x7c ∈ encode cs) : '|' ∈ cs := by
  obtain ⟨c, hc, hbar⟩ := List.mem_flatMap.1 h
  exact eq_bar_of_mem_encodeChar hbar ▸ hc

end Utf8

/-- Of two ways to cut bytes at a bar, the one that comes to a bar first is a cut of the other's
front. -/
theorem cut_at_bar {front back front' back' : Bytes} (first : 0x7c ∉ front)
    (h : front ++ 0x7c :: back = front' ++ 0x7c :: back') :
    (front' = front ∧ back' = back) ∨
      ∃ between, front' = front ++ 0x7c :: between ∧ back = between ++ 0x7c :: back' := by
  rcases List.append_eq_append_iff.1 h with ⟨more, rfl, hback⟩ | ⟨more, rfl, hback⟩
  · cases more with
    | nil => exact .inl ⟨List.append_nil front, (List.cons.inj hback).2.symm⟩
    | cons b between =>
        obtain ⟨rfl, hbetween⟩ := List.cons.inj hback
        exact .inr ⟨between, rfl, hbetween⟩
  · cases more with
    | nil => exact .inl ⟨(List.append_nil front').symm, (List.cons.inj hback).2⟩
    | cons b between =>
        obtain ⟨rfl, -⟩ := List.cons.inj hback
        exact absurd (List.mem_append_right front' List.mem_cons_self) first

namespace Utf8

theorem exists_text_behind_bar {cs : List Char} {front back : Bytes} (first : 0x7c ∉ front)
    (h : encode cs = front ++ 0x7c :: back) : ∃ text, back = encode text := by
  have hbar : '|' ∈ cs := bar_mem_of_mem_encode (h ▸ List.mem_append_right _ List.mem_cons_self)
  obtain ⟨before, text, rfl, hbefore⟩ := List.eq_append_cons_of_mem hbar
  rw [encode_append, encode_bar] at h
  rcases cut_at_bar (fun hmem => hbefore (bar_mem_of_mem_encode hmem)) h with
    ⟨-, hback⟩ | ⟨between, rfl, -⟩
  · exact ⟨text, hback⟩
  · exact absurd (List.mem_append_right _ List.mem_cons_self) first

end Utf8

namespace Certificate

/-- No bar in the parts of a certificate can be taken for one between them: the names have none, and
what comes before one in the signature is no text. -/
structure Unbarred (subject issuer : String) (signature : Bytes) : Prop where
  subject : '|' ∉ subject.toList
  issuer : '|' ∉ issuer.toList
  signature : ∀ text rest, signature ≠ Utf8.encode text ++ 0x7c :: rest

section Parts

variable {subject issuer subject' issuer' : String} {signature signature' : Bytes}

theorem material_eq (subject issuer : String) (signature : Bytes) :
    material subject issuer signature = Utf8.encode subject.toList ++
      0x7c :: (Utf8.encode issuer.toList ++ 0x7c :: signature) := by
  simp [material]

theorem Unbarred.eq_of_material (h : Unbarred subject issuer signature)
    (same : material subject issuer signature = material subject' issuer' signature') :
    subject' = subject ∧ issuer' = issuer ∧ signature' = signature := by
  have hsubject : 0x7c ∉ Utf8.encode subject.toList := fun hmem =>
    h.subject (Utf8.bar_mem_of_mem_encode hmem)
  have hissuer : 0x7c ∉ Utf8.encode issuer.toList := fun hmem =>
    h.issuer (Utf8.bar_mem_of_mem_encode hmem)
  rw [material_eq, material_eq] at same
  rcases cut_at_bar hsubject same with ⟨hfront, hback⟩ | ⟨between, hfront, hback⟩
  · rcases cut_at_bar hissuer hback.symm with ⟨hmiddle, hend⟩ | ⟨front, hmiddle, hend⟩
    · exact ⟨String.toList_inj.1 (Utf8.encode_injective hfront),
        String.toList_inj.1 (Utf8.encode_injective hmiddle), hend⟩
    · obtain ⟨text, rfl⟩ := Utf8.exists_text_behind_bar hissuer hmiddle
      exact absurd hend (h.signature text signature')
  · rcases cut_at_bar hissuer hback with ⟨rfl, hend⟩ | ⟨front, rfl, hend⟩
    · exact absurd hend.symm (h.signature issuer'.toList signature')
    · obtain ⟨text, htext⟩ := Utf8.exists_text_behind_bar hsubject hfront
      obtain ⟨rest, rfl⟩ := Utf8.exists_text_behind_bar hissuer htext.symm
      exact absurd hend (h.signature rest _)

theorem exists_same_material (h : ¬Unbarred subject issuer signature) :
    ∃ subject' issuer' signature',
      material subject issuer signature = material subject' issuer' signature' ∧
        ¬(subject' = subject ∧ issuer' = issuer ∧ signature' = signature) := by
  have hlonger (front back : List Char) (text : String) (htext : text.toList = front) :
      String.ofList (front ++ '|' :: back) ≠ text := by
    rintro rfl
    simp at htext
  by_cases hsubject : '|' ∈ subject.toList
  · obtain ⟨front, back, hcut, -⟩ := List.eq_append_cons_of_mem hsubject
    refine ⟨.ofList front, .ofList (back ++ '|' :: issuer.toList), signature, ?_, ?_⟩
    · simp [material_eq, hcut, Utf8.encode_append, Utf8.encode_bar]
    · rintro ⟨rfl, -⟩
      simp at hcut
  · by_cases hissuer : '|' ∈ issuer.toList
    · obtain ⟨front, back, hcut, -⟩ := List.eq_append_cons_of_mem hissuer
      refine ⟨.ofList (subject.toList ++ '|' :: front), .ofList back, signature, ?_, ?_⟩
      · simp [material_eq, hcut, Utf8.encode_append, Utf8.encode_bar]
      · exact fun same => hlonger _ _ subject rfl same.1
    · have hsignature : ∃ text rest, signature = Utf8.encode text ++ 0x7c :: rest :=
        Classical.byContradiction fun hno =>
          h ⟨hsubject, hissuer, fun text rest hcut => hno ⟨text, rest, hcut⟩⟩
      obtain ⟨text, rest, rfl⟩ := hsignature
      refine ⟨subject, .ofList (issuer.toList ++ '|' :: text), rest, ?_, ?_⟩
      · simp [material_eq, Utf8.encode_append, Utf8.encode_bar]
      · exact fun same => hlonger _ _ issuer rfl same.2.1

end Parts

theorem fingerprintOf_eq_iff {message message' : Bytes} :
    fingerprintOf message = fingerprintOf message' ↔
      message = message' ∨ Sha256.Collide message message' := by
  constructor
  · intro h
    have hhex := String.ofList_injective h
    have hread := Hex.decode?_encode (Sha256.digest message)
    rw [hhex, Hex.decode?_encode] at hread
    by_cases hmessage : message = message'
    · exact .inl hmessage
    · exact .inr ⟨hmessage, (Option.some.inj hread).symm⟩
  · rintro (rfl | ⟨-, hdigest⟩)
    · rfl
    · rw [fingerprintOf, hdigest, fingerprintOf]

def SameAlias (root root' : Certificate) : Prop :=
  ∃ ca ca' : TrustedCa, ca.root = root ∧ ca'.root = root' ∧
    MemoryStore.caAlias ca = MemoryStore.caAlias ca'

/-- A certificate that is built from these parts agrees in a respect with no certificate that is built
from others, unless the two show a collision. -/
def NamesOne (agree : Certificate → Certificate → Prop) (subject issuer : String)
    (signature : Bytes) : Prop :=
  ∀ isCa subject' issuer' signature' isCa',
    agree (ofParts subject issuer signature isCa) (ofParts subject' issuer' signature' isCa') →
      Sha256.Collide (material subject issuer signature) (material subject' issuer' signature') ∨
        (subject' = subject ∧ issuer' = issuer ∧ signature' = signature)

/-- An alias tells as much as the fingerprint of the root. -/
theorem sameAlias_iff {root root' : Certificate} :
    SameAlias root root' ↔ root.fingerprint = root'.fingerprint := by
  constructor
  · rintro ⟨ca, ca', rfl, rfl, h⟩
    exact (String.append_right_inj "tofu:").1 h
  · intro h
    refine ⟨⟨root, root, default⟩, ⟨root', root', default⟩, rfl, rfl, ?_⟩
    rw [MemoryStore.caAlias, MemoryStore.caAlias, h]

theorem namesOne_fingerprint_iff {subject issuer : String} {signature : Bytes} :
    NamesOne (fun c c' => c.fingerprint = c'.fingerprint) subject issuer signature ↔
      Unbarred subject issuer signature := by
  constructor
  · intro names
    refine Classical.byContradiction fun barred => ?_
    obtain ⟨subject', issuer', signature', same, others⟩ := exists_same_material barred
    rcases names false subject' issuer' signature' false (congrArg fingerprintOf same) with
      collide | parts
    · exact collide.1 same
    · exact others parts
  · intro unbarred isCa subject' issuer' signature' isCa' h
    rcases fingerprintOf_eq_iff.1 h with same | collide
    · exact .inr (unbarred.eq_of_material same)
    · exact .inl collide

/-- A fingerprint names one choice of subject, issuer and signature, and so does the alias of an
installed root, exactly where no bar can be taken for one between the three. -/
theorem fingerprint_names_one_iff (subject issuer : String) (signature : Bytes) :
    (NamesOne (fun c c' => c.fingerprint = c'.fingerprint) subject issuer signature ↔
      Unbarred subject issuer signature) ∧
    (NamesOne SameAlias subject issuer signature ↔ Unbarred subject issuer signature) := by
  refine ⟨namesOne_fingerprint_iff, ?_⟩
  simp only [NamesOne, sameAlias_iff]
  exact namesOne_fingerprint_iff

/-- A bar in the signature does no harm behind a byte that ends no text. -/
theorem radius_fingerprint_names_one :
    Unbarred "CN=radius" "CN=Corp Root" [0x80, 0x7c, 0x01] ∧
      NamesOne (fun c c' => c.fingerprint = c'.fingerprint) "CN=radius" "CN=Corp Root"
        [0x80, 0x7c, 0x01] ∧
      NamesOne SameAlias "CN=radius" "CN=Corp Root" [0x80, 0x7c, 0x01] := by
  have unbarred : Unbarred "CN=radius" "CN=Corp Root" [0x80, 0x7c, 0x01] := by
    refine ⟨by decide, by decide, fun text rest h => ?_⟩
    cases htext : Utf8.encode text with
    | nil =>
        rw [htext] at h
        exact absurd (List.cons.inj h).1 (by decide)
    | cons b tail =>
        rw [htext] at h
        obtain ⟨rfl, -⟩ := List.cons.inj h
        have hread := Utf8.decode?_encode text
        rw [htext, Utf8.decode?_stray] at hread
        cases hread
  obtain ⟨hfingerprint, halias⟩ :=
    fingerprint_names_one_iff "CN=radius" "CN=Corp Root" [0x80, 0x7c, 0x01]
  exact ⟨unbarred, hfingerprint.2 unbarred, halias.2 unbarred⟩

/-- Two roots with other names go by one alias, though their digests are those of one message. -/
theorem barred_roots_share_alias :
    let root := ofParts "CN=Corp Root|CN=Rogue" "CN=Rogue" [1, 2, 3] true
    let other := ofParts "CN=Corp Root" "CN=Rogue|CN=Rogue" [1, 2, 3] true
    root.fingerprint = other.fingerprint ∧ SameAlias root other ∧
      root.subject ≠ other.subject ∧ root.issuer ≠ other.issuer ∧
      ¬Sha256.Collide (material "CN=Corp Root|CN=Rogue" "CN=Rogue" [1, 2, 3])
        (material "CN=Corp Root" "CN=Rogue|CN=Rogue" [1, 2, 3]) := by
  intro root other
  have same : material "CN=Corp Root|CN=Rogue" "CN=Rogue" [1, 2, 3] =
      material "CN=Corp Root" "CN=Rogue|CN=Rogue" [1, 2, 3] := by decide
  have hfingerprint : root.fingerprint = other.fingerprint := congrArg fingerprintOf same
  exact ⟨hfingerprint, sameAlias_iff.2 hfingerprint, by decide, by decide, fun h => h.1 same⟩

end Certificate

end WifiTrust
