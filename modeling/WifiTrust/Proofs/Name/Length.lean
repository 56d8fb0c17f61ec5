import Mathlib.Algebra.Group.Nat.Defs
import Mathlib.Data.List.Induction
import WifiTrust.Certificate.Der
import WifiTrust.Name.Parser
import WifiTrust.Proofs.Bytes.Utf8

/-!
# Lengths and contents

A length is written in one byte or as the number of the bytes that hold it. Main statement: a content
is read exactly where it stands behind a form of its length, and never from a part of both.
-/

namespace WifiTrust

namespace Der

/-- A number in so many bytes, the greatest first. -/
def octets : Nat → Nat → Bytes
  | 0, _ => []
  | width + 1, n => octets width (n / 256) ++ [UInt8.ofNat n]

theorem length_octets (width n : Nat) : (octets width n).length = width := by
  induction width generalizing n with
  | zero => rfl
  | succ width ih => rw [octets, List.length_append, ih, List.length_singleton]

theorem natural_concat (bs : Bytes) (b : UInt8) :
    natural (bs ++ [b]) = 256 * natural bs + b.toNat := by
  rw [natural, List.foldl_append]
  rfl

theorem natural_octets {width n : Nat} (fits : n < 256 ^ width) : natural (octets width n) = n := by
  induction width generalizing n with
  | zero =>
      have hzero : n = 0 := by simpa using fits
      rw [hzero]
      rfl
  | succ width ih =>
      rw [Nat.pow_succ] at fits
      have hfront := ih (n := n / 256) (by omega)
      rw [octets, natural_concat, hfront, UInt8.toNat_ofNat']
      omega

theorem natural_lt (bs : Bytes) : natural bs < 256 ^ bs.length := by
  induction bs using List.reverseRecOn with
  | nil => exact Nat.one_pos
  | append_singleton bs b ih =>
      have hb : b.toNat < 256 := b.toNat_lt
      rw [natural_concat, List.length_append, List.length_singleton, Nat.pow_succ]
      omega

theorem octets_natural (bs : Bytes) : octets bs.length (natural bs) = bs := by
  induction bs using List.reverseRecOn with
  | nil => rfl
  | append_singleton bs b ih =>
      have hb : b.toNat < 256 := b.toNat_lt
      have hfront : (256 * natural bs + b.toNat) / 256 = natural bs := by omega
      have hlast : UInt8.ofNat (256 * natural bs + b.toNat) = b := by
        apply UInt8.toNat_inj.1
        rw [UInt8.toNat_ofNat']
        omega
      rw [natural_concat, List.length_append, List.length_singleton, octets, hfront, ih, hlast]

end Der

namespace DistinguishedName

/-- The forms of a length: a byte below 128, or the number of the bytes that follow, one to four, and
the length in them. In more bytes than it needs it begins with zeros. -/
inductive LengthForm (n : Nat) : Bytes → Prop
  | short (small : n < 128) : LengthForm n [UInt8.ofNat n]
  | long {width : Nat} (positive : 1 ≤ width) (narrow : width ≤ 4) (fits : n < 256 ^ width) :
      LengthForm n (UInt8.ofNat (128 + width) :: Der.octets width n)

theorem exists_lengthForm_iff {n : Nat} : (∃ len, LengthForm n len) ↔ n < 2 ^ 32 := by
  constructor
  · rintro ⟨len, form⟩
    cases form with
    | short small => omega
    | @long width _ narrow fits =>
        calc n < 256 ^ width := fits
          _ ≤ 256 ^ 4 := Nat.pow_le_pow_right (by decide) narrow
          _ = 2 ^ 32 := rfl
  · intro fits
    exact ⟨_, .long (by decide : 1 ≤ 4) (by decide) fits⟩

section Content

variable {n n' : Nat} {content len len' : Bytes}

private theorem masks : ∀ n < 256, (UInt8.ofNat n &&& 0x80 = 0 ↔ n < 0x80) ∧
    (0x80 ≤ n → (UInt8.ofNat n &&& 0x7F).toNat = n - 0x80) := by decide +kernel

theorem masks_of_byte (b : UInt8) : (b &&& 0x80 = 0 ↔ b.toNat < 0x80) ∧
    (0x80 ≤ b.toNat → (b &&& 0x7F).toNat = b.toNat - 0x80) := by
  have hmasks := masks b.toNat b.toNat_lt
  rwa [UInt8.ofNat_toNat] at hmasks

theorem front?_id (length : Nat) (body : Bytes) :
    front? (m := Id) (fun n bs => (bs.take n, bs.drop n)) length body =
      if length ≤ body.length then some (body.take length) else none := rfl

theorem content?_cons (first : UInt8) (rest : Bytes) : content? (first :: rest) =
    if first.toNat < 0x80 then
      if first.toNat ≤ rest.length then some (rest.take first.toNat) else none
    else
      let count := first.toNat - 0x80
      if count = 0 ∨ 4 < count ∨ rest.length < count then none
      else if Der.natural (rest.take count) ≤ (rest.drop count).length then
        some ((rest.drop count).take (Der.natural (rest.take count)))
      else none := by
  obtain ⟨hshort, hcount⟩ := masks_of_byte first
  unfold content?
  rw [contentBy]
  by_cases small : first.toNat < 0x80
  · rw [if_pos (hshort.2 small), if_pos small]
    exact front?_id _ _
  · rw [if_neg fun h => small (hshort.1 h), if_neg small, hcount (by omega)]
    refine if_congr .rfl rfl ?_
    have hlength (octets : Bytes) : octets.foldlM (m := Id) (fun n b => 256 * n + b.toNat) 0 =
        Der.natural octets := List.idRun_foldlM
    change front? (m := Id) _ (id (List.foldlM (m := Id) _ 0 _)) _ = _
    rw [hlength, front?_id, id_eq]

theorem content?_of_form (form : LengthForm content.length len) (rest : Bytes) :
    content? (len ++ (content ++ rest)) = some content := by
  cases form with
  | short small =>
      have hfirst : (UInt8.ofNat content.length).toNat = content.length :=
        Utf8.toNat_ofNat_of_lt (by omega)
      rw [List.singleton_append, content?_cons, hfirst, if_pos small, if_pos (by simp),
        List.take_left]
  | @long width positive narrow fits =>
      have hfirst : (UInt8.ofNat (128 + width)).toNat = 128 + width :=
        Utf8.toNat_ofNat_of_lt (by omega)
      have hcount : 128 + width - 0x80 = width := by omega
      have hlength := Der.length_octets width content.length
      have htake : (Der.octets width content.length ++ (content ++ rest)).take width =
          Der.octets width content.length := List.take_left' hlength
      have hdrop : (Der.octets width content.length ++ (content ++ rest)).drop width =
          content ++ rest := List.drop_left' hlength
      rw [List.cons_append, content?_cons, hfirst, if_neg (by omega)]
      dsimp only
      rw [hcount, if_neg (by simp [hlength]; omega), htake, hdrop, Der.natural_octets fits,
        if_pos (by simp), List.take_left]

theorem lengthForm_natural (octets : Bytes) (positive : 1 ≤ octets.length)
    (narrow : octets.length ≤ 4) :
    LengthForm (Der.natural octets) (UInt8.ofNat (128 + octets.length) :: octets) := by
  have form := LengthForm.long positive narrow (Der.natural_lt octets)
  rwa [Der.octets_natural] at form

/-- Whatever is read as a content stands behind a form of its length. -/
theorem exists_form_of_content? {bs : Bytes} (h : content? bs = some content) :
    ∃ len rest, bs = len ++ (content ++ rest) ∧ LengthForm content.length len := by
  cases bs with
  | nil => cases h
  | cons first rest =>
      rw [content?_cons] at h
      split at h
      · next small =>
          split at h
          · next enough =>
              cases h
              have form : LengthForm first.toNat [UInt8.ofNat first.toNat] := .short small
              rw [UInt8.ofNat_toNat] at form
              refine ⟨[first], rest.drop first.toNat, by simp, ?_⟩
              rwa [List.length_take_of_le enough]
          · cases h
      · next large =>
          dsimp only at h
          split at h
          · cases h
          · next counted =>
              have hcount : (rest.take (first.toNat - 0x80)).length = first.toNat - 0x80 :=
                List.length_take_of_le (by omega)
              have hrest := List.take_append_drop (first.toNat - 0x80) rest
              generalize rest.take (first.toNat - 0x80) = octets at h hcount hrest
              generalize rest.drop (first.toNat - 0x80) = body at h hrest
              split at h
              · next enough =>
                  have hbyte : UInt8.ofNat (128 + octets.length) = first := by
                    rw [show 128 + octets.length = first.toNat by omega, UInt8.ofNat_toNat]
                  have form := lengthForm_natural octets (by omega) (by omega)
                  rw [← Option.some.inj h, List.length_take_of_le enough]
                  refine ⟨first :: octets, body.drop (Der.natural octets), ?_, hbyte ▸ form⟩
                  rw [List.cons_append, List.take_append_drop, hrest]
              · cases h

theorem content?_eq_some_iff {bs : Bytes} : content? bs = some content ↔
    ∃ len rest, bs = len ++ (content ++ rest) ∧ LengthForm content.length len := by
  refine ⟨exists_form_of_content?, ?_⟩
  rintro ⟨len, rest, rfl, form⟩
  exact content?_of_form form rest

theorem LengthForm.length_eq (form : LengthForm n len) : ∃ first octets, len = first :: octets ∧
    octets.length = if first.toNat < 128 then 0 else first.toNat - 128 := by
  cases form with
  | short small =>
      have hfirst : (UInt8.ofNat n).toNat = n := Utf8.toNat_ofNat_of_lt (by omega)
      exact ⟨_, [], rfl, by rw [hfirst, if_pos small]; rfl⟩
  | @long width _ narrow _ =>
      have hfirst : (UInt8.ofNat (128 + width)).toNat = 128 + width :=
        Utf8.toNat_ofNat_of_lt (by omega)
      refine ⟨_, _, rfl, ?_⟩
      rw [hfirst, if_neg (by omega), Der.length_octets]
      omega

theorem LengthForm.eq_of_append (form : LengthForm n len) (form' : LengthForm n' len')
    {s s' : Bytes} (same : len ++ s = len' ++ s') : len = len' := by
  obtain ⟨first, octets, rfl, hlength⟩ := form.length_eq
  obtain ⟨first', octets', rfl, hlength'⟩ := form'.length_eq
  obtain ⟨rfl, hrest⟩ := List.cons.inj same
  rw [(List.append_inj hrest (hlength.trans hlength'.symm)).1]

theorem content?_truncated (form : LengthForm content.length len) {k : Nat}
    (short : k < (len ++ content).length) : content? ((len ++ content).take k) = none := by
  refine Option.eq_none_iff_forall_ne_some.2 fun read hread => ?_
  obtain ⟨len', rest, htake, form'⟩ := exists_form_of_content? hread
  -- what is read from a part is read from the whole as well, so it is all of the content
  have hsplit : len ++ content = len' ++ (read ++ (rest ++ (len ++ content).drop k)) := by
    rw [← List.append_assoc read, ← List.append_assoc len', ← htake, List.take_append_drop]
  have hwhole := content?_of_form form []
  rw [List.append_nil, hsplit, content?_of_form form'] at hwhole
  cases hwhole
  obtain rfl := form.eq_of_append form' hsplit
  have hlength := congrArg List.length htake
  simp only [List.length_take, List.length_append] at hlength short
  omega

end Content

end DistinguishedName

end WifiTrust
