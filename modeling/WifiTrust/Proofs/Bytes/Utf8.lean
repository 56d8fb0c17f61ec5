import WifiTrust.Bytes.Utf8

namespace WifiTrust.Utf8

theorem toNat_ofNat_of_lt {n : Nat} (h : n < 256) : (UInt8.ofNat n).toNat = n := by
  rw [UInt8.toNat_ofNat']
  exact Nat.mod_eq_of_lt h

theorem Partial.next_tail {p : Partial} {m : Nat} (hm : m < 64) (hlow : p.low ≤ 0x80 + m)
    (hhigh : 0x80 + m ≤ p.high) : p.next (UInt8.ofNat (0x80 + m)) =
      if p.owed ≤ 1 then .whole (Char.ofNat (p.bits * 64 + m))
      else .part ⟨p.owed - 1, 0x80, 0xBF, p.bits * 64 + m⟩ := by
  have hbyte : (UInt8.ofNat (0x80 + m)).toNat = 0x80 + m := toNat_ofNat_of_lt (by omega)
  have hbits : (0x80 + m) % 64 = m := by omega
  unfold Partial.next
  rw [hbyte, hbits, if_pos ⟨hlow, hhigh⟩]

theorem scan_last {bits m : Nat} (hm : m < 64) (bs : Bytes) :
    scan (some ⟨1, 0x80, 0xBF, bits⟩) (UInt8.ofNat (0x80 + m) :: bs) =
      some (Char.ofNat (bits * 64 + m)) :: scan none bs := by
  have hhigh : 0x80 + m ≤ 0xBF := by omega
  have hnext := Partial.next_tail (p := ⟨1, 0x80, 0xBF, bits⟩) hm (Nat.le_add_right _ _) hhigh
  rw [scan, hnext]
  rfl

theorem scan_tail {owed low high bits m : Nat} (hm : m < 64) (hlow : low ≤ 0x80 + m)
    (hhigh : 0x80 + m ≤ high) (bs : Bytes) :
    scan (some ⟨owed + 2, low, high, bits⟩) (UInt8.ofNat (0x80 + m) :: bs) =
      scan (some ⟨owed + 1, 0x80, 0xBF, bits * 64 + m⟩) bs := by
  have hnext := Partial.next_tail (p := ⟨owed + 2, low, high, bits⟩) hm hlow hhigh
  have howed : ¬ owed + 2 ≤ 1 := by omega
  rw [scan, hnext]
  dsimp only
  rw [if_neg howed]
  rfl

theorem scan_lead {b : UInt8} {p : Partial} (h : first b = .part p) (bs : Bytes) :
    scan none (b :: bs) = scan (some p) bs := by rw [scan, h]

theorem first_of_two {n : Nat} (hlow : 0x80 ≤ n) (hhigh : n < 0x800) :
    first (UInt8.ofNat (0xC0 + n / 64)) = .part ⟨1, 0x80, 0xBF, n / 64⟩ := by
  have hbyte : (UInt8.ofNat (0xC0 + n / 64)).toNat = 0xC0 + n / 64 := toNat_ofNat_of_lt (by omega)
  unfold first
  rw [hbyte]
  dsimp only
  rw [if_neg (by omega), if_neg (by omega), if_pos (by omega), Nat.add_sub_cancel_left]

theorem first_of_three {n : Nat} (hlow : 0x800 ≤ n) (hhigh : n < 0x10000)
    (hplane : n < 0xD800 ∨ 0xDFFF < n) : ∃ low high,
      first (UInt8.ofNat (0xE0 + n / 4096)) = .part ⟨2, low, high, n / 4096⟩ ∧
        low ≤ 0x80 + n / 64 % 64 ∧ 0x80 + n / 64 % 64 ≤ high := by
  have hbyte : (UInt8.ofNat (0xE0 + n / 4096)).toNat = 0xE0 + n / 4096 :=
    toNat_ofNat_of_lt (by omega)
  unfold first
  rw [hbyte]
  dsimp only
  rw [if_neg (by omega), if_neg (by omega), if_neg (by omega)]
  by_cases hzero : n / 4096 = 0
  · rw [if_pos (by omega), hzero]
    exact ⟨_, _, rfl, by omega, by omega⟩
  · rw [if_neg (by omega)]
    by_cases hlast : n / 4096 = 13
    · rw [if_pos (by omega), hlast]
      exact ⟨_, _, rfl, by omega, by omega⟩
    · rw [if_neg (by omega), if_pos (by omega), Nat.add_sub_cancel_left]
      exact ⟨_, _, rfl, by omega, by omega⟩

theorem first_of_four {n : Nat} (hlow : 0x10000 ≤ n) (hhigh : n < 0x110000) : ∃ low high,
    first (UInt8.ofNat (0xF0 + n / 262144)) = .part ⟨3, low, high, n / 262144⟩ ∧
      low ≤ 0x80 + n / 4096 % 64 ∧ 0x80 + n / 4096 % 64 ≤ high := by
  have hbyte : (UInt8.ofNat (0xF0 + n / 262144)).toNat = 0xF0 + n / 262144 :=
    toNat_ofNat_of_lt (by omega)
  unfold first
  rw [hbyte]
  dsimp only
  rw [if_neg (by omega), if_neg (by omega), if_neg (by omega), if_neg (by omega),
    if_neg (by omega), if_neg (by omega)]
  by_cases hzero : n / 262144 = 0
  · rw [if_pos (by omega), hzero]
    exact ⟨_, _, rfl, by omega, by omega⟩
  · rw [if_neg (by omega)]
    by_cases hlast : n / 262144 = 4
    · rw [if_neg (by omega), if_pos (by omega), hlast]
      exact ⟨_, _, rfl, by omega, by omega⟩
    · rw [if_pos (by omega), Nat.add_sub_cancel_left]
      exact ⟨_, _, rfl, by omega, by omega⟩

theorem toNat_range (c : Char) :
    c.toNat < 0xD800 ∨ 0xDFFF < c.toNat ∧ c.toNat < 0x110000 := c.valid

theorem scan_encodeChar (c : Char) (bs : Bytes) :
    scan none (encodeChar c ++ bs) = some c :: scan none bs := by
  have hrange := toNat_range c
  have hself : Char.ofNat c.toNat = c := Char.ofNat_toNat c
  have hmod (k : Nat) : k % 64 < 64 := Nat.mod_lt k (by decide)
  unfold encodeChar
  dsimp only
  generalize c.toNat = n at hrange hself ⊢
  by_cases hone : n < 0x80
  · have hbyte : (UInt8.ofNat n).toNat = n := toNat_ofNat_of_lt (by omega)
    have hfirst : first (UInt8.ofNat n) = .whole c := by
      unfold first
      rw [hbyte, ← hself]
      exact if_pos hone
    rw [if_pos hone, List.cons_append, List.nil_append, scan, hfirst]
  · rw [if_neg hone]
    by_cases htwo : n < 0x800
    · have hbits : n / 64 * 64 + n % 64 = n := by omega
      have hfirst := first_of_two (by omega) htwo
      rw [if_pos htwo, List.cons_append, List.cons_append, List.nil_append, scan_lead hfirst,
        scan_last (hmod n), hbits, hself]
    · rw [if_neg htwo]
      by_cases hthree : n < 0x10000
      · have hbits : (n / 4096 * 64 + n / 64 % 64) * 64 + n % 64 = n := by omega
        obtain ⟨low, high, hfirst, hlow, hhigh⟩ := first_of_three (by omega) hthree (by omega)
        rw [if_pos hthree, List.cons_append, List.cons_append, List.cons_append, List.nil_append,
          scan_lead hfirst, scan_tail (hmod _) hlow hhigh, scan_last (hmod n), hbits, hself]
      · have hbits : ((n / 262144 * 64 + n / 4096 % 64) * 64 + n / 64 % 64) * 64 + n % 64 = n := by
          omega
        obtain ⟨low, high, hfirst, hlow, hhigh⟩ := first_of_four (n := n) (by omega) (by omega)
        have hmiddle : 0x80 + n / 64 % 64 ≤ 0xBF := by omega
        rw [if_neg hthree, List.cons_append, List.cons_append, List.cons_append, List.cons_append,
          List.nil_append, scan_lead hfirst, scan_tail (hmod _) hlow hhigh,
          scan_tail (hmod _) (Nat.le_add_right _ _) hmiddle, scan_last (hmod n), hbits, hself]

/-- A text reads as it was encoded. -/
theorem decode?_encode (cs : List Char) : decode? (encode cs) = some cs := by
  unfold decode? encode
  induction cs with
  | nil => rfl
  | cons c cs ih =>
      rw [List.flatMap_cons, scan_encodeChar, List.mapM_cons, ih]
      rfl

theorem scan_encode (cs : List Char) : scan none (encode cs) = cs.map some := by
  unfold encode
  induction cs with
  | nil => rfl
  | cons c cs ih => rw [List.flatMap_cons, scan_encodeChar, ih, List.map_cons]

theorem decodeLossy_encode (cs : List Char) : decodeLossy (encode cs) = cs := by
  rw [decodeLossy, scan_encode, List.map_map]
  exact List.map_id cs

theorem encode_injective {cs cs' : List Char} (h : encode cs = encode cs') : cs = cs' := by
  have hread := decode?_encode cs
  rw [h, decode?_encode] at hread
  exact (Option.some.inj hread).symm

theorem encode_append (cs cs' : List Char) : encode (cs ++ cs') = encode cs ++ encode cs' :=
  List.flatMap_append

end WifiTrust.Utf8
