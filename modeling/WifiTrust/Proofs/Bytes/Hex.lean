import WifiTrust.Bytes.Hex
import WifiTrust.Text.Lettercase

namespace WifiTrust.Hex

def Spells (digits : List Char) (bs : Bytes) : Prop :=
  digits.map Text.toCapital = (encode bs).map Text.toCapital

instance (digits : List Char) (bs : Bytes) : Decidable (Spells digits bs) :=
  inferInstanceAs (Decidable (digits.map Text.toCapital = (encode bs).map Text.toCapital))

private theorem value?_capital : ∀ n < 123, 97 ≤ n →
    value? (Text.toCapital (Char.ofNat n)) = value? (Char.ofNat n) := by decide

theorem value?_toCapital (c : Char) : value? (Text.toCapital c) = value? c := by
  by_cases small : 'a' ≤ c ∧ c ≤ 'z'
  · have hlow : 97 ≤ c.toNat := small.1
    have hhigh : c.toNat ≤ 122 := small.2
    have hvalue := value?_capital c.toNat (by omega) hlow
    rwa [Char.ofNat_toNat] at hvalue
  · rw [Text.toCapital, if_neg small]

theorem decode?_map_toCapital (digits : List Char) :
    decode? (digits.map Text.toCapital) = decode? digits := by
  induction digits using decode?.induct with
  | case1 => rfl
  | case2 c => rfl
  | case3 high low digits ih =>
      simp only [List.map_cons, decode?, value?_toCapital, ih]

private theorem digit_of_value? : ∀ m < 103, (value? (Char.ofNat m)).all fun n =>
    n < 16 ∧ Text.toCapital (Char.ofNat m) = Text.toCapital (digit n) := by decide

theorem toNat_lt_of_value? {c : Char} {n : Nat} (h : value? c = some n) : c.toNat < 103 := by
  unfold value? at h
  split at h
  · next hdigit =>
      have hle : c.toNat ≤ 57 := hdigit.2
      omega
  · split at h
    · next hsmall =>
        have hle : c.toNat ≤ 102 := hsmall.2
        omega
    · split at h
      · next hcapital =>
          have hle : c.toNat ≤ 70 := hcapital.2
          omega
      · cases h

theorem toCapital_of_value? {c : Char} {n : Nat} (h : value? c = some n) :
    n < 16 ∧ Text.toCapital c = Text.toCapital (digit n) := by
  have hdigit := digit_of_value? c.toNat (toNat_lt_of_value? h)
  rw [Char.ofNat_toNat, h] at hdigit
  simpa using hdigit

theorem spells_of_decode? {digits : List Char} {bs : Bytes} (h : decode? digits = some bs) :
    Spells digits bs := by
  induction digits using decode?.induct generalizing bs with
  | case1 =>
      cases h
      rfl
  | case2 c => cases h
  | case3 high low digits ih =>
      simp only [decode?, Option.bind_eq_bind, Option.bind_eq_some_iff] at h
      obtain ⟨a, hhigh, b, hlow, rest, hrest, hbs⟩ := h
      cases hbs
      obtain ⟨ha, hhigh⟩ := toCapital_of_value? hhigh
      obtain ⟨hb, hlow⟩ := toCapital_of_value? hlow
      have hbyte : (UInt8.ofNat (16 * a + b)).toNat = 16 * a + b := by
        rw [UInt8.toNat_ofNat']
        omega
      have hfirst : (16 * a + b) / 16 = a := by omega
      have hsecond : (16 * a + b) % 16 = b := by omega
      have hspells : digits.map Text.toCapital = (encode rest).map Text.toCapital := ih hrest
      unfold Spells
      simp only [encode, List.map_cons, hbyte, hfirst, hsecond, hhigh, hlow, hspells]

theorem decode?_eq_some_iff {digits : List Char} {bs : Bytes} :
    decode? digits = some bs ↔ Spells digits bs := by
  refine ⟨spells_of_decode?, fun h => ?_⟩
  calc decode? digits
      = decode? (digits.map Text.toCapital) := (decode?_map_toCapital digits).symm
    _ = decode? ((encode bs).map Text.toCapital) := by rw [show digits.map _ = _ from h]
    _ = decode? (encode bs) := decode?_map_toCapital (encode bs)
    _ = some bs := decode?_encode bs

theorem take_encode (bs : Bytes) (n : Nat) : (encode bs).take (2 * n) = encode (bs.take n) := by
  induction bs generalizing n with
  | nil => simp [encode]
  | cons b bs ih =>
      cases n with
      | zero => rfl
      | succ n =>
          rw [List.take_succ_cons, Nat.mul_succ, encode, encode, List.take_succ_cons,
            List.take_succ_cons, ih]

namespace Spells

variable {digits : List Char} {bs bs' : Bytes}

theorem unique (h : Spells digits bs) (h' : Spells digits bs') : bs = bs' := by
  have hread := decode?_eq_some_iff.2 h
  rw [decode?_eq_some_iff.2 h'] at hread
  exact (Option.some.inj hread).symm

theorem length (h : Spells digits bs) : digits.length = 2 * bs.length := by
  have hlength : (digits.map Text.toCapital).length = ((encode bs).map Text.toCapital).length :=
    congrArg List.length h
  rwa [List.length_map, List.length_map, length_encode] at hlength

theorem take (h : Spells digits bs) (n : Nat) : Spells (digits.take (2 * n)) (bs.take n) := by
  unfold Spells at h ⊢
  rw [List.map_take, h, ← take_encode, List.map_take]

end Spells

end WifiTrust.Hex
