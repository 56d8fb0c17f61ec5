import Mathlib.Algebra.Group.Nat.Defs
import WifiTrust.Text.Blank
import WifiTrust.Text.Decimal

namespace WifiTrust.Decimal

theorem isDigit_iff {c : Char} : isDigit c = true ↔ 48 ≤ c.toNat ∧ c.toNat ≤ 57 := by
  unfold isDigit
  rw [Bool.and_eq_true, decide_eq_true_eq, decide_eq_true_eq]
  exact Iff.rfl

theorem isBlank_of_isDigit {c : Char} (h : isDigit c = true) : Text.isBlank c = false := by
  obtain ⟨hlow, hhigh⟩ := isDigit_iff.1 h
  have hne (d : Char) (hd : d.toNat < 48 ∨ 57 < d.toNat) : c ≠ d := by
    rintro rfl
    omega
  have hle (d : Char) (hd : 57 < d.toNat) : ¬ d ≤ c := fun hdc => by
    have : d.toNat ≤ c.toNat := hdc
    omega
  have hge (d : Char) (hd : d.toNat < 48) : ¬ c ≤ d := fun hcd => by
    have : c.toNat ≤ d.toNat := hcd
    omega
  simp [Text.isBlank, hne, hle, hge]

theorem length_ofNat_le {width n : Nat} (h : n < 10 ^ width) (hwidth : 0 < width) :
    (ofNat n).length ≤ width := by
  induction width generalizing n with
  | zero => exact absurd hwidth (Nat.lt_irrefl 0)
  | succ width ih =>
      rw [ofNat]
      split
      · rw [List.length_singleton]
        omega
      · next hlarge =>
          rw [Nat.pow_succ] at h
          have hwide : 0 < width := by
            refine Nat.pos_of_ne_zero fun hzero => ?_
            rw [hzero] at h
            omega
          have hrest := ih (n := n / 10) (by omega) hwide
          rw [List.length_append, List.length_singleton]
          omega

theorem length_padded {width n : Nat} (h : n < 10 ^ width) (hwidth : 0 < width) :
    (padded width n).length = width := by
  have hle := length_ofNat_le h hwidth
  unfold padded
  rw [List.length_append, List.length_replicate]
  omega

theorem isDigit_of_mem_padded (width n : Nat) : ∀ c ∈ padded width n, isDigit c = true := by
  intro c h
  rcases List.mem_append.1 h with hzero | hdigit
  · rw [List.eq_of_mem_replicate hzero]
    decide
  · exact isDigit_of_mem_ofNat hdigit

theorem value_padded (width n : Nat) : value (padded width n) = n := by
  have hzeros (k : Nat) (cs : List Char) : value (List.replicate k '0' ++ cs) = value cs := by
    induction k with
    | zero => rfl
    | succ k ih => rw [List.replicate_succ]; exact ih
  rw [padded, hzeros, value_ofNat]

theorem value_append_zeros (cs : List Char) (k : Nat) :
    value (cs ++ List.replicate k '0') = value cs * 10 ^ k := by
  induction k with
  | zero => rw [List.replicate_zero, List.append_nil, Nat.pow_zero, Nat.mul_one]
  | succ k ih =>
      have hlast : value (cs ++ List.replicate k '0' ++ ['0']) =
          10 * value (cs ++ List.replicate k '0') := by
        rw [value, List.foldl_append]
        rfl
      rw [List.replicate_succ', ← List.append_assoc, hlast, ih, Nat.pow_succ]
      exact (Nat.mul_comm _ _).trans (Nat.mul_assoc _ _ _)

theorem takeWhile_append {cs rest : List Char} (hcs : ∀ c ∈ cs, isDigit c = true)
    (hrest : ∀ c, rest.head? = some c → isDigit c = false) :
    (cs ++ rest).takeWhile isDigit = cs ∧ (cs ++ rest).dropWhile isDigit = rest := by
  have hstop : rest.takeWhile isDigit = [] ∧ rest.dropWhile isDigit = rest := by
    cases rest with
    | nil => exact ⟨rfl, rfl⟩
    | cons c rest =>
        have hc := hrest c rfl
        exact ⟨List.takeWhile_cons_of_neg (by simp [hc]), List.dropWhile_cons_of_neg (by simp [hc])⟩
  rw [List.takeWhile_append_of_pos hcs, List.dropWhile_append_of_pos hcs, hstop.1, hstop.2,
    List.append_nil]
  exact ⟨rfl, rfl⟩

end WifiTrust.Decimal
