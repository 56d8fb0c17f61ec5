namespace WifiTrust.Decimal

def isDigit (c : Char) : Bool := '0' ≤ c && c ≤ '9'

def digit (n : Nat) : Char := Char.ofNat (48 + n)

def digitValue (c : Char) : Nat := c.toNat - 48

def ofNat (n : Nat) : List Char :=
  if n < 10 then [digit n] else ofNat (n / 10) ++ [digit (n % 10)]
termination_by n

def ofInt : Int → List Char
  | .ofNat n => ofNat n
  | .negSucc n => '-' :: ofNat (n + 1)

def value (cs : List Char) : Nat := cs.foldl (fun n c => 10 * n + digitValue c) 0

/-- At least `width` digits, zeros in front. -/
def padded (width n : Nat) : List Char :=
  List.replicate (width - (ofNat n).length) '0' ++ ofNat n

private theorem digitValue_digit : ∀ n < 10, digitValue (digit n) = n := by decide

private theorem isDigit_digit : ∀ n < 10, isDigit (digit n) = true := by decide

theorem value_ofNat (n : Nat) : value (ofNat n) = n := by
  induction n using Nat.strongRecOn with
  | ind n ih =>
      rw [ofNat]
      split
      · next h => simp [value, digitValue_digit n h]
      · next h =>
          have hr := ih (n / 10) (by omega)
          simp only [value] at hr
          simp only [value, List.foldl_append, List.foldl_cons, List.foldl_nil, hr,
            digitValue_digit (n % 10) (by omega)]
          omega

theorem isDigit_of_mem_ofNat {n : Nat} {c : Char} (h : c ∈ ofNat n) : isDigit c = true := by
  induction n using Nat.strongRecOn with
  | ind n ih =>
      rw [ofNat] at h
      split at h
      · next hn => rw [List.mem_singleton.1 h]; exact isDigit_digit n hn
      · rcases List.mem_append.1 h with h | h
        · exact ih (n / 10) (by omega) h
        · rw [List.mem_singleton.1 h]; exact isDigit_digit (n % 10) (by omega)

theorem ofNat_ne_nil (n : Nat) : ofNat n ≠ [] := by
  rw [ofNat]; split <;> simp

end WifiTrust.Decimal
