import WifiTrust.Json.Reader
import WifiTrust.Proofs.Text.Decimal

namespace WifiTrust

namespace Decimal

theorem ofNat_zero : ofNat 0 = ['0'] := by
  rw [ofNat, if_pos (by decide)]
  rfl

theorem head?_ofNat {n : Nat} (h : n ≠ 0) : (ofNat n).head? ≠ some '0' := by
  have hdigit : ∀ d < 10, digit d = '0' → d = 0 := by decide
  induction n using Nat.strongRecOn with
  | ind n ih =>
      rw [ofNat]
      split
      · next hsmall => exact fun hzero => h (hdigit n hsmall (Option.some.inj hzero))
      · next hlarge =>
          have hrest := ih (n / 10) (by omega) (by omega)
          obtain ⟨c, cs, hcs⟩ := List.exists_cons_of_ne_nil (ofNat_ne_nil (n / 10))
          rw [hcs] at hrest ⊢
          exact hrest

theorem exists_cons_ofNat (n : Nat) : ∃ c cs, ofNat n = c :: cs ∧ c ≠ '-' := by
  obtain ⟨c, cs, hcs⟩ := List.exists_cons_of_ne_nil (ofNat_ne_nil n)
  refine ⟨c, cs, hcs, ?_⟩
  rintro rfl
  have hdigit : isDigit '-' = true := by
    apply isDigit_of_mem_ofNat (n := n)
    rw [hcs]
    exact List.mem_cons_self
  cases hdigit

theorem exists_cons_ofInt (i : Int) :
    ∃ c cs, ofInt i = c :: cs ∧ ∀ d, d ≠ '-' → isDigit d = false → c ≠ d := by
  cases i with
  | ofNat n =>
      obtain ⟨c, cs, hcs⟩ := List.exists_cons_of_ne_nil (ofNat_ne_nil n)
      refine ⟨c, cs, hcs, ?_⟩
      rintro _ - hother rfl
      have hdigit : isDigit c = true := by
        apply isDigit_of_mem_ofNat (n := n)
        rw [hcs]
        exact List.mem_cons_self
      rw [hother] at hdigit
      cases hdigit
  | negSucc n => exact ⟨'-', _, rfl, fun _ hminus _ => hminus.symm⟩

theorem mem_ofInt {i : Int} {c : Char} (h : c ∈ ofInt i) : c = '-' ∨ isDigit c = true := by
  cases i with
  | ofNat n => exact .inr (isDigit_of_mem_ofNat h)
  | negSucc n => exact (List.mem_cons.1 h).imp_right isDigit_of_mem_ofNat

theorem all_isDigit_ofNat (n : Nat) : (ofNat n).all isDigit = true :=
  List.all_eq_true.2 fun _ => isDigit_of_mem_ofNat

end Decimal

namespace Json

def Stops (rest : List Char) : Prop :=
  ∀ c, rest.head? = some c → Decimal.isDigit c = false ∧ c ≠ '.' ∧ c ≠ 'e' ∧ c ≠ 'E'

section Reading

variable {rest : List Char} (stops : Stops rest)

include stops

theorem someDigits_ofNat (n : Nat) :
    someDigits (Decimal.ofNat n ++ rest) = some (Decimal.ofNat n, rest) := by
  obtain ⟨htake, hdrop⟩ := Decimal.takeWhile_append
    (fun c => Decimal.isDigit_of_mem_ofNat (n := n)) fun c hc => (stops c hc).1
  unfold someDigits
  rw [htake, hdrop]
  split
  · next hnil => exact absurd hnil (Decimal.ofNat_ne_nil n)
  · rfl

theorem integerPart_ofNat (n : Nat) :
    integerPart (Decimal.ofNat n ++ rest) = some (Decimal.ofNat n, rest) := by
  by_cases hzero : n = 0
  · have hend : rest.head?.any Decimal.isDigit = false := by
      cases hrest : rest.head? with
      | none => rfl
      | some c => exact (stops c hrest).1
    rw [hzero, Decimal.ofNat_zero, List.cons_append, List.nil_append, integerPart, hend]
    rfl
  · have hhead := Decimal.head?_ofNat hzero
    have hdigits := someDigits_ofNat stops n
    obtain ⟨c, cs, hcs⟩ := List.exists_cons_of_ne_nil (Decimal.ofNat_ne_nil n)
    rw [hcs] at hhead hdigits ⊢
    rw [List.cons_append] at hdigits ⊢
    rw [integerPart]
    · exact hdigits
    · rintro later heq
      exact hhead (congrArg some (List.cons.inj heq).1)

theorem fractionPart_of_stops : fractionPart rest = some ([], rest) := by
  cases rest with
  | nil => rfl
  | cons c cs =>
      have hpoint : c ≠ '.' := (stops c rfl).2.1
      rw [fractionPart]
      exact fun later heq => hpoint (List.cons.inj heq).1

theorem exponentPart_of_stops : exponentPart rest = some ([], rest) := by
  cases rest with
  | nil => rfl
  | cons c cs =>
      obtain ⟨-, -, hsmall, hlarge⟩ := stops c rfl
      exact if_neg (not_or.2 ⟨hsmall, hlarge⟩)

theorem unsignedNumber_ofNat (n : Nat) :
    unsignedNumber (Decimal.ofNat n ++ rest) = some (Decimal.ofNat n, rest) := by
  unfold unsignedNumber
  simp [integerPart_ofNat stops, fractionPart_of_stops stops, exponentPart_of_stops stops]

theorem numberSpelling_ofInt (i : Int) :
    numberSpelling (Decimal.ofInt i ++ rest) = some (Decimal.ofInt i, rest) := by
  cases i with
  | ofNat n =>
      have hnumber := unsignedNumber_ofNat stops n
      obtain ⟨c, cs, hcs, hminus⟩ := Decimal.exists_cons_ofNat n
      rw [Decimal.ofInt]
      rw [hcs, List.cons_append] at hnumber ⊢
      rw [numberSpelling]
      · exact hnumber
      · exact fun later heq => hminus (List.cons.inj heq).1
  | negSucc n =>
      rw [Decimal.ofInt, List.cons_append, numberSpelling, unsignedNumber_ofNat stops]
      rfl

end Reading

theorem integerOf?_ofInt (i : Int) : integerOf? (Decimal.ofInt i) = some i := by
  cases i with
  | ofNat n =>
      have hleading : (Decimal.ofNat n).head? ≠ some '0' ∨ Decimal.ofNat n = ['0'] := by
        by_cases hzero : n = 0
        · exact .inr (hzero ▸ Decimal.ofNat_zero)
        · exact .inl (Decimal.head?_ofNat hzero)
      have hplain : Decimal.ofNat n ≠ [] ∧ (Decimal.ofNat n).all Decimal.isDigit ∧
          ((Decimal.ofNat n).head? ≠ some '0' ∨ Decimal.ofNat n = ['0']) :=
        ⟨Decimal.ofNat_ne_nil n, Decimal.all_isDigit_ofNat n, hleading⟩
      have hvalue := Decimal.value_ofNat n
      obtain ⟨c, cs, hcs, hminus⟩ := Decimal.exists_cons_ofNat n
      rw [Decimal.ofInt]
      rw [hcs] at hplain hvalue ⊢
      rw [integerOf?, if_pos hplain, hvalue]
      · rfl
      · exact fun later heq => hminus (List.cons.inj heq).1
  | negSucc n =>
      have hplain : Decimal.ofNat (n + 1) ≠ [] ∧ (Decimal.ofNat (n + 1)).all Decimal.isDigit ∧
          (Decimal.ofNat (n + 1)).head? ≠ some '0' :=
        ⟨Decimal.ofNat_ne_nil _, Decimal.all_isDigit_ofNat _, Decimal.head?_ofNat (by omega)⟩
      rw [Decimal.ofInt, integerOf?, if_pos hplain, Decimal.value_ofNat]
      rfl

end Json

end WifiTrust
