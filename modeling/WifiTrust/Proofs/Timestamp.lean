import WifiTrust.Proofs.Text.Decimal
import WifiTrust.Timestamp

namespace WifiTrust.Timestamp

open Decimal

theorem trimStart_of_head {c : Char} (h : Text.isBlank c = false) (cs : List Char) :
    Text.trimStart (c :: cs) = c :: cs := List.dropWhile_cons_of_neg (by simp [h])

theorem padded_ne_nil (width n : Nat) : padded width n ≠ [] := fun h =>
  ofNat_ne_nil n (List.append_eq_nil_iff.1 h).2

theorem exists_cons_padded (width n : Nat) :
    ∃ c cs, padded width n = c :: cs ∧ isDigit c = true := by
  obtain ⟨c, cs, hcs⟩ := List.exists_cons_of_ne_nil (padded_ne_nil width n)
  refine ⟨c, cs, hcs, isDigit_of_mem_padded width n c ?_⟩
  rw [hcs]
  exact List.mem_cons_self

theorem number?_padded {width n : Nat} (h : n < 10 ^ width) (hwidth : 0 < width)
    (rest : List Char) : number? width (padded width n ++ rest) = some (n, rest) := by
  have hdigits : ((padded width n ++ rest).takeWhile isDigit).take width = padded width n := by
    rw [List.takeWhile_append_of_pos (isDigit_of_mem_padded width n)]
    exact List.take_left' (length_padded h hwidth)
  have htrim : Text.trimStart (padded width n ++ rest) = padded width n ++ rest := by
    obtain ⟨c, cs, hcs, hc⟩ := exists_cons_padded width n
    rw [hcs]
    exact trimStart_of_head (isBlank_of_isDigit hc) _
  unfold number?
  rw [htrim]
  dsimp only
  rw [hdigits]
  split
  · next hnil => exact absurd hnil (padded_ne_nil width n)
  · rw [value_padded, List.drop_left]

theorem separator?_self {c : Char} (h : Text.isBlank c = false) (rest : List Char) :
    separator? c (c :: rest) = some rest := by
  unfold separator?
  rw [trimStart_of_head h]
  exact if_pos rfl

theorem signed_padded (n : Nat) (sign : Int → Int) (rest : List Char) :
    year?.signed (padded 4 n ++ '-' :: rest) sign = some (sign n, '-' :: rest) := by
  have hstop : ∀ c, ('-' :: rest).head? = some c → isDigit c = false := by
    rintro c ⟨⟩
    decide
  obtain ⟨htake, hdrop⟩ := takeWhile_append (isDigit_of_mem_padded 4 n) hstop
  unfold year?.signed
  rw [htake, hdrop]
  split
  · next hnil => exact absurd hnil (padded_ne_nil 4 n)
  · rw [value_padded]

theorem year?_yearChars (year : Int) (rest : List Char) :
    year? (yearChars year ++ '-' :: rest) = some (year, '-' :: rest) := by
  unfold yearChars
  split
  · next hplain =>
      obtain ⟨c, cs, hcs, hc⟩ := exists_cons_padded 4 year.toNat
      have hyear : year.toNat < 10 ^ 4 := by omega
      have hnumber := number?_padded hyear (by decide) ('-' :: rest)
      have hminus : c ≠ '-' := by
        rintro rfl
        cases hc
      have hplus : c ≠ '+' := by
        rintro rfl
        cases hc
      rw [hcs] at hnumber ⊢
      unfold year?
      rw [List.cons_append, trimStart_of_head (isBlank_of_isDigit hc)]
      split
      · next heq => exact absurd (List.cons.inj heq).1 hminus
      · next heq => exact absurd (List.cons.inj heq).1 hplus
      · rw [← List.cons_append, hnumber]
        simp [Int.toNat_of_nonneg hplain.1]
  · next hwide =>
      unfold year?
      by_cases hnegative : year < 0
      · have hsign : -(year.natAbs : Int) = year := by omega
        rw [if_pos hnegative, List.cons_append, trimStart_of_head (by decide)]
        refine (signed_padded year.natAbs (fun n => -n) rest).trans ?_
        rw [hsign]
      · have hsign : (year.natAbs : Int) = year := by omega
        rw [if_neg hnegative, List.cons_append, trimStart_of_head (by decide)]
        refine (signed_padded year.natAbs id rest).trans ?_
        rw [id, hsign]

theorem fraction?_padded {width n : Nat} (h : n < 10 ^ width) (hwidth : 0 < width ∧ width ≤ 9)
    (rest : List Char) : fraction? ('.' :: padded width n ++ 'Z' :: rest) =
      some (n * 10 ^ (9 - width), 'Z' :: rest) := by
  have hstop : ∀ c, ('Z' :: rest).head? = some c → isDigit c = false := by
    rintro c ⟨⟩
    decide
  obtain ⟨htake, hdrop⟩ := takeWhile_append (isDigit_of_mem_padded width n) hstop
  have hlength := length_padded h hwidth.1
  have hnine : (padded width n ++ List.replicate 9 '0').take 9 =
      padded width n ++ List.replicate (9 - width) '0' := by
    rw [List.take_append, hlength, List.take_of_length_le (by omega), List.take_replicate,
      Nat.min_eq_left (by omega)]
  rw [List.cons_append, fraction?, htake, hdrop]
  split
  · next hnil => exact absurd hnil (padded_ne_nil width n)
  · rw [hnine, value_append_zeros, value_padded]

theorem fraction?_fractionChars {n : Nat} (h : n < 1000000000) (rest : List Char) :
    fraction? (fractionChars n ++ 'Z' :: rest) = some (n, 'Z' :: rest) := by
  unfold fractionChars
  split
  · next hzero =>
      rw [hzero]
      rfl
  · split
    · have hvalue : n / 1000000 * 10 ^ (9 - 3) = n := by omega
      rw [fraction?_padded (by omega) (by decide), hvalue]
    · split
      · have hvalue : n / 1000 * 10 ^ (9 - 6) = n := by omega
        rw [fraction?_padded (by omega) (by decide), hvalue]
      · have hvalue : n * 10 ^ (9 - 9) = n := by omega
        rw [fraction?_padded (by omega) (by decide), hvalue]

theorem minusMinutes_zero {t : Timestamp} (hhour : t.hour < 24) (hminute : t.minute < 60) :
    t.minusMinutes 0 = t := by
  have hhours : (((60 : Int) * t.hour + t.minute - 0) % 1440).toNat / 60 = t.hour := by omega
  have hminutes : (((60 : Int) * t.hour + t.minute - 0) % 1440).toNat % 60 = t.minute := by omega
  unfold minusMinutes
  dsimp only
  rw [if_neg (by omega), if_neg (by omega), hhours, hminutes]

theorem daysIn_le (year : Int) (month : Nat) : Calendar.daysIn year month ≤ 31 := by
  unfold Calendar.daysIn
  split
  · split
    · decide
    · decide
  · split
    · decide
    · decide

theorem chars_eq (t : Timestamp) : t.chars =
    yearChars t.year ++ '-' :: (padded 2 t.month ++ '-' :: (padded 2 t.day ++
      'T' :: (padded 2 t.hour ++ ':' :: (padded 2 t.minute ++
        ':' :: (padded 2 t.second ++ (fractionChars t.nanosecond ++ ['Z'])))))) := by
  simp only [chars, List.append_assoc, List.cons_append]

/-- A moment is read as it was written. -/
theorem parse?_text {t : Timestamp} (h : t.IsValid) : parse? t.text = some t := by
  have hvalid := h
  obtain ⟨-, -, -, hmonth, -, hday, hhour, hminute, hsecond, hnanosecond⟩ := h
  have hdays := daysIn_le t.year t.month
  have htwo {n : Nat} (hn : n < 100) (rest : List Char) :
      number? 2 (padded 2 n ++ rest) = some (n, rest) := number?_padded hn (by decide) rest
  have hdash := separator?_self (c := '-') (by decide)
  have hcolon := separator?_self (c := ':') (by decide)
  have hoffset : offset? ['Z'] = some (0, []) := rfl
  unfold parse? text
  rw [String.toList_ofList, chars_eq]
  refine Option.bind_eq_some_iff.2 ⟨(t.year, _), year?_yearChars t.year _, ?_⟩
  refine Option.bind_eq_some_iff.2 ⟨_, hdash _, ?_⟩
  refine Option.bind_eq_some_iff.2 ⟨_, htwo (n := t.month) (by omega) _, ?_⟩
  refine Option.bind_eq_some_iff.2 ⟨_, hdash _, ?_⟩
  refine Option.bind_eq_some_iff.2 ⟨_, htwo (n := t.day) (by omega) _, ?_⟩
  refine Option.bind_eq_some_iff.2 ⟨_, htwo (n := t.hour) (by omega) _, ?_⟩
  refine Option.bind_eq_some_iff.2 ⟨_, hcolon _, ?_⟩
  refine Option.bind_eq_some_iff.2 ⟨_, htwo (n := t.minute) (by omega) _, ?_⟩
  refine Option.bind_eq_some_iff.2 ⟨_, hcolon _, ?_⟩
  refine Option.bind_eq_some_iff.2 ⟨_, htwo (n := t.second) (by omega) _, ?_⟩
  refine Option.bind_eq_some_iff.2 ⟨_, fraction?_fractionChars hnanosecond _, ?_⟩
  refine Option.bind_eq_some_iff.2 ⟨_, hoffset, ?_⟩
  refine Option.bind_eq_some_iff.2 ⟨(), if_pos rfl, ?_⟩
  refine Option.bind_eq_some_iff.2 ⟨(), if_pos hvalid, ?_⟩
  dsimp only
  rw [minusMinutes_zero hhour hminute]
  exact Option.bind_eq_some_iff.2 ⟨(), if_pos hvalid, rfl⟩

end WifiTrust.Timestamp
