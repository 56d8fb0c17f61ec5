import WifiTrust.Bytes.Hex
import WifiTrust.Timestamp

/-!
# Moments in certificates

Two forms of digits without separators: a short one with two digits of the year, and a long one with
all four and, perhaps, thousandths of a second. Whether a moment is well-formed is all that counts.
-/

namespace WifiTrust.Moment

def twoDigits? : Bytes → Option (Nat × Bytes)
  | a :: b :: bs =>
      if 48 ≤ a.toNat ∧ a.toNat < 58 ∧ 48 ≤ b.toNat ∧ b.toNat < 58 then
        some (10 * (a.toNat - 48) + (b.toNat - 48), bs)
      else none
  | _ => none

/-- The rest behind month, day, hour, minute and second in the given year. The second may be
missing if a single byte follows the minute. -/
def skipFields? (year : Int) (bs : Bytes) : Option Bytes := do
  let (month, bs) ← twoDigits? bs
  let (day, bs) ← twoDigits? bs
  let (hour, bs) ← twoDigits? bs
  let (minute, bs) ← twoDigits? bs
  let (second, bs) ← if bs.length = 1 then some (0, bs) else twoDigits? bs
  guard (1 ≤ month ∧ month ≤ 12 ∧ 1 ≤ day ∧ day ≤ Calendar.daysIn year month)
  guard (hour < 24 ∧ minute < 60 ∧ second < 60)
  return bs

/-- Whether bytes are an offset from universal time of less than 26 hours. -/
def isOffset (bs : Bytes) : Bool :=
  match twoDigits? bs with
  | none => false
  | some (hours, bs) =>
      match twoDigits? bs with
      | some (minutes, []) => hours ≤ 25 ∧ minutes ≤ 59
      | _ => false

/-- Whether bytes are a moment in the short form. Years from 50 belong to the twentieth century.
The moment is in universal time, marked by a `Z`, or has an offset. -/
def isShort (bs : Bytes) : Bool :=
  match twoDigits? bs with
  | none => false
  | some (year, bs) =>
      match skipFields? (year + if year < 50 then 2000 else 1900) bs with
      | some [0x5A] => true
      | some (0x2B :: offset) => isOffset offset
      | some (0x2D :: offset) => isOffset offset
      | _ => false

/-- Whether bytes are a moment in the long form, which is in universal time. A point may be followed
by three digits at most. -/
def isLong (bs : Bytes) : Bool :=
  let moment := do
    let (century, bs) ← twoDigits? bs
    let (year, bs) ← twoDigits? bs
    skipFields? (100 * century + year) bs
  match moment with
  | some (0x2E :: bs) =>
      let rest := bs.dropWhile fun b => 48 ≤ b.toNat && b.toNat < 58
      bs.length - rest.length ≤ 3 ∧ rest = [0x5A]
  | some rest => rest = [0x5A]
  | none => false

end WifiTrust.Moment
