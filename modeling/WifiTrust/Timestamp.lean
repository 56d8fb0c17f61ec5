import WifiTrust.Text.Blank
import WifiTrust.Text.Decimal
import WifiTrust.Text.Lettercase

/-!
# Timestamps

A moment in universal time, to the nanosecond, in the calendar of RFC 3339. The written form has a
fraction of three, six or nine digits if it is not zero. Reading accepts any offset, and blanks
before each number and at the end.
-/

namespace WifiTrust

namespace Calendar

def isLeap (year : Int) : Bool := year % 4 = 0 ∧ (year % 100 ≠ 0 ∨ year % 400 = 0)

def daysIn (year : Int) (month : Nat) : Nat :=
  if month = 2 then (if isLeap year then 29 else 28)
  else if month = 4 ∨ month = 6 ∨ month = 9 ∨ month = 11 then 30
  else 31

/-- Year, month and day of the day that lies so many days after the first of January 1970. Days are
counted in periods of 400 years that begin in March, so that the leap day is the last of a year. -/
def ofDays (days : Int) : Int × Nat × Nat :=
  let count := days + 719468
  let inPeriod := (count % 146097).toNat
  let year := (inPeriod - inPeriod / 1460 + inPeriod / 36524 - inPeriod / 146096) / 365
  let inYear := inPeriod - (365 * year + year / 4 - year / 100)
  let fromMarch := (5 * inYear + 2) / 153
  let day := inYear - (153 * fromMarch + 2) / 5 + 1
  let month := if fromMarch < 10 then fromMarch + 3 else fromMarch - 9
  (400 * (count / 146097) + year + (if month ≤ 2 then 1 else 0), month, day)

end Calendar

/-- A moment in universal time; second sixty is a leap second. -/
structure Timestamp where
  year : Int
  month : Nat
  day : Nat
  hour : Nat
  minute : Nat
  second : Nat
  nanosecond : Nat
  deriving DecidableEq, Inhabited, Repr

namespace Timestamp

/-- Whether the fields name a moment between the years -262143 and 262142. -/
def IsValid (t : Timestamp) : Prop :=
  -262143 ≤ t.year ∧ t.year ≤ 262142 ∧ 1 ≤ t.month ∧ t.month ≤ 12 ∧ 1 ≤ t.day ∧
    t.day ≤ Calendar.daysIn t.year t.month ∧ t.hour < 24 ∧ t.minute < 60 ∧ t.second ≤ 60 ∧
    t.nanosecond < 1000000000

instance (t : Timestamp) : Decidable t.IsValid := by unfold IsValid; infer_instance

/-- The moment that lies so many nanoseconds after the beginning of 1970. -/
def ofUnix (nanoseconds : Int) : Timestamp :=
  let seconds := nanoseconds / 1000000000
  let clock := (seconds % 86400).toNat
  let (year, month, day) := Calendar.ofDays (seconds / 86400)
  ⟨year, month, day, clock / 3600, clock / 60 % 60, clock % 60, (nanoseconds % 1000000000).toNat⟩

/-- The year with four digits, or with a sign if it needs more or is negative. -/
def yearChars (year : Int) : List Char :=
  if 0 ≤ year ∧ year ≤ 9999 then Decimal.padded 4 year.toNat
  else (if year < 0 then '-' else '+') :: Decimal.padded 4 year.natAbs

/-- The fraction of a second, with as many groups of three digits as it needs. -/
def fractionChars (nanosecond : Nat) : List Char :=
  if nanosecond = 0 then []
  else if nanosecond % 1000000 = 0 then '.' :: Decimal.padded 3 (nanosecond / 1000000)
  else if nanosecond % 1000 = 0 then '.' :: Decimal.padded 6 (nanosecond / 1000)
  else '.' :: Decimal.padded 9 nanosecond

/-- The written form. -/
def chars (t : Timestamp) : List Char :=
  yearChars t.year ++ '-' :: Decimal.padded 2 t.month ++ '-' :: Decimal.padded 2 t.day ++
    'T' :: Decimal.padded 2 t.hour ++ ':' :: Decimal.padded 2 t.minute ++
    ':' :: Decimal.padded 2 t.second ++ fractionChars t.nanosecond ++ ['Z']

def text (t : Timestamp) : String := String.ofList t.chars

def dayBefore (t : Timestamp) : Timestamp :=
  if 1 < t.day then { t with day := t.day - 1 }
  else if 1 < t.month then
    { t with month := t.month - 1, day := Calendar.daysIn t.year (t.month - 1) }
  else { t with year := t.year - 1, month := 12, day := 31 }

def dayAfter (t : Timestamp) : Timestamp :=
  if t.day < Calendar.daysIn t.year t.month then { t with day := t.day + 1 }
  else if t.month < 12 then { t with month := t.month + 1, day := 1 }
  else { t with year := t.year + 1, month := 1, day := 1 }

/-- Go back by an offset of less than a day. -/
def minusMinutes (t : Timestamp) (offset : Int) : Timestamp :=
  let total : Int := 60 * t.hour + t.minute - offset
  let clock : Nat := (total % 1440).toNat
  let t := if total < 0 then t.dayBefore else if 1440 ≤ total then t.dayAfter else t
  { t with hour := clock / 60, minute := clock % 60 }

/-- At most `width` digits, at least one, behind blanks. -/
def number? (width : Nat) (cs : List Char) : Option (Nat × List Char) :=
  let cs := Text.trimStart cs
  match (cs.takeWhile Decimal.isDigit).take width with
  | [] => none
  | digits => some (Decimal.value digits, cs.drop digits.length)

/-- A number of four digits at most, or of any length behind a sign. -/
def year? (cs : List Char) : Option (Int × List Char) :=
  match Text.trimStart cs with
  | '-' :: cs => signed cs fun n => -n
  | '+' :: cs => signed cs id
  | cs => (number? 4 cs).map fun (n, rest) => ((n : Int), rest)
where
  signed (cs : List Char) (sign : Int → Int) : Option (Int × List Char) :=
    match cs.takeWhile Decimal.isDigit with
    | [] => none
    | digits => some (sign (Decimal.value digits), cs.dropWhile Decimal.isDigit)

def separator? (c : Char) (cs : List Char) : Option (List Char) :=
  match Text.trimStart cs with
  | d :: rest => if d = c then some rest else none
  | [] => none

/-- A fraction in nanoseconds, if there is one; digits after the ninth are dropped. -/
def fraction? : List Char → Option (Nat × List Char)
  | '.' :: cs =>
      match cs.takeWhile Decimal.isDigit with
      | [] => none
      | digits =>
          some (Decimal.value ((digits ++ List.replicate 9 '0').take 9),
            cs.dropWhile Decimal.isDigit)
  | cs => some (0, cs)

def twoDigits? : List Char → Option (Nat × List Char)
  | a :: b :: cs =>
      if Decimal.isDigit a && Decimal.isDigit b then some (Decimal.value [a, b], cs) else none
  | _ => none

def offset? (cs : List Char) : Option (Int × List Char) :=
  match Text.trimStart cs with
  | 'Z' :: cs => some (0, cs)
  | 'z' :: cs => some (0, cs)
  | '+' :: cs => signed cs id
  | '-' :: cs => signed cs fun n => -n
  | '\u2212' :: cs => signed cs fun n => -n
  | a :: b :: c :: cs => if [a, b, c].map Text.toCapital = ['U', 'T', 'C'] then some (0, cs) else none
  | _ => none
where
  signed (cs : List Char) (sign : Int → Int) : Option (Int × List Char) := do
    let (hours, cs) ← twoDigits? cs
    let (minutes, cs) ← twoDigits? (cs.dropWhile fun c => c == ':' || Text.isBlank c)
    guard (minutes < 60 ∧ hours < 24)
    return (sign (60 * hours + minutes), cs)

/-- Read a date, a time and an offset; only blanks may follow. -/
def parse? (text : String) : Option Timestamp := do
  let (year, cs) ← year? text.toList
  let (month, cs) ← number? 2 (← separator? '-' cs)
  let (day, cs) ← number? 2 (← separator? '-' cs)
  let cs ← match cs with
    | c :: cs => if c = 'T' ∨ c = 't' ∨ c = ' ' then some cs else none
    | [] => none
  let (hour, cs) ← number? 2 cs
  let (minute, cs) ← number? 2 (← separator? ':' cs)
  let (second, cs) ← number? 2 (← separator? ':' cs)
  let (nanosecond, cs) ← fraction? cs
  let (offset, cs) ← offset? cs
  guard (Text.trimStart cs = [])
  let here : Timestamp := ⟨year, month, day, hour, minute, second, nanosecond⟩
  guard here.IsValid
  let there := here.minusMinutes offset
  guard there.IsValid
  return there

end Timestamp

end WifiTrust
