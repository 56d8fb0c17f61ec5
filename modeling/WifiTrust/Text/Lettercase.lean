/-!
# Letter case

Two foldings of case. Attribute keys are compared in ASCII capitals; method and format names are
compared with an ASCII word after lower-casing.
-/

namespace WifiTrust.Text

/-- ASCII capitals; every other character stays. -/
def toCapital (c : Char) : Char :=
  if 'a' ≤ c ∧ c ≤ 'z' then Char.ofNat (c.toNat - 32) else c

/-- Lower-casing, on the characters whose small form is an ASCII letter: the ASCII capitals and
the Kelvin sign. The small form of any other character holds a character outside ASCII, so a
comparison with an ASCII word sees no difference. -/
def toSmall (c : Char) : Char :=
  if 'A' ≤ c ∧ c ≤ 'Z' then Char.ofNat (c.toNat + 32)
  else if c = '\u212a' then 'k'
  else c

/-- Whether `text` is `word` once lower-cased; `word` is in small ASCII letters. -/
def isWord (text word : String) : Bool := text.toList.map toSmall == word.toList

end WifiTrust.Text
