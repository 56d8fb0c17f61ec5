import WifiTrust.Certificate.Der

/-!
# Basic encoding

The looser rules of encoding: an element made of elements may leave its length open and go on to an
empty element with the number zero, and a value may be written in more than one way.
-/

namespace WifiTrust.Ber

open Der (Tag Length)

structure Element where
  tag : Tag
  length : Length
  content : Bytes
  deriving DecidableEq, Repr

/-- The tag and the length in front. Only an element made of elements may leave its length open. -/
def header? (bs : Bytes) : Option ((Tag × Length) × Bytes) := do
  let (tag, bs) ← Der.tag? bs
  let (length, bs) ← Der.length? bs
  if length = .indefinite ∧ !tag.constructed then none else return ((tag, length), bs)

/-- The rest behind the first item that `step` tells to be the last; `fuel` bounds their number. -/
def throughLast (step : Bytes → Option (Bool × Bytes)) : Nat → Bytes → Option Bytes
  | 0, _ => none
  | fuel + 1, bs => do
      let (last, bs) ← step bs
      if last then return bs else throughLast step fuel bs

/-- The rest behind the content of an element, and whether the element ends an open one. Open
elements lie in one another to a certain depth only. -/
def skip? : Nat → Tag × Length → Bytes → Option (Bool × Bytes)
  | 0, _, _ => none
  | depth + 1, (tag, length), bs =>
      match length with
      | .definite n =>
          if n = 0 ∧ tag.number = 0 then some (true, bs)
          else if n ≤ bs.length then some (false, bs.drop n)
          else none
      | .indefinite =>
          let step := fun bs => do
            let (header, bs) ← header? bs
            skip? depth header bs
          (throughLast step bs.length bs).map fun rest => (false, rest)

/-- The element in front. The two bytes of the element that ends an open one are not part of its
content. -/
def element? (bs : Bytes) : Option (Element × Bytes) := do
  let ((tag, length), bs) ← header? bs
  let (_, rest) ← skip? 50 (tag, length) bs
  let content := bs.take (bs.length - rest.length)
  let content := if length = .indefinite then content.take (content.length - 2) else content
  return (⟨tag, length, content⟩, rest)

namespace Element

def number? (e : Element) : Option Nat :=
  if e.tag.tagClass = .universal then some e.tag.number else none

/-- A truth value: any byte but zero is true. -/
def boolean? (e : Element) : Option Bool :=
  match e.number?, e.length, e.content with
  | some 1, .definite _, [b] => some (b ≠ 0)
  | _, _, _ => none

def bitNumber? : Bytes → Option Nat
  | [] => none
  | unused :: bs =>
      if 8 * bs.length < unused.toNat ∨ 64 < 8 * bs.length - unused.toNat then none
      else
        let used := (8 * bs.length - unused.toNat + 7) / 8
        some (Der.natural (bs.take used) / Nat.pow 2 (unused.toNat % 8))

/-- A number of 32 bits: a whole number that is not negative, a choice from a list or the bits of a
bit string. -/
def number32? (e : Element) : Option Nat :=
  let value := match e.number? with
    | some 2 => if Der.isNegative e.content then none else some (Der.natural e.content)
    | some 3 => if e.tag.constructed then none else bitNumber? e.content
    | some 10 => if e.tag.constructed then none else some (Der.natural e.content)
    | _ => none
  value.filter (· < Nat.pow 2 32)

end Element

end WifiTrust.Ber
