import WifiTrust.Bytes.Hex

/-!
# Distinguished encoding

Elements of a tag, a length and a content. Each reader returns the bytes after what it has read.
A reader of a certain kind of element tells it by the number of the tag alone: neither the class
nor the mark of a content made of elements counts unless the reader says so. Lengths need not be
written in the shortest way.
-/

namespace WifiTrust.Der

/-- A big-endian number. -/
def natural (bs : Bytes) : Nat := bs.foldl (fun n b => 256 * n + b.toNat) 0

/-- Who gives the numbers of tags their meaning. -/
inductive TagClass where
  | universal
  | application
  | contextual
  | personal
  deriving DecidableEq, Repr

def TagClass.ofByte (b : UInt8) : TagClass :=
  if b.toNat < 0x40 then universal
  else if b.toNat < 0x80 then application
  else if b.toNat < 0xC0 then contextual
  else personal

structure Tag where
  tagClass : TagClass
  constructed : Bool
  number : Nat
  deriving DecidableEq, Repr

/-- The number of a tag in base 128, in at most so many bytes; only 32 bits of it are kept. -/
def tagNumber? : Nat → Nat → Bytes → Option (Nat × Bytes)
  | width + 1, n, b :: bs =>
      let n := (128 * n + b.toNat % 128) % Nat.pow 2 32
      if b.toNat < 0x80 then some (n, bs) else tagNumber? width n bs
  | _, _, _ => none

/-- The tag in front. A number of 31 or more follows the first byte. -/
def tag? : Bytes → Option (Tag × Bytes)
  | [] => none
  | b :: bs => do
      let low := b.toNat % 32
      let (number, bs) ← if low < 31 then some (low, bs) else tagNumber? 5 0 bs
      return (⟨.ofByte b, b.toNat / 32 % 2 = 1, number⟩, bs)

inductive Length where
  | definite (n : Nat)
  /-- An element of its own ends the content. -/
  | indefinite
  deriving DecidableEq, Repr

/-- The length in front: one byte below 128, or the number of length bytes that follow. -/
def length? : Bytes → Option (Length × Bytes)
  | [] => none
  | b :: bs =>
      let n := b.toNat
      if n < 0x80 then some (.definite n, bs)
      else if n = 0x80 then some (.indefinite, bs)
      else if n = 0xFF ∨ bs.length < n - 0x80 then none
      else
        let length := natural (bs.take (n - 0x80))
        if length < Nat.pow 2 64 then some (.definite length, bs.drop (n - 0x80)) else none

/-- The tag and the length in front. The content need not be there. -/
def header? (bs : Bytes) : Option ((Tag × Nat) × Bytes) := do
  let (tag, bs) ← tag? bs
  match ← length? bs with
  | (.definite n, bs) => return ((tag, n), bs)
  | (.indefinite, _) => none

/-- A tag with a content. -/
structure Element where
  tag : Tag
  content : Bytes
  deriving DecidableEq, Repr

/-- The element in front. -/
def element? (bs : Bytes) : Option (Element × Bytes) := do
  let ((tag, n), bs) ← header? bs
  if n ≤ bs.length then return (⟨tag, bs.take n⟩, bs.drop n) else none

/-- The content of the element in front, if its tag has the given number. -/
def content? (number : Nat) (bs : Bytes) : Option (Bytes × Bytes) := do
  let (e, bs) ← element? bs
  if e.tag.number = number then return (e.content, bs) else none

/-- The content of the element in front, if its tag has the given number and no mark of a content
made of elements. -/
def primitive? (number : Nat) (bs : Bytes) : Option (Bytes × Bytes) := do
  let (e, bs) ← element? bs
  if e.tag.number = number ∧ !e.tag.constructed then return (e.content, bs) else none

def sequence? (bs : Bytes) : Option (Bytes × Bytes) := content? 16 bs

def set? (bs : Bytes) : Option (Bytes × Bytes) := content? 17 bs

def octets? (bs : Bytes) : Option (Bytes × Bytes) := primitive? 4 bs

def isNegative (digits : Bytes) : Bool := digits.head?.any fun b => 0x80 ≤ b.toNat

/-- Whether a whole number that is not negative is written in the shortest way: a zero stands in
front of a high bit only, or alone. -/
def isShortest : Bytes → Bool
  | [] => false
  | [_] => true
  | high :: others => high ≠ 0 || isNegative others

/-- A number of 32 bits in front. -/
def number32? (bs : Bytes) : Option (Nat × Bytes) := do
  let (digits, bs) ← primitive? 2 bs
  if !isNegative digits ∧ isShortest digits ∧ natural digits < Nat.pow 2 32 then
    return (natural digits, bs)
  else none

/-- The bytes of a bit string behind its count of unused bits, all of which are zero. -/
def bitBytes? : Bytes → Option Bytes
  | [] => none
  | unused :: bs =>
      match bs.getLast? with
      | none => if unused = 0 then some [] else none
      | some last =>
          if unused.toNat ≤ 8 ∧ last.toNat % Nat.pow 2 unused.toNat = 0 then some bs else none

def bits? (bs : Bytes) : Option (Bytes × Bytes) := do
  let (content, bs) ← primitive? 3 bs
  return (← bitBytes? content, bs)

/-- As many items as can be read from the front; `fuel` bounds their number. -/
def row {α : Type} (read : Bytes → Option (α × Bytes)) : Nat → Bytes → List α × Bytes
  | 0, bs => ([], bs)
  | fuel + 1, bs =>
      match read bs with
      | none => ([], bs)
      | some (a, rest) =>
          let (as, rest) := row read fuel rest
          (a :: as, rest)

def many {α : Type} (read : Bytes → Option (α × Bytes)) (bs : Bytes) : List α × Bytes :=
  row read bs.length bs

def all? {α : Type} (read : Bytes → Option (α × Bytes)) (bs : Bytes) : Option (List α) :=
  match many read bs with
  | (as, []) => some as
  | _ => none

end WifiTrust.Der
