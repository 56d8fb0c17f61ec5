import WifiTrust.Certificate.Basic
import WifiTrust.Certificate.Ber
import WifiTrust.Certificate.Moment
import WifiTrust.Certificate.Registry

/-!
# X.509 certificates

Decoding an encoded certificate as far as the trust decision needs it: names, signature and the
basic constraints. Dates are checked for their form; keys and signatures are read but not checked.
Where a sequence is read, what follows its last known element is not looked at.
-/

namespace WifiTrust.X509

/-- A key and a value of a name; the value keeps its tag. -/
structure Attribute where
  key : ObjectId
  value : Der.Element
  deriving DecidableEq, Repr

/-- A name is a row of sets of attributes. -/
abbrev Name := List (List Attribute)

def keyText (key : ObjectId) : String := key.name?.getD ("OID(" ++ key.text ++ ")")

/-- Whether a tag number belongs to a character string of one byte a unit. -/
def isByteString (number : Nat) : Bool :=
  number ∈ [7, 12, 18, 19, 20, 21, 22, 25, 26, 27]

/-- Units of two bytes; a single byte at the end is a unit of its own. -/
def units16 : Bytes → List Nat
  | [] => []
  | [a] => [a.toNat]
  | a :: b :: bs => (256 * a.toNat + b.toNat) :: units16 bs

/-- Characters from units of UTF-16, surrogates in pairs. -/
def utf16? : List Nat → Option (List Char)
  | [] => some []
  | unit :: units =>
      if 0xD800 ≤ unit ∧ unit < 0xDC00 then
        match units with
        | low :: units =>
            if 0xDC00 ≤ low ∧ low < 0xE000 then
              (utf16? units).map
                (Char.ofNat (0x10000 + 1024 * (unit - 0xD800) + (low - 0xDC00)) :: ·)
            else none
        | [] => none
      else if 0xDC00 ≤ unit ∧ unit < 0xE000 then none
      else (utf16? units).map (Char.ofNat unit :: ·)

/-- The text of an attribute value: strings as they are, anything else in capital hexadecimal. -/
def valueText? (value : Der.Element) : Option String :=
  if isByteString value.tag.number then (Utf8.decode? value.content).map String.ofList
  else if value.tag.number = 30 then (utf16? (units16 value.content)).map String.ofList
  else some (String.ofList ((Hex.encode value.content).map Char.toUpper))

/-- An attribute as it is written. The value is not escaped. -/
def Attribute.render? (a : Attribute) : Option String :=
  (valueText? a.value).map fun text => keyText a.key ++ "=" ++ text

def Name.render? (name : Name) : Option String := do
  let sets ← name.mapM fun set => do
    return " + ".intercalate (← set.mapM Attribute.render?)
  return ", ".intercalate sets

/-- A name as it is written; one that has a value without a text is not written at all. -/
def Name.render (name : Name) : String :=
  name.render?.getD "<X509Error: Invalid X.509 name>"

/-- An object identifier in front. Its tag may have any number. -/
def identifier? (bs : Bytes) : Option (ObjectId × Bytes) := do
  let (e, rest) ← Der.element? bs
  if e.tag.constructed then none else return (⟨e.content⟩, rest)

def attribute? (bs : Bytes) : Option (Attribute × Bytes) := do
  let (pair, rest) ← Der.sequence? bs
  let (key, pair) ← identifier? pair
  let (value, _) ← Der.element? pair
  return (⟨key, value⟩, rest)

def attributeSet? (bs : Bytes) : Option (List Attribute × Bytes) := do
  let (set, rest) ← Der.set? bs
  match (Der.many attribute? set).1 with
  | [] => none
  | attributes => return (attributes, rest)

def name? (bs : Bytes) : Option (Name × Bytes) := do
  let (sets, rest) ← Der.sequence? bs
  return ((Der.many attributeSet? sets).1, rest)

def skipVersion? (bs : Bytes) : Option Bytes := do
  let (e, rest) ← Der.element? bs
  if e.tag.number ≠ 0 then return bs
  guard (e.tag.tagClass = .contextual)
  let _ ← Der.number32? e.content
  return rest

/-- The rest behind a serial number, in basic encoding. -/
def skipSerial? (bs : Bytes) : Option Bytes := do
  let (e, rest) ← Ber.element? bs
  if e.tag.number = 2 then return rest else none

/-- The rest behind an algorithm identifier. Its parameters are one element, if they are there. -/
def skipAlgorithm? (bs : Bytes) : Option Bytes := do
  let (algorithm, rest) ← Der.sequence? bs
  let (_, parameters) ← identifier? algorithm
  if parameters = [] ∨ (Der.element? parameters).isSome then return rest else none

def skipMoment? (bs : Bytes) : Option Bytes := do
  let (e, rest) ← Der.element? bs
  if e.tag.number = 23 ∧ Moment.isShort e.content ∨ e.tag.number = 24 ∧ Moment.isLong e.content then
    return rest
  else none

def skipValidity? (bs : Bytes) : Option Bytes := do
  let (dates, rest) ← Der.sequence? bs
  let _ ← skipMoment? (← skipMoment? dates)
  return rest

def skipKey? (bs : Bytes) : Option Bytes := do
  let (key, rest) ← Der.sequence? bs
  let _ ← Der.bits? (← skipAlgorithm? key)
  return rest

def skipUnique? (number : Nat) (bs : Bytes) : Option Bytes :=
  match Der.header? bs with
  | none => some bs
  | some ((tag, _), _) =>
      if tag.number ≠ number then some bs
      else do
        let (e, rest) ← Der.element? bs
        if tag.tagClass = .contextual ∧ e.content ≠ [] then return rest else none

/-- An extension: what it is about and its value. -/
structure Extension where
  key : ObjectId
  value : Bytes
  deriving DecidableEq, Repr

def skipCritical (bs : Bytes) : Bytes :=
  match Der.element? bs with
  | some (e, rest) => if e.tag.number = 1 ∧ e.content.length = 1 then rest else bs
  | none => bs

def extension? (bs : Bytes) : Option (Extension × Bytes) := do
  let (body, rest) ← Der.sequence? bs
  let (key, body) ← identifier? body
  let (value, _) ← Der.octets? (skipCritical body)
  return (⟨key, value⟩, rest)

/-- The extensions at the end of a certificate, inside an element with the number three. The
sequence of the extensions reaches to the end, whatever length that element gives. -/
def extensions? (bs : Bytes) : Option (List Extension) :=
  if bs = [] then some []
  else do
    let ((tag, _), wrapped) ← Der.header? bs
    guard (tag.number = 3)
    let (row, rest) ← Der.sequence? wrapped
    guard (rest = [])
    Der.all? extension? row

/-- Whether basic constraints mark an authority: the flag comes first, and only a path length may
follow it. -/
def constraintsMarkCa (value : Bytes) : Bool :=
  match Der.element? value with
  | none => false
  | some (e, _) =>
      if e.tag.number = 16 ∧ e.tag.constructed then
        match Der.all? Ber.element? e.content with
        | some [flag] => flag.boolean? = some true
        | some [flag, limit] => flag.boolean? = some true ∧ limit.number32?.isSome
        | _ => false
      else false

/-- The identifier of the basic constraints, 2.5.29.19. -/
def basicConstraints : ObjectId := ⟨[0x55, 0x1D, 0x13]⟩

/-- Whether the one extension with the basic constraints marks an authority. -/
def marksCa (extensions : List Extension) : Bool :=
  match extensions.filter (·.key = basicConstraints) with
  | [e] => constraintsMarkCa e.value
  | _ => false

/-- The parts of a certificate that matter here. -/
structure Parts where
  subject : Name
  issuer : Name
  signature : Bytes
  isCa : Bool

/-- Decode the signed part, the algorithm and the signature. -/
def decode? (der : Bytes) : Option Parts := do
  let (certificate, _) ← Der.sequence? der
  let (signed, certificate) ← Der.sequence? certificate
  let signed ← skipVersion? signed
  let signed ← skipSerial? signed
  let signed ← skipAlgorithm? signed
  let (issuer, signed) ← name? signed
  let signed ← skipValidity? signed
  let (subject, signed) ← name? signed
  let signed ← skipKey? signed
  let signed ← skipUnique? 1 signed
  let signed ← skipUnique? 2 signed
  let extensions ← extensions? signed
  let certificate ← skipAlgorithm? certificate
  let (signature, _) ← Der.bits? certificate
  return ⟨subject, issuer, signature, marksCa extensions⟩

end WifiTrust.X509

namespace WifiTrust.Certificate

/-- Decode an encoded certificate. Bytes after it count for the fingerprint only. -/
def ofDer? (der : Bytes) : Option Certificate := do
  let parts ← X509.decode? der
  return {
    subject := parts.subject.render
    issuer := parts.issuer.render
    signature := parts.signature
    isCa := parts.isCa
    fingerprint := fingerprintOf der
    der := der }

end WifiTrust.Certificate
