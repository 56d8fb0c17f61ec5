import WifiTrust.Bytes.Utf8
import WifiTrust.Name.Basic
import WifiTrust.Text.Blank
import WifiTrust.Text.Lettercase

/-!
# Reading a distinguished name

A name is a row of attributes `key=value` between commas and plus signs. A backslash takes the
character after it literally. A value that begins with a number sign is the hexadecimal form of
an encoded string: a tag, a length and the content.
-/

namespace WifiTrust.DistinguishedName

private def pushFront (cs : List Char) (parts : List Char × List (List Char)) :
    List Char × List (List Char) :=
  (cs ++ parts.1, parts.2)

/-- The first part and the others, cut at each comma and plus sign that no backslash escapes. An
escape stays in its part as it was written; a backslash at the very end is dropped. -/
def cut : List Char → List Char × List (List Char)
  | [] => ([], [])
  | ['\\'] => ([], [])
  | '\\' :: c :: cs => pushFront ['\\', c] (cut cs)
  | c :: cs =>
      if c = ',' ∨ c = '+' then ([], (cut cs).1 :: (cut cs).2)
      else pushFront [c] (cut cs)

theorem cut_separator {c : Char} (separates : c = ',' ∨ c = '+') (cs : List Char) :
    cut (c :: cs) = ([], (cut cs).1 :: (cut cs).2) := by
  rcases separates with rfl | rfl
  · rfl
  · rfl

theorem cut_other {c : Char} (inside : ¬(c = ',' ∨ c = '+')) (literal : c ≠ '\\')
    (cs : List Char) : cut (c :: cs) = (c :: (cut cs).1, (cut cs).2) := by
  rw [cut.eq_4 c cs (fun h => absurd h literal) (fun _ _ h => absurd h literal), if_neg inside]
  rfl

private def dropBlankEnd : List (List Char) → List (List Char)
  | [] => []
  | [last] => if Text.trim last = [] then [] else [last]
  | part :: parts => part :: dropBlankEnd parts

/-- The parts of a name; a blank one counts only before another. -/
def parts (name : List Char) : List (List Char) :=
  dropBlankEnd ((cut name).1 :: (cut name).2)

private theorem dropBlankEnd_eq (ps : List (List Char)) :
    ps = dropBlankEnd ps ∨ ∃ blank, Text.trim blank = [] ∧ ps = dropBlankEnd ps ++ [blank] := by
  induction ps with
  | nil => exact .inl rfl
  | cons p ps ih =>
      cases ps with
      | nil =>
          unfold dropBlankEnd
          split
          · next blank => exact .inr ⟨p, blank, rfl⟩
          · exact .inl rfl
      | cons q qs =>
          unfold dropBlankEnd
          exact ih.imp (congrArg (p :: ·)) fun ⟨blank, hblank, hps⟩ =>
            ⟨blank, hblank, congrArg (p :: ·) hps⟩

theorem parts_eq (name : List Char) : (cut name).1 :: (cut name).2 = parts name ∨
    ∃ blank, Text.trim blank = [] ∧ (cut name).1 :: (cut name).2 = parts name ++ [blank] :=
  dropBlankEnd_eq ((cut name).1 :: (cut name).2)

/-- Take each escaped character literally; a backslash with nothing after it has no meaning. -/
def unescape : List Char → Option (List Char)
  | [] => some []
  | ['\\'] => none
  | '\\' :: c :: cs => (unescape cs).map (c :: ·)
  | c :: cs => (unescape cs).map (c :: ·)

def front? {m : Type → Type} [Monad m] (cutOff : Nat → Bytes → m (Bytes × Bytes)) (length : Nat)
    (body : Bytes) : m (Option Bytes) :=
  if length ≤ body.length then cutOff length body >>= fun (content, _) => pure (some content)
  else pure none

/-- The content behind a length byte: the byte itself below 128, else the number of big-endian
length bytes that follow, one to four. Bytes after the content are not looked at. How bytes are cut
off and how a byte is put behind a number is up to the machine. -/
def contentBy {m : Type → Type} [Monad m] {Word : Type} (cutOff : Nat → Bytes → m (Bytes × Bytes))
    (shiftIn : Word → UInt8 → m Word) (zero : Word) (toNat : Word → Nat) :
    Bytes → m (Option Bytes)
  | [] => pure none
  | first :: rest =>
      if first &&& 0x80 = 0 then front? cutOff first.toNat rest
      else
        let count := (first &&& 0x7F).toNat
        if count = 0 ∨ 4 < count ∨ rest.length < count then pure none
        else cutOff count rest >>= fun (octets, body) =>
          octets.foldlM shiftIn zero >>= fun length => front? cutOff (toNat length) body

/-- The content behind a length byte. -/
def content? : Bytes → Option Bytes :=
  contentBy (m := Id) (fun n bs => (bs.take n, bs.drop n)) (fun n b => 256 * n + b.toNat) 0 id

/-- The text of an encoded string of any type, given in hexadecimal. -/
def decodeHex (digits : List Char) : Option (List Char) := do
  match ← Hex.decode? digits with
  | [] => none
  | _ :: rest => return Utf8.decodeLossy (← content? rest)

/-- The value that a trimmed piece of text stands for. -/
def decodeValue : List Char → Option (List Char)
  | '#' :: digits => decodeHex digits
  | raw => unescape raw

/-- The field that a key names, in any ASCII case and with blanks around it. -/
def Field.ofKey? (key : List Char) : Option Field :=
  match String.ofList ((Text.trim key).map Text.toCapital) with
  | "CN" | "2.5.4.3" => some .commonName
  | "O" | "2.5.4.10" => some .organization
  | "C" | "2.5.4.6" => some .country
  | "ST" | "2.5.4.8" => some .state
  | "L" | "2.5.4.7" => some .locality
  | "E" | "EMAIL" | "EMAILADDRESS" | "1.2.840.113549.1.9.1" => some .email
  | _ => none

/-- A key and its raw value, cut at the first equals sign; other parts say nothing. -/
def keyValue? (part : List Char) : Option (List Char × List Char) :=
  match part.dropWhile (· ≠ '=') with
  | [] => none
  | _ :: raw => some (part.takeWhile (· ≠ '='), raw)

/-- Enter one part into the fields. The value of an unknown key must be readable as well. -/
def enter (n : DistinguishedName) (part : List Char) : Except NameError DistinguishedName :=
  match keyValue? part with
  | none => .ok n
  | some (key, raw) =>
      match decodeValue (Text.trim raw) with
      | none => .error (.badValue (String.ofList part))
      | some value =>
          match Field.ofKey? key with
          | none => .ok n
          | some f => .ok (n.set f (String.ofList value))

/-- Read a name such as `C=TW,O=Corp,CN=radius`. Of several attributes for a field the last one
counts, and a name without a common name is refused. -/
def parse (name : String) : Except NameError DistinguishedName := do
  let n ← (parts name.toList).foldlM enter {}
  if n.commonName = "" then .error (.noCommonName name) else .ok n

end WifiTrust.DistinguishedName
