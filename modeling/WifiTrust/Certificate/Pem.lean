import WifiTrust.Bytes.Base64
import WifiTrust.Bytes.Utf8
import WifiTrust.Text.Blank
import WifiTrust.Text.Pieces

/-!
# Armoured blocks

Text blocks between a `BEGIN` and an `END` line. A block has a tag, optional header lines and a
payload in base64. Everything outside the blocks is ignored.
-/

namespace WifiTrust.Pem

inductive Error where
  | notText
  | missingBeginTag
  | missingEndTag
  | mismatchedTags (first last : String)
  | badPayload
  /-- A header line without a colon. -/
  | badHeader (line : String)
  deriving DecidableEq, Repr

/-- The reason in words. -/
def Error.message : Error → String
  | notText => "invalid utf-8 value"
  | missingBeginTag => "missing BEGIN tag"
  | missingEndTag => "missing END tag"
  | mismatchedTags first last =>
      "mismatching BEGIN (\"" ++ first ++ "\") and END (\"" ++ last ++ "\") tags"
  | badPayload => "invalid data"
  | badHeader line => "invalid header: " ++ line

structure Block where
  tag : String
  contents : Bytes
  deriving DecidableEq, Repr

/-- The bytes before and after the marker. Matching goes byte by byte. A byte that breaks a partial
match is consumed, and the search starts over behind it. `matched` holds what is matched so far,
`want` what is still missing of the marker. -/
def searchFrom (marker matched want : Bytes) : Bytes → Option (Bytes × Bytes)
  | [] => none
  | b :: bs =>
      match want with
      | [] => none
      | w :: want =>
          if b = w then
            if want = [] then some ([], bs)
            else searchFrom marker (matched ++ [b]) want bs
          else
            (searchFrom marker [] marker bs).map fun (before, after) =>
              (matched ++ b :: before, after)

def search (marker bs : Bytes) : Option (Bytes × Bytes) := searchFrom marker [] marker bs

def ascii (s : String) : Bytes := s.toList.map fun c => UInt8.ofNat c.toNat

def skipSpace (bs : Bytes) : Bytes :=
  bs.dropWhile fun b => b == 0x20 || b == 0x09 || b == 0x0a || b == 0x0d

structure Raw where
  first : Bytes
  body : Bytes
  last : Bytes

/-- The first block and what follows it. -/
def rawBlock? (bs : Bytes) : Option (Raw × Bytes) := do
  let (_, bs) ← search (ascii "-----BEGIN ") bs
  let (first, bs) ← search (ascii "-----") bs
  let (body, bs) ← search (ascii "-----END ") (skipSpace bs)
  let (last, bs) ← search (ascii "-----") bs
  return (⟨first, body, last⟩, skipSpace bs)

/-- The blocks in order; `fuel` bounds their number. -/
def rawBlocks : Nat → Bytes → List Raw
  | 0, _ => []
  | fuel + 1, bs =>
      match rawBlock? bs with
      | none => []
      | some (raw, rest) => raw :: rawBlocks fuel rest

/-- Header lines and payload: an empty line parts them. -/
def splitHeaders (body : Bytes) : Bytes × Bytes :=
  match search (ascii "\n\n") body with
  | some parts => parts
  | none => (search (ascii "\r\n\r\n") body).getD ([], body)

private def dropReturn (line : List Char) : List Char :=
  if line.getLast? = some '\r' then line.dropLast else line

private def finishLines : List (List Char) → List (List Char)
  | [] => []
  | [last] => if last = [] then [] else [last]
  | line :: rest => dropReturn line :: finishLines rest

/-- Text as lines; a line feed ends a line, and a carriage return before it belongs to the end. -/
def lines (cs : List Char) : List (List Char) :=
  finishLines (Text.pieces '\n' cs)

def textOf (bs : Bytes) : Except Error (List Char) :=
  match Utf8.decode? bs with
  | some cs => .ok cs
  | none => .error .notText

/-- Decode a block. Tags are checked first, then the payload, then the header lines. -/
def Raw.decode (raw : Raw) : Except Error Block := do
  let first ← textOf raw.first
  if first = [] then throw .missingBeginTag
  let last ← textOf raw.last
  if last = [] then throw .missingEndTag
  if first ≠ last then throw (.mismatchedTags (String.ofList first) (String.ofList last))
  let (headers, payload) := splitHeaders raw.body
  let payload ← textOf payload
  let some contents := Base64.decode? (payload.filter fun c => !Text.isBlank c)
    | throw .badPayload
  let headers ← textOf headers
  match (lines headers).find? fun line => !line.contains ':' with
  | some line => throw (.badHeader (String.ofList line))
  | none => return ⟨String.ofList first, contents⟩

/-- Decode every block; the first that fails decides. -/
def parse (bs : Bytes) : Except Error (List Block) :=
  (rawBlocks bs.length bs).mapM Raw.decode

end WifiTrust.Pem
