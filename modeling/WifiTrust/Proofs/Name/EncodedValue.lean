import WifiTrust.Proofs.Bytes.Hex
import WifiTrust.Proofs.Name.Length

/-!
# Encoded values

A value may be an encoded string in hexadecimal: a tag, a length in one of several forms, and the
content. Main statement: such a value is read exactly if its length has one of the forms and its
content is there, and reading it takes no byte that is missing and loses no bit of the length.
-/

namespace WifiTrust.DistinguishedName

section Machine

inductive Fault where
  /-- A bit is shifted out of a word. -/
  | lostBit
  | missingByte
  deriving DecidableEq, Repr

def shiftIn {width : Nat} (word : BitVec width) (b : UInt8) : Except Fault (BitVec width) :=
  if word.toNat < 2 ^ (width - 8) then .ok (word <<< 8 ||| b.toBitVec.setWidth width)
  else .error .lostBit

def splitBytes (n : Nat) (bs : Bytes) : Except Fault (Bytes × Bytes) :=
  if n ≤ bs.length then .ok (bs.take n, bs.drop n) else .error .missingByte

/-- The content behind a length byte on a machine with words of so many bits, which stops at a
fault. -/
def contentInWords (width : Nat) : Bytes → Except Fault (Option Bytes) :=
  contentBy splitBytes shiftIn (0 : BitVec width) BitVec.toNat

variable {width : Nat}

theorem shiftIn_of_room {word : BitVec width} {k : Nat} (small : word.toNat < 256 ^ k)
    (room : 8 * (k + 1) ≤ width) (b : UInt8) :
    ∃ word', shiftIn word b = .ok word' ∧ word'.toNat = 256 * word.toNat + b.toNat := by
  have hb : b.toNat < 2 ^ 8 := b.toNat_lt
  have hbits : 256 ^ k = 2 ^ (8 * k) := by rw [Nat.pow_mul]
  have hroom : 2 ^ (8 * k) ≤ 2 ^ (width - 8) := Nat.pow_le_pow_right (by decide) (by omega)
  have hwidth : 2 ^ (width - 8) * 2 ^ 8 = 2 ^ width := by
    rw [← Nat.pow_add]
    congr 1
    omega
  have hbyte : (2 : Nat) ^ 8 ≤ 2 ^ width := Nat.pow_le_pow_right (by decide) (by omega)
  refine ⟨_, if_pos (by omega), ?_⟩
  rw [BitVec.toNat_or, BitVec.toNat_shiftLeft, BitVec.toNat_setWidth, UInt8.toNat_toBitVec,
    Nat.mod_eq_of_lt (by omega : b.toNat < 2 ^ width), Nat.mod_eq_of_lt ?_,
    ← Nat.shiftLeft_add_eq_or_of_lt hb, Nat.shiftLeft_eq, Nat.mul_comm]
  rw [Nat.shiftLeft_eq]
  omega

theorem foldlM_shiftIn {octets : Bytes} {word : BitVec width} {k : Nat}
    (small : word.toNat < 256 ^ k) (room : 8 * (k + octets.length) ≤ width) :
    ∃ word', octets.foldlM shiftIn word = .ok word' ∧
      word'.toNat = octets.foldl (fun n b => 256 * n + b.toNat) word.toNat := by
  induction octets generalizing word k with
  | nil => exact ⟨word, rfl, rfl⟩
  | cons b octets ih =>
      rw [List.length_cons] at room
      obtain ⟨next, hnext, hvalue⟩ := shiftIn_of_room small (by omega) b
      have hb := b.toNat_lt
      have hsmall : next.toNat < 256 ^ (k + 1) := by
        rw [hvalue, Nat.pow_succ]
        omega
      obtain ⟨word', hword, hnumber⟩ := ih hsmall (by omega)
      refine ⟨word', ?_, ?_⟩
      · rw [List.foldlM_cons, hnext]
        exact hword
      · rw [List.foldl_cons, hnumber, hvalue]

theorem foldlM_shiftIn_zero (wide : 32 ≤ width) {octets : Bytes} (narrow : octets.length ≤ 4) :
    ∃ word, octets.foldlM shiftIn (0 : BitVec width) = .ok word ∧
      word.toNat = Der.natural octets := by
  have small : (0 : BitVec width).toNat < 256 ^ 0 := by simp
  exact foldlM_shiftIn small (by omega)

theorem front?_splitBytes (length : Nat) (body : Bytes) : front? splitBytes length body =
    .ok (if length ≤ body.length then some (body.take length) else none) := by
  unfold front? splitBytes
  split
  · rfl
  · rfl

/-- In words of 32 bits or more no bit of a length is lost, and no byte is taken that is missing. -/
theorem contentInWords_eq (wide : 32 ≤ width) (bs : Bytes) :
    contentInWords width bs = .ok (content? bs) := by
  cases bs with
  | nil => rfl
  | cons first rest =>
      obtain ⟨hshort, hcount⟩ := masks_of_byte first
      rw [contentInWords, contentBy, content?_cons]
      by_cases small : first.toNat < 0x80
      · rw [if_pos small, if_pos (hshort.2 small), front?_splitBytes]
      · rw [if_neg small, if_neg fun h => small (hshort.1 h)]
        dsimp only
        rw [hcount (by omega)]
        split
        · rfl
        · next counted =>
            have hlength : (rest.take (first.toNat - 0x80)).length = first.toNat - 0x80 :=
              List.length_take_of_le (by omega)
            have hsplit : splitBytes (first.toNat - 0x80) rest =
                .ok (rest.take (first.toNat - 0x80), rest.drop (first.toNat - 0x80)) :=
              if_pos (by omega)
            rw [hsplit]
            generalize rest.take (first.toNat - 0x80) = octets at hlength ⊢
            generalize rest.drop (first.toNat - 0x80) = body
            obtain ⟨word, hword, hnumber⟩ := foldlM_shiftIn_zero wide (by omega : octets.length ≤ 4)
            simp only [bind, Except.bind, hword, front?_splitBytes, hnumber]

end Machine

section Hexadecimal

variable {tag : UInt8} {content len : Bytes} {digits v : List Char}

theorem decodeHex_eq_some_iff : decodeHex digits = some v ↔
    ∃ tag rest content, Hex.Spells digits (tag :: rest) ∧ content? rest = some content ∧
      Utf8.decodeLossy content = v := by
  unfold decodeHex
  cases hread : Hex.decode? digits with
  | none =>
      refine ⟨nofun, ?_⟩
      rintro ⟨tag, rest, content, hspells, -⟩
      rw [Hex.decode?_eq_some_iff.2 hspells] at hread
      cases hread
  | some bs =>
      have hspells := Hex.decode?_eq_some_iff.1 hread
      cases bs with
      | nil =>
          refine ⟨nofun, ?_⟩
          rintro ⟨tag, rest, content, hspells', -⟩
          cases hspells.unique hspells'
      | cons tag rest =>
          change (content? rest).bind (fun content => some (Utf8.decodeLossy content)) = some v ↔ _
          rw [Option.bind_eq_some_iff]
          constructor
          · rintro ⟨content, hcontent, hv⟩
            exact ⟨tag, rest, content, hspells, hcontent, Option.some.inj hv⟩
          · rintro ⟨tag', rest', content, hspells', hcontent, hv⟩
            cases hspells.unique hspells'
            exact ⟨content, hcontent, congrArg some hv⟩

theorem decodeHex_truncated (form : LengthForm content.length len)
    (spells : Hex.Spells digits (tag :: (len ++ content))) {k : Nat} (short : k < digits.length) :
    decodeHex (digits.take k) = none := by
  refine Option.eq_none_iff_forall_ne_some.2 fun v hv => ?_
  obtain ⟨tag', rest, read, hspells, hread, -⟩ := decodeHex_eq_some_iff.1 hv
  have hdigits := spells.length
  have hlength := hspells.length
  rw [List.length_take_of_le (Nat.le_of_lt short)] at hlength
  rw [hlength, List.length_cons] at hspells
  have htake : tag' :: rest = (tag :: (len ++ content)).take (rest.length + 1) :=
    hspells.unique (spells.take _)
  rw [List.take_succ_cons] at htake
  have hrest : rest = (len ++ content).take rest.length := (List.cons.inj htake).2
  have hnone : content? ((len ++ content).take rest.length) = none := by
    refine content?_truncated form ?_
    rw [List.length_cons] at hlength hdigits
    omega
  rw [← hrest, hread] at hnone
  cases hnone

theorem content?_of_unfit {first : UInt8} (unfit : first = 0x80 ∨ 0x84 < first) (rest : Bytes) :
    content? (first :: rest) = none := by
  have hcount : 0x80 ≤ first.toNat ∧ (first.toNat - 0x80 = 0 ∨ 4 < first.toNat - 0x80) := by
    rcases unfit with rfl | hmany
    · decide
    · have hlt : 0x84 < first.toNat := hmany
      omega
  rw [content?_cons, if_neg (by omega)]
  exact if_pos (or_assoc.1 (.inl hcount.2))

/-- Encoded values in hexadecimal are read exactly. A text is read from its bytes behind any form of
their number, in digits of either case and whatever follows, and every number of bytes below `2 ^ 32`
has a form. Nothing else is read: no value that is cut short in a byte or between two, no length
without an end and none of more than four bytes. On a machine with words of 32 bits or more no bit of
the length is lost and no byte is taken that is missing, whatever the input. -/
theorem encoded_values_exact :
    (∀ (tag : UInt8) (s : List Char) (len rest : Bytes) (digits : List Char),
      LengthForm (Utf8.encode s).length len →
      Hex.Spells digits (tag :: (len ++ (Utf8.encode s ++ rest))) → decodeHex digits = some s) ∧
    (∀ n, (∃ len, LengthForm n len) ↔ n < 2 ^ 32) ∧
    (∀ digits v, decodeHex digits = some v ↔ ∃ tag len content rest,
      Hex.Spells digits (tag :: (len ++ (content ++ rest))) ∧
        LengthForm content.length len ∧ Utf8.decodeLossy content = v) ∧
    (∀ (tag : UInt8) (content len : Bytes) (digits : List Char) (k : Nat),
      LengthForm content.length len → Hex.Spells digits (tag :: (len ++ content)) →
      k < digits.length → decodeHex (digits.take k) = none) ∧
    (∀ (tag first : UInt8) (rest : Bytes) (digits : List Char), first = 0x80 ∨ 0x84 < first →
      Hex.Spells digits (tag :: first :: rest) → decodeHex digits = none) ∧
    ∀ width, 32 ≤ width → ∀ bs, contentInWords width bs = .ok (content? bs) := by
  refine ⟨fun tag s len rest digits form spells => ?_, fun n => exists_lengthForm_iff,
    fun digits v => ?_, fun tag content len digits k form spells short => ?_,
    fun tag first rest digits unfit spells => ?_, fun width wide bs => contentInWords_eq wide bs⟩
  · exact decodeHex_eq_some_iff.2
      ⟨tag, _, _, spells, content?_of_form form rest, Utf8.decodeLossy_encode s⟩
  · rw [decodeHex_eq_some_iff]
    constructor
    · rintro ⟨tag, bytes, content, hspells, hcontent, hv⟩
      obtain ⟨len, rest, rfl, form⟩ := content?_eq_some_iff.1 hcontent
      exact ⟨tag, len, content, rest, hspells, form, hv⟩
    · rintro ⟨tag, len, content, rest, hspells, form, hv⟩
      exact ⟨tag, _, content, hspells, content?_eq_some_iff.2 ⟨len, rest, rfl, form⟩, hv⟩
  · exact decodeHex_truncated form spells short
  · refine Option.eq_none_iff_forall_ne_some.2 fun v hv => ?_
    obtain ⟨tag', bytes, content, hspells, hcontent, -⟩ := decodeHex_eq_some_iff.1 hv
    cases spells.unique hspells
    rw [content?_of_unfit unfit] at hcontent
    cases hcontent

/-- A letter of two bytes behind a length with a zero in front, in mixed digits and with a byte after
it. One digit less of it is not read. -/
theorem padded_length_read :
    LengthForm 2 [0x82, 0, 2] ∧
      decodeHex "0C820002c3A9ff".toList = some ['é'] ∧
      decodeHex ("0C820002c3A9".toList.take 11) = none ∧
      decodeHex "0c80c3a90000".toList = none ∧
      contentInWords 64 [0x82, 0, 2, 0xc3] = .ok none := by
  obtain ⟨written, -, -, truncated, unfit, machine⟩ := encoded_values_exact
  have form : LengthForm (Utf8.encode ['é']).length [0x82, 0, 2] :=
    .long (by decide : 1 ≤ 2) (by decide) (by decide)
  have missing : content? [0x82, 0, 2, 0xc3] = none := by decide
  exact ⟨form, written 0x0C ['é'] _ [0xff] _ form (by decide),
    truncated 0x0C _ _ _ 11 form (by decide) (by decide),
    unfit 0x0C 0x80 [0xc3, 0xa9, 0, 0] _ (.inl rfl) (by decide), missing ▸ machine 64 (by decide) _⟩

end Hexadecimal

end WifiTrust.DistinguishedName
