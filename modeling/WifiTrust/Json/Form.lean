import WifiTrust.Json.Syntax

/-!
# JSON forms

How values are laid out in JSON. A record is an object with its fields as members, or the list of
its fields in their order; members with other names are ignored. A word of a fixed vocabulary is a
string, or an object with the word as its one key and `null` behind it.
-/

namespace WifiTrust

/-- A type with a JSON form. -/
class JsonForm (α : Type) where
  toJson : α → Json
  ofJson? : Json → Option α

export JsonForm (toJson ofJson?)

instance : JsonForm String := ⟨.ofString, Json.text?⟩

instance : JsonForm Bool := ⟨.bool, Json.bool?⟩

instance : JsonForm Int32 where
  toJson n := .ofInt n.toInt
  ofJson? j := do
    let i ← j.int?
    guard (-2147483648 ≤ i ∧ i ≤ 2147483647)
    return Int32.ofInt i

instance : JsonForm UInt64 where
  toJson n := .ofNat n.toNat
  ofJson? j := do
    let i ← j.int?
    guard (0 ≤ i ∧ i < 18446744073709551616)
    return UInt64.ofNat i.toNat

instance {α : Type} [JsonForm α] : JsonForm (Option α) := ⟨.ofOption toJson, Json.nullable ofJson?⟩

instance {α : Type} [JsonForm α] : JsonForm (List α) :=
  ⟨fun as => .array (as.map toJson), Json.listOf ofJson?⟩

namespace Json

/-- What a record says of a field. -/
inductive Slot where
  | given (j : Json)
  | missing
  /-- The list ends before the field. -/
  | beyond

/-- The fields of a record by name. A member for a field may come only once, every key must have a
text, and a list may not be longer than the record. -/
def slots? (names : List String) : Json → Option (String → Slot)
  | .object members => do
      let named ← members.mapM fun (key, j) => do
        return (String.ofList (← Literal.decode? key), j)
      guard (names.all fun name => named.countP (·.1 = name) ≤ 1)
      return fun name =>
        match named.find? (·.1 = name) with
        | some (_, j) => .given j
        | none => .missing
  | .array items =>
      if items.length ≤ names.length then
        some fun name =>
          match items[names.idxOf name]? with
          | some j => .given j
          | none => .beyond
      else none
  | _ => none

variable {α : Type} [JsonForm α]

def Slot.required : Slot → Option α
  | .given j => ofJson? j
  | _ => none

def Slot.orElse (default : α) : Slot → Option α
  | .given j => ofJson? j
  | _ => some default

/-- A field that an object may leave out, but not a list. -/
def Slot.optional : Slot → Option (Option α)
  | .given j => ofJson? j
  | .missing => some none
  | .beyond => none

def word? {β : Type} (vocabulary : List β) (name : β → String) : Json → Option β
  | .string literal => do
      let text ← Literal.decode? literal
      vocabulary.find? fun w => (name w).toList = text
  | .object [(key, .null)] => do
      let text ← Literal.decode? key
      vocabulary.find? fun w => (name w).toList = text
  | _ => none

end Json

end WifiTrust
