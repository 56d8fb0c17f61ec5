import WifiTrust.Proofs.Name.Refusal

/-!
# Names that are written

Attributes are written as `key=value` between commas and plus signs. What has a meaning in a value is
escaped, and blanks may stand around keys and values. Main statement: reading recovers, for each
field, the value of the last attribute for it, unless there is no common name among them.
-/

namespace WifiTrust.DistinguishedName

def Field.words : Field → List String
  | commonName => ["CN", "2.5.4.3"]
  | organization => ["O", "2.5.4.10"]
  | country => ["C", "2.5.4.6"]
  | state => ["ST", "2.5.4.8"]
  | locality => ["L", "2.5.4.7"]
  | email => ["E", "EMAIL", "EMAILADDRESS", "1.2.840.113549.1.9.1"]

theorem Field.ofKey?_eq_some_iff {key : List Char} {f : Field} : ofKey? key = some f ↔
    String.ofList ((Text.trim key).map Text.toCapital) ∈ f.words := by
  unfold ofKey?
  generalize String.ofList ((Text.trim key).map Text.toCapital) = word
  split
  all_goals cases f <;> simp_all [words]

/-- An attribute: the value may hold everything but a blank at its end, the key nothing that cuts or
escapes. -/
structure Attribute where
  key : String
  value : String
  key_plain : IsKey key.toList
  value_ends : ∀ c ∈ value.toList.getLast?, Text.isBlank c = false

/-- The key names the field, with blanks around it and in any ASCII case. -/
def Attribute.Names (a : Attribute) (f : Field) : Prop :=
  String.ofList ((Text.trim a.key.toList).map Text.toCapital) ∈ f.words

instance (a : Attribute) (f : Field) : Decidable (a.Names f) :=
  List.instDecidableMemOfLawfulBEq _ _

def escaped (c : Char) : List Char := if c = ',' ∨ c = '+' ∨ c = '\\' then ['\\', c] else [c]

/-- The first character of a value as it is written: here a number sign and a blank have a meaning
as well. -/
def escapedFirst (c : Char) : List Char :=
  if c = '#' ∨ Text.isBlank c = true then ['\\', c] else escaped c

def escapeValue : List Char → List Char
  | [] => []
  | c :: cs => escapedFirst c ++ cs.flatMap escaped

section Values

theorem escaped_cases (c : Char) :
    escaped c = ['\\', c] ∨ escaped c = [c] ∧ ¬(c = ',' ∨ c = '+') ∧ c ≠ '\\' := by
  unfold escaped
  split
  · exact .inl rfl
  · next hc => exact .inr ⟨rfl, fun h => hc (h.imp id .inl), fun h => hc (.inr (.inr h))⟩

theorem escapedFirst_cases (c : Char) : escapedFirst c = ['\\', c] ∨ escapedFirst c = [c] ∧
    (¬(c = ',' ∨ c = '+') ∧ c ≠ '\\') ∧ c ≠ '#' ∧ Text.isBlank c = false := by
  unfold escapedFirst
  split
  · exact .inl rfl
  · next hc =>
      have hfirst : c ≠ '#' ∧ Text.isBlank c = false := by simpa using hc
      exact (escaped_cases c).imp id fun h => ⟨h.1, h.2, hfirst⟩

theorem unescape_cons {c : Char} (literal : c ≠ '\\') (cs : List Char) :
    unescape (c :: cs) = (unescape cs).map (c :: ·) :=
  unescape.eq_4 c cs (fun h => absurd h literal) fun _ _ h => absurd h literal

theorem unescape_flatMap_escaped (cs : List Char) : unescape (cs.flatMap escaped) = some cs := by
  induction cs with
  | nil => rfl
  | cons c cs ih =>
      rw [List.flatMap_cons]
      rcases escaped_cases c with h | ⟨h, -, literal⟩
      · rw [h, List.cons_append, List.singleton_append, unescape, ih]
        rfl
      · rw [h, List.singleton_append, unescape_cons literal, ih]
        rfl

theorem isPiece_flatMap_escaped (cs : List Char) : IsPiece (cs.flatMap escaped) := by
  induction cs with
  | nil => exact .nil
  | cons c cs ih =>
      rw [List.flatMap_cons]
      rcases escaped_cases c with h | ⟨h, inside, literal⟩
      · rw [h]
        exact .escape c ih
      · rw [h]
        exact .plain inside literal ih

theorem unescape_escapeValue (v : List Char) : unescape (escapeValue v) = some v := by
  cases v with
  | nil => rfl
  | cons c cs =>
      rw [escapeValue]
      rcases escapedFirst_cases c with h | ⟨h, ⟨-, literal⟩, -⟩
      · rw [h, List.cons_append, List.singleton_append, unescape, unescape_flatMap_escaped]
        rfl
      · rw [h, List.singleton_append, unescape_cons literal, unescape_flatMap_escaped]
        rfl

theorem isPiece_escapeValue (v : List Char) : IsPiece (escapeValue v) := by
  cases v with
  | nil => exact .nil
  | cons c cs =>
      rw [escapeValue]
      rcases escapedFirst_cases c with h | ⟨h, ⟨inside, literal⟩, -⟩
      · rw [h]
        exact .escape c (isPiece_flatMap_escaped cs)
      · rw [h]
        exact .plain inside literal (isPiece_flatMap_escaped cs)

theorem head_escapeValue (v : List Char) :
    ∀ c ∈ (escapeValue v).head?, c ≠ '#' ∧ Text.isBlank c = false := by
  cases v with
  | nil => exact nofun
  | cons c cs =>
      rw [escapeValue]
      rcases escapedFirst_cases c with h | ⟨h, -, hfirst⟩
      · rw [h]
        rintro _ ⟨⟩
        decide
      · rw [h]
        rintro _ ⟨⟩
        exact hfirst

theorem getLast?_flatMap_escaped (cs : List Char) :
    (cs.flatMap escaped).getLast? = cs.getLast? := by
  induction cs with
  | nil => rfl
  | cons c cs ih =>
      rw [List.flatMap_cons, List.getLast?_append, ih, List.getLast?_cons]
      rcases escaped_cases c with h | ⟨h, -⟩
      · rw [h]
        cases cs.getLast? <;> rfl
      · rw [h]
        cases cs.getLast? <;> rfl

theorem getLast?_escapeValue (v : List Char) : (escapeValue v).getLast? = v.getLast? := by
  cases v with
  | nil => rfl
  | cons c cs =>
      rw [escapeValue, List.getLast?_append, getLast?_flatMap_escaped, List.getLast?_cons]
      rcases escapedFirst_cases c with h | ⟨h, -⟩
      · rw [h]
        cases cs.getLast? <;> rfl
      · rw [h]
        cases cs.getLast? <;> rfl

end Values

abbrev Blanks := { cs : List Char // ∀ c ∈ cs, Text.isBlank c = true }

/-- An attribute as it is written, with the separator behind it if another one follows. -/
structure WrittenAttribute extends Attribute where
  beforeKey : Blanks
  afterKey : Blanks
  beforeValue : Blanks
  afterValue : Blanks
  separator : { c : Char // c = ',' ∨ c = '+' }

namespace WrittenAttribute

def left (a : WrittenAttribute) : List Char := a.beforeKey.1 ++ a.key.toList ++ a.afterKey.1

def right (a : WrittenAttribute) : List Char :=
  a.beforeValue.1 ++ escapeValue a.value.toList ++ a.afterValue.1

def text (a : WrittenAttribute) : List Char := a.left ++ '=' :: a.right

theorem trim_left (a : WrittenAttribute) : Text.trim a.left = Text.trim a.key.toList := by
  rw [left, Text.trim_append_blanks a.afterKey.2, Text.trim_blanks_append a.beforeKey.2]

theorem trim_right (a : WrittenAttribute) : Text.trim a.right = escapeValue a.value.toList := by
  rw [right, Text.trim_append_blanks a.afterValue.2, Text.trim_blanks_append a.beforeValue.2]
  refine Text.trim_of_visible (fun c hc => (head_escapeValue _ c hc).2) ?_
  rw [getLast?_escapeValue]
  exact a.value_ends

theorem decodeValue_right (a : WrittenAttribute) :
    decodeValue (Text.trim a.right) = some a.value.toList := by
  rw [trim_right, decodeValue_of_not_hex fun h => (head_escapeValue _ '#' h).1 rfl]
  exact unescape_escapeValue _

theorem isKey_left (a : WrittenAttribute) : IsKey a.left := by
  have hblanks (blanks : Blanks) : IsKey blanks.1 := fun c hc =>
    ⟨by rintro rfl; exact absurd (blanks.2 _ hc) (by decide), plain_of_blank blanks.2 c hc⟩
  exact ((hblanks a.beforeKey).append a.key_plain).append (hblanks a.afterKey)

theorem isPiece_text (a : WrittenAttribute) : IsPiece a.text := by
  have hright : IsPiece a.right :=
    ((IsPiece.of_plain (plain_of_blank a.beforeValue.2)).append (isPiece_escapeValue _)).append
      (IsPiece.of_plain (plain_of_blank a.afterValue.2))
  exact (IsPiece.of_plain a.isKey_left.plain).append (.plain (by decide) (by decide) hright)

/-- A written attribute can be read, and it gives its value to the field that its key names. -/
theorem given?_text (a : WrittenAttribute) (f : Field) :
    given? f a.text = if a.Names f then some a.value.toList else none := by
  have hnames : Field.ofKey? a.left = some f ↔ a.Names f := by
    rw [Field.ofKey?_eq_some_iff, trim_left]
    rfl
  simp only [text, given?_attribute f a.isKey_left.not_mem, decodeValue_right, hnames]

theorem readable_text (a : WrittenAttribute) : ¬Unreadable a.text := by
  rintro ⟨key, raw, hkv, hnone⟩
  rw [text, keyValue?_attribute a.isKey_left.not_mem] at hkv
  cases hkv
  rw [decodeValue_right] at hnone
  cases hnone

end WrittenAttribute

def join : List WrittenAttribute → List Char
  | [] => []
  | [a] => a.text
  | a :: b :: as => a.text ++ a.separator.1 :: join (b :: as)

def written (as : List WrittenAttribute) : String := String.ofList (join as)

def lastValue? (f : Field) (as : List WrittenAttribute) : Option String :=
  (as.filter (·.Names f)).getLast?.map (·.value)

section Join

theorem cut_append {s : List Char} (h : IsPiece s) (t : List Char) :
    cut (s ++ t) = (s ++ (cut t).1, (cut t).2) := by
  induction h with
  | nil => rfl
  | @escape c cs _ ih =>
      change (['\\', c] ++ (cut (cs ++ t)).1, (cut (cs ++ t)).2) = _
      rw [ih]
      rfl
  | plain inside literal _ ih =>
      rw [List.cons_append, cut_other inside literal, ih]
      rfl

theorem pieces_join (a : WrittenAttribute) (as : List WrittenAttribute) :
    pieces (join (a :: as)) = (a :: as).map (·.text) := by
  induction as generalizing a with
  | nil =>
      have hcut := cut_append a.isPiece_text []
      rw [List.append_nil] at hcut
      rw [join, pieces, hcut]
      simp [cut]
  | cons b as ih =>
      rw [join, pieces, cut_append a.isPiece_text, cut_separator a.separator.2, List.map_cons, ← ih b]
      simp [pieces]

theorem given_join (f : Field) (as : List WrittenAttribute) :
    given f (join as) = (as.filter (·.Names f)).map (·.value.toList) := by
  have hall (as : List WrittenAttribute) : (as.map (·.text)).filterMap (given? f) =
      (as.filter (·.Names f)).map (·.value.toList) := by
    induction as with
    | nil => rfl
    | cons a as ih =>
        rw [List.map_cons, List.filterMap_cons, a.given?_text, ih]
        by_cases hnames : a.Names f <;> simp [hnames]
  cases as with
  | nil => rfl
  | cons a as => rw [given, pieces_join, hall]

theorem readable_join {as : List WrittenAttribute} {p : List Char} (hp : p ∈ parts (join as)) :
    ¬Unreadable p := by
  cases as with
  | nil => cases hp
  | cons a as =>
      have hmem := mem_pieces_of_mem_parts hp
      rw [pieces_join] at hmem
      obtain ⟨b, -, rfl⟩ := List.mem_map.1 hmem
      exact b.readable_text

end Join

/-- Reading recovers what was written. A name in which attributes stand one after the other, with
blanks and separators as one likes, is read exactly if the last of them for the common name has a
value that is not empty, and then each field has the value of the last attribute for it or is empty
if there is none. -/
theorem parse_written (as : List WrittenAttribute) :
    ((∃ n, parse (written as) = .ok n) ↔ ∃ v, lastValue? .commonName as = some v ∧ v ≠ "") ∧
      ∀ n, parse (written as) = .ok n → ∀ f, n.get f = (lastValue? f as).getD "" := by
  have hjoin : (written as).toList = join as := String.toList_ofList
  have readable : ∀ p ∈ parts (written as).toList, ¬Unreadable p :=
    fun p hp => readable_join (hjoin ▸ hp)
  obtain ⟨n, hfields, hparse⟩ := parse_of_readable readable
  have hlast (f : Field) : n.get f = (lastValue? f as).getD "" := by
    rw [hfields, hjoin, given_join, lastValue?, List.getLast?_map, Option.map_map]
    simp [Function.comp_def]
  have hname : n.commonName = (lastValue? .commonName as).getD "" := hlast .commonName
  rw [hparse, hname]
  cases lastValue? .commonName as with
  | none => simp
  | some v =>
      by_cases hv : v = ""
      · simp [hv]
      · simpa [hv] using hlast

private theorem visible_end {o : Option Char} (h : o.all (!Text.isBlank ·) = true) :
    ∀ c ∈ o, Text.isBlank c = false := by simpa [Option.all_eq_true] using h

/-- A server that has been renamed. Its organization and its new name need escapes. -/
def renamed : List WrittenAttribute :=
  let bare : Blanks := ⟨[], nofun⟩
  let space : Blanks := ⟨[' '], List.forall_mem_singleton.2 rfl⟩
  [⟨⟨"cn", "old", by decide, visible_end (by decide)⟩, bare, space, bare, bare, '+', .inr rfl⟩,
    ⟨⟨"O", "#1, Corp+", by decide, visible_end (by decide)⟩, bare, bare, bare, bare, ',', .inl rfl⟩,
    ⟨⟨"2.5.4.3", " radius", by decide, visible_end (by decide)⟩, bare, bare, space, bare, ',',
      .inl rfl⟩]

theorem parse_renamed :
    ∃ n, written renamed = "cn =old+O=\\#1\\, Corp\\+,2.5.4.3= \\ radius" ∧
      parse (written renamed) = .ok n ∧ n.commonName = " radius" ∧ n.organization = "#1, Corp+" ∧
      n.country = "" := by
  obtain ⟨hreads, hfields⟩ := parse_written renamed
  obtain ⟨n, hn⟩ := hreads.2 ⟨" radius", by decide +kernel, by decide⟩
  refine ⟨n, by decide +kernel, hn, ?_, ?_, ?_⟩
  · exact (hfields n hn .commonName).trans (by decide +kernel)
  · exact (hfields n hn .organization).trans (by decide +kernel)
  · exact (hfields n hn .country).trans (by decide +kernel)

end WifiTrust.DistinguishedName
