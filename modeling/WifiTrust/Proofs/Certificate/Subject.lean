import WifiTrust.Proofs.Certificate.Keys
import WifiTrust.Proofs.Chain.Entries

/-!
# The subject that is shown

The fields of a chain entry are read from the written subject of its certificate. Values are written
as they are, so a field is what the certificate gives it only where no value holds a character that
cuts or escapes.
-/

namespace WifiTrust

open DistinguishedName

namespace X509

/-- An attribute as it is written if its value has a text. -/
def Attribute.text (a : Attribute) : String := keyText a.key ++ "=" ++ (valueText? a.value).getD ""

def Name.attributes (name : Name) (f : Field) : List Attribute :=
  name.flatten.filter (·.key = f.identifier)

/-- No value of the name cuts or escapes. -/
def Name.Plain (name : Name) : Prop :=
  ∀ a ∈ name.flatten, ∀ v, valueText? a.value = some v → DistinguishedName.Plain v.toList

theorem Name.plain_iff {name : Name} : name.Plain ↔
    ∀ a ∈ name.flatten, DistinguishedName.Plain ((valueText? a.value).getD "").toList := by
  refine forall₂_congr fun a _ => ?_
  cases valueText? a.value with
  | none => exact iff_of_true nofun (List.forall_mem_nil _)
  | some v => simp

instance (name : Name) : Decidable name.Plain := decidable_of_iff _ Name.plain_iff.symm

private theorem eq_map_of_mapM {α β : Type} {f : α → Option β} {g : α → β}
    (agrees : ∀ a b, f a = some b → g a = b) {as : List α} {bs : List β}
    (mapped : as.mapM f = some bs) : bs = as.map g := by
  induction as generalizing bs with
  | nil => simpa using mapped.symm
  | cons a as ih =>
      rw [List.mapM_cons] at mapped
      obtain ⟨b, hb, mapped⟩ := Option.bind_eq_some_iff.1 mapped
      obtain ⟨bs', hbs, mapped⟩ := Option.bind_eq_some_iff.1 mapped
      cases mapped
      rw [List.map_cons, agrees a b hb, ih hbs]

theorem Name.written {name : Name} {written : String} (rendered : name.render? = some written) :
    written.toList = [',', ' '].intercalate
      (name.map fun set => [' ', '+', ' '].intercalate (set.map (·.text.toList))) := by
  unfold render? at rendered
  obtain ⟨sets, hsets, rendered⟩ := Option.bind_eq_some_iff.1 rendered
  cases rendered
  have hset : sets = name.map fun set => " + ".intercalate (set.map (·.text)) := by
    refine eq_map_of_mapM (fun set s hs => ?_) hsets
    obtain ⟨texts, htexts, hs⟩ := Option.bind_eq_some_iff.1 hs
    cases hs
    rw [eq_map_of_mapM (g := Attribute.text) (fun a s ha => ?_) htexts]
    obtain ⟨v, hv, rfl⟩ := Option.map_eq_some_iff.1 ha
    simp [Attribute.text, hv]
  rw [hset, String.toList_intercalate, List.map_map]
  congr 1
  refine List.map_congr_left fun set _ => ?_
  simp [String.toList_intercalate, Function.comp_def]

section Text

variable {a : Attribute}

theorem Attribute.toList_text (a : Attribute) : a.text.toList =
    (keyText a.key).toList ++ '=' :: ((valueText? a.value).getD "").toList := by
  simp [text, String.toList_append]

theorem Attribute.attributive (a : Attribute) : Attributive a.text.toList :=
  ⟨_, _, a.toList_text, (isKey_keyText a.key).not_mem⟩

theorem Attribute.given?_text (a : Attribute) (f : Field) : given? f a.text.toList =
    if a.key = f.identifier then decodeValue (Text.trim ((valueText? a.value).getD "").toList)
    else none := by
  rw [toList_text, given?_attribute f (isKey_keyText a.key).not_mem, ofKey?_keyText]
  simp only [Field.ofIdentifier?_eq_some_iff]

theorem Attribute.plain_text (plain : Plain ((valueText? a.value).getD "").toList) :
    Plain a.text.toList := by
  rw [toList_text]
  refine List.forall_mem_append.2 ⟨(isKey_keyText a.key).plain, ?_⟩
  exact List.forall_mem_cons.2 ⟨by decide, plain⟩

end Text

theorem Name.given_written {name : Name} (plain : name.Plain) {written : String}
    (rendered : name.render? = some written) (f : Field) : given f written.toList =
      (name.attributes f).filterMap fun a =>
        decodeValue (Text.trim ((valueText? a.value).getD "").toList) := by
  have hplain : ∀ set ∈ name, ∀ s ∈ set.map (·.text.toList), DistinguishedName.Plain s := by
    intro set hset s hs
    obtain ⟨a, ha, rfl⟩ := List.mem_map.1 hs
    exact a.plain_text (Name.plain_iff.1 plain a (List.mem_flatten_of_mem hset ha))
  have hset : ∀ set ∈ name, given f ([' ', '+', ' '].intercalate (set.map (·.text.toList))) =
      set.filterMap fun a => given? f a.text.toList := by
    intro set hset
    rw [given_pluses f (hplain set hset), List.filterMap_map]
    · rfl
    · intro s hs
      obtain ⟨a, -, rfl⟩ := List.mem_map.1 hs
      exact a.attributive
  have hunescaped : ∀ s ∈ name.map fun set => [' ', '+', ' '].intercalate
      (set.map (·.text.toList)), '\\' ∉ s := by
    intro s hs
    obtain ⟨set, hset, rfl⟩ := List.mem_map.1 hs
    have hliteral : ∀ c ∈ [' ', '+', ' '].intercalate (set.map (·.text.toList)), c ≠ '\\' :=
      forall_mem_intercalate (by simp) fun s hs c hc => (hplain set hset s hs c hc).2
    exact fun h => hliteral _ h rfl
  rw [Name.written rendered, given_commas f hunescaped, List.flatMap_map, Name.attributes,
    List.filterMap_filter]
  calc name.flatMap (fun set => given f ([' ', '+', ' '].intercalate (set.map (·.text.toList))))
      = name.flatMap fun set => set.filterMap fun a => given? f a.text.toList := by
        exact congrArg List.flatten (List.map_congr_left hset)
    _ = name.flatten.filterMap fun a => given? f a.text.toList := by
        rw [List.filterMap_flatten, List.flatMap_def]
    _ = _ := by
        simp only [Attribute.given?_text, decide_eq_true_eq]

theorem Name.render?_of_parse {name : Name} {n : DistinguishedName}
    (parsed : DistinguishedName.parse name.render = .ok n) :
    ∃ written, name.render? = some written ∧ name.render = written := by
  unfold render at parsed ⊢
  cases hwritten : name.render? with
  | some written => exact ⟨written, rfl, rfl⟩
  | none =>
      rw [hwritten] at parsed
      cases parsed

/-- The last attribute for a field is what a plain name says of it, unless its value is in
hexadecimal or stands between blanks. -/
theorem Name.getLast?_given {name : Name} (plain : name.Plain) {written : String}
    (rendered : name.render? = some written) {f : Field} {a : Attribute} {v : String}
    (last : (name.attributes f).getLast? = some a) (text : valueText? a.value = some v)
    (trimmed : Text.trim v.toList = v.toList) (literal : v.toList.head? ≠ some '#') :
    (given f written.toList).getLast? = some v.toList := by
  obtain ⟨front, hfront⟩ := List.getLast?_eq_some_iff.1 last
  have hmem : a ∈ name.attributes f := by
    rw [hfront]
    exact List.mem_concat_self
  have hplain := plain a (List.mem_filter.1 hmem).1 v text
  rw [given_written plain rendered, hfront, List.filterMap_append]
  have hvalue : decodeValue (Text.trim ((valueText? a.value).getD "").toList) = some v.toList := by
    rw [text, Option.getD_some, trimmed]
    exact decodeValue_of_plain hplain literal
  simp [hvalue]

end X509

theorem Certificate.subject_of_decode {der : Bytes} {parts : X509.Parts} {c : Certificate}
    (decoded : X509.decode? der = some parts) (read : ofDer? der = some c) :
    c.subject = parts.subject.render := by
  unfold ofDer? at read
  rw [decoded] at read
  cases read
  rfl

namespace Chain

section Stored

variable {der : Bytes} {parts : X509.Parts} {c : Certificate} {chain chain' : Chain} {depth : Nat}

theorem entry_of_stored (decoded : X509.decode? der = some parts)
    (read : Certificate.ofDer? der = some c)
    (stored : chain.insert depth c = (.ok .stored, chain')) :
    ∃ entry, chain'.get? depth = some entry ∧ entry.certificate = c ∧
      parse parts.subject.render = .ok entry.subject := by
  obtain ⟨entry, hentry, ⟨hoccupied, -⟩ | ⟨-, hfree, -⟩⟩ := insert_eq_ok_iff.1 stored
  · cases hoccupied
  · obtain ⟨-, hcertificate, hsubject, -⟩ := ChainEntry.ofCertificate_eq_ok_iff.1 hentry
    rw [Certificate.subject_of_decode decoded read] at hsubject
    refine ⟨entry, ?_, hcertificate, hsubject⟩
    rw [get?_of_insert stored hentry, if_pos rfl, hfree]
    rfl

/-- The fields that are stored of a certificate are the last ones that its written subject gives.
Where no value of the subject cuts or escapes, they are the values of its last attributes, unless
these are in hexadecimal or stand between blanks. -/
theorem stored_subject (decoded : X509.decode? der = some parts)
    (read : Certificate.ofDer? der = some c)
    (stored : chain.insert depth c = (.ok .stored, chain')) :
    ∃ entry, chain'.get? depth = some entry ∧ entry.certificate = c ∧
      (∀ f, entry.subject.get f =
        ((given f parts.subject.render.toList).getLast?.map String.ofList).getD "") ∧
      (parts.subject.Plain → ∀ f,
        (parts.subject.attributes f = [] → entry.subject.get f = "") ∧
        ∀ a v, (parts.subject.attributes f).getLast? = some a → X509.valueText? a.value = some v →
          Text.trim v.toList = v.toList → v.toList.head? ≠ some '#' → entry.subject.get f = v) := by
  obtain ⟨entry, hat, hcertificate, hsubject⟩ := entry_of_stored decoded read stored
  obtain ⟨written, hwritten, hrender⟩ := X509.Name.render?_of_parse hsubject
  obtain ⟨-, hget⟩ := get_of_parse hsubject
  refine ⟨entry, hat, hcertificate, hget, fun plain f => ⟨fun hnone => ?_, ?_⟩⟩
  · rw [hget, hrender, X509.Name.given_written plain hwritten, hnone]
    rfl
  · intro a v last text trimmed literal
    rw [hget, hrender, X509.Name.getLast?_given plain hwritten last text trimmed literal]
    exact String.ofList_toList

theorem exists_stored (decoded : X509.decode? der = some parts)
    (readable : (parse parts.subject.render).toOption.isSome ∧
      (parse parts.issuer.render).toOption.isSome) :
    ∃ c chain, Certificate.ofDer? der = some c ∧ empty.insert 0 c = (.ok .stored, chain) := by
  obtain ⟨c, hread, hsubject, hissuer⟩ : ∃ c, Certificate.ofDer? der = some c ∧
      c.subject = parts.subject.render ∧ c.issuer = parts.issuer.render := by
    unfold Certificate.ofDer?
    rw [decoded]
    exact ⟨_, rfl, rfl, rfl⟩
  rw [← hsubject, ← hissuer] at readable
  cases hs : parse c.subject with
  | error e =>
      rw [hs] at readable
      cases readable.1
  | ok subject =>
      cases hi : parse c.issuer with
      | error e =>
          rw [hi] at readable
          cases readable.2
      | ok issuer =>
          have hentry : ChainEntry.ofCertificate 0 c = .ok ⟨0, c, subject, issuer⟩ :=
            ChainEntry.ofCertificate_eq_ok_iff.2 ⟨rfl, rfl, hs, hi⟩
          have hstored := insert_eq_ok_iff.2 ⟨_, hentry, .inr ⟨rfl, get?_empty 0, rfl⟩⟩
          exact ⟨c, _, hread, hstored⟩

end Stored

end Chain

namespace Corporate

def utf8Value (value : Bytes) : Der.Element := ⟨⟨.universal, false, 12⟩, value⟩

def serverName (organization : Bytes) : X509.Name :=
  [[⟨Field.commonName.identifier, utf8Value "radius".toUTF8.toList⟩],
    [⟨Field.organization.identifier, utf8Value organization⟩]]

def issuerName : X509.Name := [[⟨Field.commonName.identifier, utf8Value "ca".toUTF8.toList⟩]]

/-- An encoded certificate of the server, with an organization of ten bytes. -/
def serverDer (organization : Bytes) : Bytes :=
  [0x30, 0x81, 0xDA, 0x30, 0x81, 0x8D, 0x02, 0x01, 0x02, 0x30, 0x05, 0x06, 0x03, 0x2B, 0x65, 0x70,
    0x30, 0x0D, 0x31, 0x0B, 0x30, 0x09, 0x06, 0x03, 0x55, 0x04, 0x03, 0x0C, 0x02, 0x63, 0x61, 0x30,
    0x1E, 0x17, 0x0D, 0x32, 0x36, 0x31, 0x31, 0x32, 0x30, 0x30, 0x32, 0x34, 0x31, 0x31, 0x32, 0x5A,
    0x17, 0x0D, 0x33, 0x36, 0x31, 0x31, 0x31, 0x37, 0x30, 0x32, 0x34, 0x31, 0x31, 0x32, 0x5A, 0x30,
    0x26, 0x31, 0x0F, 0x30, 0x0D, 0x06, 0x03, 0x55, 0x04, 0x03, 0x0C, 0x06, 0x72, 0x61, 0x64, 0x69,
    0x75, 0x73, 0x31, 0x13, 0x30, 0x11, 0x06, 0x03, 0x55, 0x04, 0x0A, 0x0C, 0x0A] ++
  organization ++
  [0x30, 0x2A, 0x30, 0x05, 0x06, 0x03, 0x2B, 0x65, 0x70, 0x03, 0x21, 0x00, 0x76, 0xCF, 0xFA, 0x03,
    0xBE, 0xF5, 0xCB, 0x5A, 0xE8, 0x5D, 0xCA, 0x88, 0xEF, 0xD2, 0x18, 0xF1, 0xAC, 0xF3, 0xB1, 0x9C,
    0x21, 0x62, 0x7D, 0x1B, 0x66, 0x00, 0xA5, 0x24, 0x42, 0x34, 0x93, 0xB6, 0x30, 0x05, 0x06, 0x03,
    0x2B, 0x65, 0x70, 0x03, 0x41, 0x00, 0x8D, 0xCC, 0xF7, 0x2A, 0x7B, 0x0B, 0x4E, 0x68, 0xD0, 0x53,
    0xE3, 0xCD, 0xBA, 0x03, 0x49, 0x2F, 0x20, 0xD4, 0x0A, 0xF7, 0x6F, 0xF1, 0xDE, 0xDD, 0xC9, 0x25,
    0xD5, 0x63, 0x7C, 0xDE, 0x48, 0x26, 0xC3, 0x7C, 0xE7, 0x4E, 0x9F, 0x7C, 0xC9, 0x0F, 0xBB, 0xCD,
    0x43, 0x74, 0x5F, 0x4D, 0x98, 0x77, 0x23, 0xAE, 0x3B, 0x5F, 0xBD, 0xE6, 0xC2, 0xB7, 0x72, 0x57,
    0xD3, 0x2F, 0x4B, 0xF2, 0x90, 0x0D]

theorem exists_stored_server (organization : Bytes)
    (names : (X509.decode? (serverDer organization)).map
      (fun parts => (parts.subject, parts.issuer)) = some (serverName organization, issuerName))
    (readable : (parse (serverName organization).render).toOption.isSome) :
    ∃ parts c chain, X509.decode? (serverDer organization) = some parts ∧
      Certificate.ofDer? (serverDer organization) = some c ∧
      Chain.empty.insert 0 c = (.ok .stored, chain) ∧ parts.subject = serverName organization := by
  obtain ⟨parts, decoded, hparts⟩ := Option.map_eq_some_iff.1 names
  obtain ⟨hsubject, hissuer⟩ := Prod.mk.inj hparts
  have hreadable : (parse issuerName.render).toOption.isSome := by decide +kernel
  rw [← hsubject] at readable
  rw [← hissuer] at hreadable
  obtain ⟨c, chain, read, stored⟩ := Chain.exists_stored decoded ⟨readable, hreadable⟩
  exact ⟨parts, c, chain, decoded, read, stored, hsubject⟩

end Corporate

namespace Chain

open Corporate

theorem corporate_subject_stored : ∃ parts c chain entry,
    X509.decode? (serverDer "Example Co".toUTF8.toList) = some parts ∧
      Certificate.ofDer? (serverDer "Example Co".toUTF8.toList) = some c ∧
      empty.insert 0 c = (.ok .stored, chain) ∧ parts.subject.Plain ∧ chain.get? 0 = some entry ∧
      entry.subject.commonName = "radius" ∧ entry.subject.organization = "Example Co" := by
  obtain ⟨parts, c, chain, decoded, read, stored, hsubject⟩ :=
    exists_stored_server "Example Co".toUTF8.toList (by decide +kernel) (by decide +kernel)
  obtain ⟨entry, hentry, -, -, hfields⟩ := stored_subject decoded read stored
  have hplain : parts.subject.Plain := by
    rw [hsubject]
    decide +kernel
  have hname : (parts.subject.attributes .commonName).getLast? =
      some ⟨Field.commonName.identifier, utf8Value "radius".toUTF8.toList⟩ := by
    rw [hsubject]
    rfl
  have horganization : (parts.subject.attributes .organization).getLast? =
      some ⟨Field.organization.identifier, utf8Value "Example Co".toUTF8.toList⟩ := by
    rw [hsubject]
    rfl
  refine ⟨parts, c, chain, entry, decoded, read, stored, hplain, hentry, ?_, ?_⟩
  · exact (hfields hplain .commonName).2 _ "radius" hname (by decide +kernel) (by decide +kernel)
      (by decide +kernel)
  · exact (hfields hplain .organization).2 _ "Example Co" horganization (by decide +kernel)
      (by decide +kernel) (by decide +kernel)

/-- The value of one attribute can stand in for another one. -/
theorem organization_can_rename_server :
    ¬∀ (der : Bytes) (parts : X509.Parts) (c : Certificate) (chain chain' : Chain) (depth : Nat)
        (entry : ChainEntry) (a : X509.Attribute) (v : String),
      X509.decode? der = some parts → Certificate.ofDer? der = some c →
      chain.insert depth c = (.ok .stored, chain') → chain'.get? depth = some entry →
      parts.subject.attributes .commonName = [a] → X509.valueText? a.value = some v → v ≠ "" →
      Text.trim v.toList = v.toList → entry.subject.commonName = v := by
  intro named
  obtain ⟨parts, c, chain, decoded, read, stored, hsubject⟩ :=
    exists_stored_server "x, CN=evil".toUTF8.toList (by decide +kernel) (by decide +kernel)
  obtain ⟨entry, hat, -, hparsed⟩ := entry_of_stored decoded read stored
  have hone : parts.subject.attributes .commonName =
      [⟨Field.commonName.identifier, utf8Value "radius".toUTF8.toList⟩] := by
    rw [hsubject]
    rfl
  have hradius : entry.subject.commonName = "radius" :=
    named _ _ _ _ _ _ _ _ "radius" decoded read stored hat hone (by decide +kernel) (by decide)
      (by decide +kernel)
  have hevil : (given .commonName parts.subject.render.toList).getLast? = some "evil".toList := by
    rw [hsubject]
    decide +kernel
  have hget : entry.subject.commonName = String.ofList "evil".toList := by
    have hcommon := (get_of_parse hparsed).2 .commonName
    rwa [hevil] at hcommon
  rw [hradius] at hget
  exact absurd hget (by decide)

end Chain

end WifiTrust
