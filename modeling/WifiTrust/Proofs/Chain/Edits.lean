import Mathlib.Data.Set.Card
import WifiTrust.Proofs.Chain.Delivery
import WifiTrust.Proofs.Chain.Verdict

/-!
# Chains that are entered and cleared

A chain over any course of entering certificates and clearing it. Main statement: at each depth stands
the first certificate with readable names that was entered there since the chain was last cleared, and
what the chain answers, lists and counts agrees with that.
-/

namespace WifiTrust

namespace Chain

inductive Edit where
  | insert (depth : Nat) (certificate : Certificate)
  | clear
  deriving DecidableEq

def Edit.offers? : Edit → Nat → Option ChainEntry
  | insert depth certificate, d =>
      if depth = d then ChainEntry.ofCertificate? depth certificate else none
  | clear, _ => none

def edit (c : Chain) : Edit → Chain
  | .insert depth certificate => (c.insert depth certificate).2
  | .clear => empty

def edited (c : Chain) (edits : List Edit) : Chain := edits.foldl edit c

/-- Nothing of these edits is left. -/
def Forgotten (edits : List Edit) : Prop := edits = [] ∨ edits.getLast? = some .clear

/-- Of the certificates with readable names that were entered at a depth since the chain was last
cleared, this is the first. -/
def First (edits : List Edit) (depth : Nat) (certificate : Certificate) : Prop :=
  ∃ forgotten before after, edits = forgotten ++ (before ++ .insert depth certificate :: after) ∧
    Forgotten forgotten ∧ .clear ∉ before ∧ .clear ∉ after ∧ certificate.Readable ∧
    ∀ other, .insert depth other ∈ before → ¬other.Readable

section Course

variable {c : Chain} {edits : List Edit}

theorem edited_append (c : Chain) (edits later : List Edit) :
    c.edited (edits ++ later) = (c.edited edits).edited later := List.foldl_append

theorem edited_of_forgotten (h : Forgotten edits) (later : List Edit) :
    empty.edited (edits ++ later) = empty.edited later := by
  rcases h with rfl | h
  · rfl
  · obtain ⟨earlier, rfl⟩ := List.getLast?_eq_some_iff.1 h
    rw [edited_append, edited_append]
    rfl

theorem exists_forgotten (edits : List Edit) :
    ∃ forgotten recent, edits = forgotten ++ recent ∧ Forgotten forgotten ∧ .clear ∉ recent := by
  induction edits with
  | nil => exact ⟨[], [], rfl, .inl rfl, List.not_mem_nil⟩
  | cons e edits ih =>
      obtain ⟨forgotten, recent, rfl, rfl | hlast, hrecent⟩ := ih
      · cases e with
        | insert depth x =>
            exact ⟨[], .insert depth x :: recent, rfl, .inl rfl, by simpa using hrecent⟩
        | clear => exact ⟨[.clear], recent, rfl, .inr rfl, hrecent⟩
      · refine ⟨e :: forgotten, recent, rfl, .inr ?_, hrecent⟩
        rw [List.getLast?_cons, hlast]
        rfl

theorem get?_edited (h : .clear ∉ edits) (d : Nat) :
    (c.edited edits).get? d = (c.get? d).or (edits.findSome? (·.offers? d)) := by
  induction edits generalizing c with
  | nil => simp [edited]
  | cons e edits ih =>
      rw [List.mem_cons, not_or] at h
      cases e with
      | clear => exact absurd rfl h.1
      | insert depth x =>
          have hstep : c.edited (.insert depth x :: edits) = (c.entered depth x).edited edits := rfl
          rw [hstep, ih h.2, get?_entered, List.findSome?_cons, Edit.offers?]
          by_cases hd : d = depth
          · subst hd
            cases c.get? d <;> cases ChainEntry.ofCertificate? d x <;> simp
          · simp [hd, Ne.symm hd]

theorem extends_edited (h : .clear ∉ edits) : c.Extends (c.edited edits) := by
  intro d e he
  rw [get?_edited h, he]
  rfl

theorem Edit.offers?_eq_some_iff {edit : Edit} {d : Nat} {e : ChainEntry} :
    edit.offers? d = some e ↔ edit = .insert d e.certificate ∧ e.depth = d ∧
      DistinguishedName.parse e.certificate.subject = .ok e.subject ∧
      DistinguishedName.parse e.certificate.issuer = .ok e.issuer := by
  cases edit with
  | clear => simp [offers?]
  | insert depth x =>
      rw [offers?, Edit.insert.injEq]
      split
      · next hd =>
          subst hd
          rw [ChainEntry.ofCertificate?_eq_some_iff]
          constructor
          · rintro ⟨hdepth, rfl, hnames⟩
            exact ⟨⟨rfl, rfl⟩, hdepth, hnames⟩
          · rintro ⟨⟨-, rfl⟩, hdepth, hnames⟩
            exact ⟨hdepth, rfl, hnames⟩
      · next hd => exact ⟨nofun, fun h => absurd h.1.1 hd⟩

theorem offers?_eq_none {before : List Edit} {d : Nat} :
    (∀ edit ∈ before, edit.offers? d = none) ↔
      ∀ other, .insert d other ∈ before → ¬other.Readable := by
  constructor
  · intro h other hother
    have hnone := h _ hother
    rwa [Edit.offers?, if_pos rfl, ChainEntry.ofCertificate?_eq_none_iff] at hnone
  · intro h edit hedit
    cases edit with
    | clear => rfl
    | insert depth x =>
        rw [Edit.offers?]
        split
        · next hd =>
            subst hd
            exact ChainEntry.ofCertificate?_eq_none_iff.2 (h x hedit)
        · rfl

/-- At each depth stands the first certificate with readable names since the chain was cleared. -/
theorem get?_edited_eq_some_iff {d : Nat} {e : ChainEntry} :
    (empty.edited edits).get? d = some e ↔ First edits d e.certificate ∧ e.depth = d ∧
      DistinguishedName.parse e.certificate.subject = .ok e.subject ∧
      DistinguishedName.parse e.certificate.issuer = .ok e.issuer := by
  constructor
  · intro h
    obtain ⟨forgotten, recent, rfl, hforgotten, hrecent⟩ := exists_forgotten edits
    rw [edited_of_forgotten hforgotten, get?_edited hrecent, get?_empty, Option.none_or,
      List.findSome?_eq_some_iff] at h
    obtain ⟨before, edit, after, rfl, hoffer, hearlier⟩ := h
    obtain ⟨rfl, hdepth, hsubject, hissuer⟩ := Edit.offers?_eq_some_iff.1 hoffer
    simp only [List.mem_append, List.mem_cons, not_or] at hrecent
    exact ⟨⟨forgotten, before, after, rfl, hforgotten, hrecent.1, hrecent.2.2,
      ⟨⟨_, hsubject⟩, _, hissuer⟩, offers?_eq_none.1 hearlier⟩, hdepth, hsubject, hissuer⟩
  · rintro ⟨⟨forgotten, before, after, rfl, hforgotten, hbefore, hafter, -, hearlier⟩, hnames⟩
    have hrecent : .clear ∉ before ++ .insert d e.certificate :: after := by
      simp [hbefore, hafter]
    rw [edited_of_forgotten hforgotten, get?_edited hrecent, get?_empty, Option.none_or,
      List.findSome?_eq_some_iff]
    exact ⟨before, _, after, rfl, Edit.offers?_eq_some_iff.2 ⟨rfl, hnames⟩,
      offers?_eq_none.2 hearlier⟩

end Course

section Answers

variable {c : Chain}

theorem entered_ne_iff {depth : Nat} {x : Certificate} :
    c.entered depth x ≠ c ↔ x.Readable ∧ c.get? depth = none := by
  by_cases readable : x.Readable
  · obtain ⟨outcome, hinsert⟩ := c.insert_of_readable depth readable
    rw [ne_eq, insert_unchanged_iff hinsert]
    simp [readable]
  · simp [c.entered_of_unreadable depth readable, readable]

/-- What entering a certificate answers, and what it leaves behind. -/
structure Enters (c : Chain) (depth : Nat) (x : Certificate) : Prop where
  stored_iff : (c.insert depth x).1 = .ok .stored ↔ (c.insert depth x).2 ≠ c
  vacant_iff : (c.insert depth x).1 = .ok .stored ↔ x.Readable ∧ c.get? depth = none
  occupied_iff : (c.insert depth x).1 = .ok .occupied ↔ x.Readable ∧ c.get? depth ≠ none
  refused_iff : (∃ e, (c.insert depth x).1 = .error e) ↔ ¬x.Readable
  refused : ∀ e, (c.insert depth x).1 = .error e → (c.insert depth x).2 = c

theorem enters (c : Chain) (depth : Nat) (x : Certificate) : c.Enters depth x := by
  by_cases readable : x.Readable
  · obtain ⟨outcome, hinsert⟩ := c.insert_of_readable depth readable
    obtain ⟨entry, -, ⟨rfl, htaken, -⟩ | ⟨rfl, hvacant, -⟩⟩ := insert_eq_ok_iff.1 hinsert
    · have hsame := (insert_unchanged_iff hinsert).2 htaken
      constructor <;> simp [hinsert, hsame, readable, htaken]
    · have hchanged := entered_ne_iff.2 ⟨readable, hvacant⟩
      constructor <;> simp [hinsert, hchanged, readable, hvacant]
  · obtain ⟨e, hinsert⟩ := c.insert_of_unreadable depth readable
    constructor <;> simp [hinsert, readable]

/-- What a chain lists and counts, and the entries at its two ends. -/
structure Listed (c : Chain) : Prop where
  ascending : c.toList.Pairwise fun p q => p.depth < q.depth
  complete : ∀ d e, c.get? d = some e ↔ e ∈ c.toList ∧ e.depth = d
  size : c.size = {d | c.get? d ≠ none}.ncard
  root : ∀ n e, c.root? = some (n, e) ↔ c.get? n = some e ∧ ∀ d, c.get? d ≠ none → d ≤ n
  leaf : c.leaf? = c.get? 0

theorem mem_toList_iff {d : Nat} {e : ChainEntry} :
    c.get? d = some e ↔ e ∈ c.toList ∧ e.depth = d := by
  constructor
  · intro h
    exact ⟨List.mem_map.2 ⟨(d, e), SortedMap.get?_eq_some_iff_mem.1 h, rfl⟩, depth_of_get? h⟩
  · rintro ⟨hmem, rfl⟩
    obtain ⟨⟨d, e⟩, hentry, rfl⟩ := List.mem_map.1 hmem
    have hget : c.get? d = some e := SortedMap.get?_eq_some_iff_mem.2 hentry
    exact (depth_of_get? hget).symm ▸ hget

theorem mem_keys_iff {d : Nat} : d ∈ c.entries.keys ↔ c.get? d ≠ none := by
  rw [SortedMap.keys, List.mem_map, Option.ne_none_iff_exists']
  constructor
  · rintro ⟨⟨d, e⟩, hmem, rfl⟩
    exact ⟨e, SortedMap.get?_eq_some_iff_mem.2 hmem⟩
  · rintro ⟨e, he⟩
    exact ⟨(d, e), SortedMap.get?_eq_some_iff_mem.1 he, rfl⟩

theorem ascending (c : Chain) : c.entries.entries.Pairwise fun p q => p.1 < q.1 :=
  c.entries.sorted.imp fun h => Int.ofNat_lt.1 h

theorem ascending_toList (c : Chain) : c.toList.Pairwise fun p q => p.depth < q.depth := by
  have hdepth {top : Nat × ChainEntry} (h : top ∈ c.entries.entries) : top.2.depth = top.1 :=
    c.keyed _ _ (SortedMap.get?_eq_some_iff_mem.2 h)
  refine List.pairwise_map.2 (c.ascending.imp_of_mem fun hp hq hlt => ?_)
  rwa [hdepth hp, hdepth hq]

theorem nodup_keys (c : Chain) : c.entries.keys.Nodup :=
  List.pairwise_map.2 (c.ascending.imp Nat.ne_of_lt)

theorem size_eq_ncard (c : Chain) : c.size = {d | c.get? d ≠ none}.ncard := by
  have hset : {d | c.get? d ≠ none} = (c.entries.keys.toFinset : Set Nat) := by
    ext d
    simp [mem_keys_iff]
  rw [hset, Set.ncard_coe_finset, List.toFinset_card_of_nodup c.nodup_keys, SortedMap.keys,
    List.length_map]
  rfl

theorem listed (c : Chain) : c.Listed where
  ascending := c.ascending_toList
  complete d e := mem_toList_iff
  size := c.size_eq_ncard
  root n e := by
    rw [root?_eq_some_iff]
    refine and_congr_right fun _ => ⟨fun h d hd => ?_, fun h d hd => ?_⟩
    · exact Nat.le_of_not_lt fun hlt => hd (h d hlt)
    · exact Classical.not_not.1 fun htaken => Nat.not_le_of_lt hd (h d htaken)
  leaf := rfl

/-- The root of the second chain does not lie lower than that of the first. -/
def RootRises (c c' : Chain) : Prop :=
  ∀ n e, c.root? = some (n, e) → ∃ n' e', c'.root? = some (n', e') ∧ n ≤ n'

theorem rootRises_of_extends {c c' : Chain} (h : c.Extends c') : c.RootRises c' := by
  intro n e hroot
  have hthere : c'.get? n = some e := h n e (root?_eq_some_iff.1 hroot).1
  have htaken : c'.get? n ≠ none := by
    rw [hthere]
    exact Option.some_ne_none e
  cases hroot' : c'.root? with
  | none => exact absurd (root?_eq_none_iff.1 hroot' n) htaken
  | some top => exact ⟨top.1, top.2, rfl, ((c'.listed.root top.1 top.2).1 hroot').2 n htaken⟩

end Answers

/-- A chain is a map in which the first certificate at a depth wins, over any course of entering
certificates and clearing it. An entry has the depth at which it stands, and a certificate that is
refused leaves the chain as it was. -/
theorem first_certificate_wins (edits : List Edit) :
    (∀ d e, (empty.edited edits).get? d = some e ↔ First edits d e.certificate ∧ e.depth = d ∧
      DistinguishedName.parse e.certificate.subject = .ok e.subject ∧
      DistinguishedName.parse e.certificate.issuer = .ok e.issuer) ∧
    (∀ depth x, (empty.edited edits).Enters depth x) ∧
    (empty.edited edits).Listed ∧
    ∀ later, .clear ∉ later → (empty.edited edits).RootRises (empty.edited (edits ++ later)) := by
  refine ⟨fun d e => get?_edited_eq_some_iff, fun depth x => enters _ depth x, listed _, ?_⟩
  intro later hlater
  rw [edited_append]
  exact rootRises_of_extends (extends_edited hlater)

/-- A nameless certificate and one that was forgotten come before the server's and do not count, nor
does the one that comes after it. -/
theorem first_radius_certificate_wins :
    let server : Certificate := .ofParts "CN=radius" "CN=Corp Root" [1] false
    let impostor : Certificate := .ofParts "CN=radius" "CN=Corp Root" [2] false
    let nameless : Certificate := .ofParts "O=Corp" "CN=Corp Root" [3] false
    let root : Certificate := .ofParts "CN=Corp Root" "CN=Corp Root" [4] true
    let edits : List Edit := [.insert 3 root, .insert 0 impostor, .clear, .insert 0 nameless,
      .insert 1 root, .insert 0 server, .insert 0 impostor]
    .clear ∉ [Edit.insert 0 root, .insert 2 root] ∧ First edits 0 server ∧
      ((empty.edited edits).insert 0 nameless).2 = empty.edited edits ∧
      (empty.edited edits).size = {d | (empty.edited edits).get? d ≠ none}.ncard ∧
      (empty.edited edits).RootRises
        (empty.edited (edits ++ [.insert 0 root, .insert 2 root])) := by
  intro server impostor nameless root edits
  obtain ⟨hentries, henters, hlisted, hrises⟩ := first_certificate_wins edits
  have hforward : .clear ∉ [Edit.insert 0 root, .insert 2 root] := by simp
  have hserver : ((empty.edited edits).get? 0).map (·.certificate) = some server := by decide +kernel
  obtain ⟨e, he, hcertificate⟩ := Option.map_eq_some_iff.1 hserver
  have hnameless : ¬nameless.Readable := by
    rw [← Certificate.isReadable_iff]
    decide +kernel
  obtain ⟨e', hrefused⟩ := (henters 0 nameless).refused_iff.2 hnameless
  exact ⟨hforward, hcertificate ▸ ((hentries 0 e).1 he).1, (henters 0 nameless).refused e' hrefused,
    hlisted.size, hrises _ hforward⟩

end Chain

end WifiTrust
