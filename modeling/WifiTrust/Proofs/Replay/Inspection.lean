import WifiTrust.Proofs.Chain.Inspection
import WifiTrust.Proofs.Replay.Enrolment

/-!
# Inspections foretell attempts

A bundle is inspected by entering its certificates into a chain at once, and an attempt collects
them one by one, checks the chain when the user is to be asked and once more when the user approves.
Both come to the same judgement.
-/

namespace WifiTrust.Replay

open Handler

/-- What the inspection of a bundle says of an attempt that is approved wherever the user is asked:
whether it is accepted and, if not, whether the user is told of a broken chain. -/
structure Foretells (i : Inspection) (n : Network) (cs : List Certificate) (clock : Timestamp)
    (h : Handler MemoryStore) : Prop where
  accepted : h.decisions.getLast? = some (.accept n.ssid) ↔ i.valid = true
  refused : i.valid = false → h.decisions = [.error (some n.ssid)] ∧
    ∀ id, (h.store.entry id).trustedCa = none
  told : (∃ kind ∈ h.board.kinds, kind = .invalidChainDialog ∨ kind = .invalidChainNotification) ↔
    ∃ e : ChainError, e.isBrokenLink = true ∧ i.error?.map ChainError.message = some e.message
  installed : i.valid = true → h.decisions = [.accept n.ssid] ∧
    ∃ server root, cs.head? = some server ∧ cs.getLast? = some root ∧
      (h.store.entry n.id).trustedCa = some ⟨root, server, clock⟩

section Judgement

variable {i : Inspection} {n : Network} {cs : List Certificate} {clock : Timestamp}
  {h : Handler MemoryStore}

theorem Foretells.of_valid (valid : i.chain.validate = .ok ())
    (decided : h.decisions = [.accept n.ssid])
    (untold : ∀ kind ∈ h.board.kinds, kind.isInformational = false)
    (installed : ∃ server root, cs.head? = some server ∧ cs.getLast? = some root ∧
      (h.store.entry n.id).trustedCa = some ⟨root, server, clock⟩) :
    Foretells i n cs clock h := by
  have hvalid : i.valid = true := i.valid_iff.2 valid
  constructor
  · simp [decided, hvalid]
  · simp [hvalid]
  · rw [i.reportsBrokenLink_iff]
    have hsound : i.error? = none := by rw [Inspection.error?, valid]
    constructor
    · rintro ⟨kind, hkind, htold⟩
      have hinforms := PromptKind.isInformational_iff.2 htold
      rw [untold kind hkind] at hinforms
      cases hinforms
    · rintro ⟨e, herror, -⟩
      rw [hsound] at herror
      cases herror
  · exact fun _ => ⟨decided, installed⟩

theorem Foretells.of_invalid {e : ChainError} (invalid : i.chain.validate = .error e)
    (decided : h.decisions = [.error (some n.ssid)]) {userSelected : Bool}
    (shown : h.board.kinds = if e.isBrokenLink then
      [if userSelected then .invalidChainDialog else .invalidChainNotification] else [])
    (untrusted : ∀ id, (h.store.entry id).trustedCa = none) : Foretells i n cs clock h := by
  have herror : i.error? = some e := Inspection.error?_of_invalid invalid
  have hinvalid : i.valid = false := by simp [Inspection.valid, herror]
  constructor
  · simp [decided, hinvalid]
  · exact fun _ => ⟨decided, untrusted⟩
  · rw [i.reportsBrokenLink_iff, herror, shown]
    cases hbroken : e.isBrokenLink with
    | false => simp [hbroken]
    | true =>
        cases userSelected with
        | true => simp [hbroken]
        | false => simp [hbroken]
  · simp [hinvalid]

end Judgement

theorem drive_of_long {σ : Type} [NetworkStore σ] {h : Handler σ} {n : Network}
    (gated : (h.prepare n).1 = .gated) {cs : List Certificate} (long : depths < cs.length)
    (userSelected : Bool) (answer : ShownPrompt → Except Failure (Option PromptReply)) :
    drive h n cs userSelected answer = .error .tooManyCertificates := by
  rw [drive_eq, gated]
  simp [deliverChain, long, bind, Except.bind]

/-- Inspecting and connecting agree. Where the inspection of a bundle goes through, an attempt with
the same certificates on a network with a name and with trust on first use, from a store that knows
nothing, ends as the inspection says if every prompt is approved: it is accepted exactly if the
chain is valid, and then the last certificate is installed as the root and the first as the
server's. Otherwise it is given up, nothing is installed, and the user is told of a broken chain
exactly if the inspection reports a missing link or a mismatch. Only a bundle with more certificates
than an attempt has depths for is turned down by the attempt itself. -/
theorem inspection_foretells_replay {source : Path} {cs : List Certificate} {i : Inspection}
    (inspected : Inspection.ofCertificates source cs = .ok i) (policy : Policy)
    (clock : Timestamp) (session : NativeSession) {n : Network} (named : n.ssid ≠ "")
    (on : n.trustsOnFirstUse = true) :
    let h := fresh policy ({ clock := clock } : MemoryStore) session {} []
    (h.prepare n).1 = .gated → ∀ userSelected,
      (cs.length ≤ depths → ∃ r, drive h n cs userSelected (answering .accept) = .ok r ∧
        Foretells i n cs clock r.handler) ∧
      (depths < cs.length →
        drive h n cs userSelected (answering .accept) = .error .tooManyCertificates) := by
  intro h gated userSelected
  refine ⟨fun short => ?_, fun long => drive_of_long gated long userSelected _⟩
  obtain ⟨hchain, readable⟩ := Inspection.ofCertificates_eq_ok inspected
  obtain ⟨accepted, g, hdelivered, -, hsettles⟩ := exists_settles policy
    ({ clock := clock } : MemoryStore) session named short userSelected .accept
  obtain ⟨r, hdriven, -, -, -, hcame⟩ := drive_of_settles hdelivered hsettles
  refine ⟨r, hdriven, ?_⟩
  have hgated : ((fresh policy ({ clock := clock } : MemoryStore) session {} []).prepare n).1 =
      .gated := gated
  rw [hgated] at hcame
  obtain ⟨hdecisions, hkinds⟩ := Prod.mk.inj hcame
  have henrolling : h.Enrolling :=
    ⟨coherent_fresh policy _ session {} [], ((gated_iff h n).1 gated).2, rfl⟩
  obtain ⟨_, course⟩ := exists_course hdriven
  have htrusts := course.trusts henrolling rfl named gated on
  cases hjudged : (Chain.ofCertificates cs).validate with
  | ok =>
      simp only [outcome, on, hjudged, if_true] at hdecisions hkinds
      apply Foretells.of_valid (hchain ▸ hjudged) hdecisions
      · rw [hkinds]
        cases userSelected with
        | true => simp [PromptKind.isInformational]
        | false => simp [PromptKind.isInformational]
      · cases htrusts with
        | unaccepted decided =>
            rw [hdecisions] at decided
            simp [StandingAnswer.decision, Decision.isAccept] at decided
        | accepted _ valid installed =>
            obtain ⟨hfirst, hlast⟩ := Chain.ends_of_anchors readable valid
            refine ⟨_, _, hfirst, hlast, ?_⟩
            rw [installed, if_pos rfl]
            rfl
  | error e =>
      simp only [outcome, on, hjudged, if_true] at hdecisions hkinds
      apply Foretells.of_invalid (hchain ▸ hjudged) hdecisions hkinds
      intro id
      cases htrusts with
      | unaccepted _ kept =>
          rw [kept]
          rfl
      | accepted decided =>
          rw [hdecisions] at decided
          simp at decided

open Corporate in
/-- The corporate chain is found valid and installed. With the server's certificate twice in the
bundle a link is broken, which the user is told. -/
theorem corporate_inspection_foretells_replay :
    let h : Handler MemoryStore := fresh {} { clock := default } {} {} []
    let twice : List Certificate := [leaf, leaf, root]
    network.ssid ≠ "" ∧ network.trustsOnFirstUse = true ∧ (h.prepare network).1 = .gated ∧
      (∃ i r, Inspection.ofCertificates ⟨"corp.pem"⟩ [leaf, root] = .ok i ∧ i.valid = true ∧
        drive h network [leaf, root] true (answering .accept) = .ok r ∧
        (r.handler.store.entry 7).trustedCa = some ⟨root, leaf, default⟩) ∧
      ∃ i r, Inspection.ofCertificates ⟨"corp.pem"⟩ twice = .ok i ∧ i.valid = false ∧
        drive h network twice true (answering .accept) = .ok r ∧
        r.handler.decisions = [.error (some "corp")] ∧
        ∃ kind ∈ r.handler.board.kinds,
          kind = .invalidChainDialog ∨ kind = .invalidChainNotification := by
  intro h twice
  have named : network.ssid ≠ "" := by decide
  have on : network.trustsOnFirstUse = true := rfl
  have gated : (h.prepare network).1 = .gated := rfl
  refine ⟨named, on, gated, ?_, ?_⟩
  · let i : Inspection := ⟨⟨"corp.pem"⟩, .ofCertificates [leaf, root]⟩
    have inspected : Inspection.ofCertificates ⟨"corp.pem"⟩ [leaf, root] = .ok i := rfl
    have valid : i.valid = true := rfl
    obtain ⟨hshort, -⟩ :=
      inspection_foretells_replay inspected {} default {} named on gated true
    obtain ⟨r, hdriven, foretells⟩ := hshort (by decide)
    obtain ⟨-, _, _, ⟨⟩, ⟨⟩, hinstalled⟩ := foretells.installed valid
    exact ⟨i, r, inspected, valid, hdriven, hinstalled⟩
  · let i : Inspection := ⟨⟨"corp.pem"⟩, .ofCertificates twice⟩
    have inspected : Inspection.ofCertificates ⟨"corp.pem"⟩ twice = .ok i := rfl
    have invalid : i.valid = false := rfl
    have broken : i.error? = some (.issuerMismatch 0 "CN=Corp Root" "CN=radius.corp") := rfl
    obtain ⟨hshort, -⟩ :=
      inspection_foretells_replay inspected {} default {} named on gated true
    obtain ⟨r, hdriven, foretells⟩ := hshort (by decide)
    refine ⟨i, r, inspected, invalid, hdriven, (foretells.refused invalid).1, ?_⟩
    exact foretells.told.2 (i.reportsBrokenLink_iff.2 ⟨_, broken, rfl⟩)

end WifiTrust.Replay
