import WifiTrust.Json.Form.Store
import WifiTrust.Proofs.Json.Values
import WifiTrust.Proofs.Store.Entry
import WifiTrust.Proofs.Timestamp

namespace WifiTrust

open Json

theorem survives_timestamp {t : Timestamp} (h : t.IsValid) : Survives t := by
  refine ⟨.text _, ?_⟩
  change (ofString t.text).text?.bind Timestamp.parse? = some t
  rw [text?_ofString, Option.bind_some, Timestamp.parse?_text h]

theorem survives_trustedCa {ca : TrustedCa} (h : ca.installedAt.IsValid) : Survives ca := by
  have htime := survives_timestamp h
  refine .record rfl rfl (by simp) (by simp [htime.plain]) fun slot given => ?_
  simp only [List.forall_mem_cons] at given
  obtain ⟨hroot, hserver, hinstalled, -⟩ := given
  simp [hroot, hserver, hinstalled, Slot.required, htime.read]

/-- What was installed for a network was installed at a moment in the calendar. -/
def StoredNetwork.Timely (stored : StoredNetwork) : Prop :=
  ∀ ca, stored.trustedCa = some ca → ca.installedAt.IsValid

theorem survives_storedNetwork {stored : StoredNetwork} (h : stored.Timely) :
    Survives stored := by
  have htofu : Survives stored.trustOnFirstUse := .option (fun b _ => survives_bool b) nofun
  have hca : Survives stored.trustedCa :=
    .option (fun ca hstored => survives_trustedCa (h ca hstored)) nofun
  refine .record rfl rfl (by simp) (by simp [htofu.plain, hca.plain]) fun slot given => ?_
  simp only [List.forall_mem_cons] at given
  obtain ⟨hselection, hautojoin, happroved, htrust, htrusted, -⟩ := given
  simp [hselection, hautojoin, happroved, htrust, htrusted, Slot.orElse, htofu.read, hca.read]

theorem encode_ofInt (i : Int) : Literal.encode (Decimal.ofInt i) = Decimal.ofInt i := by
  apply Literal.encode_of_printable
  intro c hc
  rcases Decimal.mem_ofInt hc with rfl | hdigit
  · decide
  · have hrange := Decimal.isDigit_iff.1 hdigit
    refine ⟨?_, ?_, by omega⟩
    · rintro rfl
      cases hdigit
    · rintro rfl
      cases hdigit

theorem survives_networkMap {networks : NetworkMap}
    (h : ∀ p ∈ networks.entries, p.2.Timely) : Survives networks := by
  constructor
  · apply Plain.object
    · intro m hm
      obtain ⟨p, -, rfl⟩ := List.mem_map.1 hm
      exact ⟨_, (encode_ofInt p.1.toInt).symm⟩
    · intro m hm
      obtain ⟨p, hp, rfl⟩ := List.mem_map.1 hm
      exact (survives_storedNetwork (h p hp)).plain
  · refine Option.bind_eq_some_iff.2 ⟨networks.entries, mapM_map_eq_some ?_,
      congrArg some networks.ofList_entries⟩
    intro p hp
    refine Option.bind_eq_some_iff.2 ⟨p.1, (survives_int32 p.1).read, ?_⟩
    exact Option.bind_eq_some_iff.2 ⟨p.2, (survives_storedNetwork (h p hp)).read, rfl⟩

namespace MemoryStore

structure Timely (s : MemoryStore) : Prop where
  clock : s.clock.IsValid
  stored : ∀ id, (s.entry id).Timely

theorem timely_of_networks {s : MemoryStore} (time : s.clock.IsValid)
    (h : ∀ id stored, s.network? id = some stored → stored.Timely) : s.Timely where
  clock := time
  stored id := by
    unfold entry
    cases hstored : s.network? id with
    | none => exact nofun
    | some stored => exact h id stored hstored

theorem Timely.survives {s : MemoryStore} (h : s.Timely) : Survives (s.networks : NetworkMap) := by
  apply survives_networkMap
  rintro ⟨id, stored⟩ hmem
  have hstored : s.network? id = some stored := SortedMap.get?_eq_some_iff_mem.2 hmem
  rw [← entry_of_network? hstored]
  exact h.stored id

theorem Timely.plain {s : MemoryStore} (h : s.Timely) : s.toJson.Plain := by
  apply Plain.record
  simpa using h.survives.plain

/-- A store is read with its networks, under the clock of the reader. -/
theorem ofJson?_toJson {s : MemoryStore} (h : s.Timely) (clock : Timestamp) :
    ofJson? clock s.toJson = some { s.reloaded with clock := clock } := by
  obtain ⟨slot, hslots, hgiven⟩ :=
    slots?_record [("networks", WifiTrust.toJson (s.networks : NetworkMap))] (by simp)
  have hslot := hgiven _ (List.mem_singleton_self _)
  unfold ofJson?
  refine Option.bind_eq_some_iff.2 ⟨slot, hslots, ?_⟩
  simp [hslot, Slot.required, h.survives.read, reloaded]

end MemoryStore

end WifiTrust
