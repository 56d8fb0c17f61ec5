import WifiTrust.Proofs.Store.Loaded
import WifiTrust.Proofs.Store.Observed
import WifiTrust.Proofs.Store.Reload

/-!
# Reading takes back what was written

Every value that is kept in JSON or handed over in it is read as it was written, in either layout,
and a text that is accepted settles after one round: what it is written as is written again. A store
loses its switches, its history and its clock, and all that this can show ahead of a connection is
that selections are taken again.
-/

namespace WifiTrust

namespace Json

def read? {α : Type} [JsonForm α] (text : String) : Option α := (parse text).bind ofJson?

end Json

open Json

/-- A reader takes back what a writer wrote of a valid value, as far as it is `kept`, and what the
reader has made of any text is written the same after another round. -/
structure RoundTrips {α : Type} (write : α → String) (read : String → Option α) (valid : α → Prop)
    (kept : α → α) : Prop where
  read_write : ∀ a, valid a → read (write a) = some (kept a)
  write_read : ∀ text a, read text = some a → ∃ b, read (write a) = some b ∧ write b = write a

/-- The values of a type survive in both layouts. -/
def JsonRoundTrips (α : Type) [JsonForm α] (valid : α → Prop := fun _ => True) : Prop :=
  ∀ style, RoundTrips (fun a : α => (toJson a).write style) read? valid id

theorem RoundTrips.of_yields {α : Type} {write : α → String} {read : String → Option α}
    {valid : α → Prop} {kept : α → α} (h : ∀ a, valid a → read (write a) = some (kept a))
    (accepted : ∀ text, Yields valid (read text)) (same : ∀ a, write (kept a) = write a) :
    RoundTrips write read valid kept where
  read_write := h
  write_read text a hread := ⟨kept a, h a (accepted text a hread), same a⟩

theorem jsonRoundTrips_of_yields {α : Type} [JsonForm α] {valid : α → Prop}
    (h : ∀ a, valid a → Survives a) (accepted : ∀ j, Yields valid (ofJson? j)) :
    JsonRoundTrips α valid := by
  intro style
  refine .of_yields (fun a ha => ?_) (fun text => ?_) fun _ => rfl
  · unfold read?
    rw [(h a ha).plain.parse_write, Option.bind_some, (h a ha).read, id]
  · exact .skip _ accepted

theorem jsonRoundTrips_of_survives {α : Type} [JsonForm α] (h : ∀ a : α, Survives a) :
    JsonRoundTrips α :=
  jsonRoundTrips_of_yields (fun a _ => h a) fun _ _ _ => trivial

namespace MemoryStore

theorem roundTrips {clock : Timestamp} (time : clock.IsValid) (style : Style) :
    RoundTrips (fun s : MemoryStore => s.toJson.write style) (ofText? clock) Timely
      (fun s => { s.reloaded with clock := clock }) := by
  refine .of_yields (fun s hs => ofText?_write hs clock style) (fun text => ?_) fun _ => rfl
  exact .skip _ fun j s hread => (yields_ofJson? time j s hread).1

/-- A store has the networks of another, its switches are off and its history is empty. One use of
it shows what a use of the other shows, and any number of uses what they would show of the other
with its switch for selections off. -/
structure Renews (s' s : MemoryStore) : Prop where
  networks : s'.networks = s.networks
  failCaUpdates : s'.failCaUpdates = false
  failSelectionUpdates : s'.failSelectionUpdates = false
  selectionHistory : s'.selectionHistory = []
  use : ∀ (h : Handler MemoryStore) u, ((h.withStore s').use u).1 = ((h.withStore s).use u).1
  sights : ∀ (h : Handler MemoryStore) us,
    (h.withStore s').sights us = (h.withStore { s with failSelectionUpdates := false }).sights us

theorem sameSelections_reloaded (s : MemoryStore) (clock : Timestamp) :
    SameSelections { s.reloaded with clock := clock } { s with failSelectionUpdates := false } :=
  ⟨rfl, rfl⟩

theorem renews_reloaded (s : MemoryStore) (clock : Timestamp) :
    Renews { s.reloaded with clock := clock } s where
  networks := rfl
  failCaUpdates := rfl
  failSelectionUpdates := rfl
  selectionHistory := rfl
  use h u := by
    have networks : { s.reloaded with clock := clock }.networks = s.networks := rfl
    exact h.sight_withStore networks u
  sights h us := h.sights_withStore (s.sameSelections_reloaded clock) us

end MemoryStore

/-- Certificates, networks, decisions, prompts, names and policies of any content are read as they
were written, and so is what is stored of a network if it was installed at a moment in the calendar,
in both layouts. Whatever text is accepted for one of them, the value is written the same after it
has been written and read again. A store is read with its networks, and a store that has just been
saved is loaded into one that shows the same ahead of a connection. -/
theorem json_round_trips :
    (JsonRoundTrips Certificate ∧ JsonRoundTrips Network ∧ JsonRoundTrips Enterprise ∧
      JsonRoundTrips Decision ∧ JsonRoundTrips PromptToken ∧ JsonRoundTrips PromptReply ∧
      JsonRoundTrips PromptKind ∧ JsonRoundTrips Dialog ∧ JsonRoundTrips Notification ∧
      JsonRoundTrips DistinguishedName ∧ JsonRoundTrips Policy) ∧
    JsonRoundTrips StoredNetwork StoredNetwork.Timely ∧
    ∀ clock : Timestamp, clock.IsValid →
      (∀ style, RoundTrips (fun s : MemoryStore => s.toJson.write style)
        (MemoryStore.ofText? clock) MemoryStore.Timely
        (fun s => { s.reloaded with clock := clock })) ∧
      ∀ (s : MemoryStore) (p : Path) (w w' : Script.World), s.Timely →
        (s.save p).perform w = (.ok (), w') → ∃ s',
          (MemoryStore.load clock p).perform w' = (.ok s', w') ∧ s'.Renews s := by
  refine ⟨⟨?_, ?_, ?_, ?_, ?_, ?_, ?_, ?_, ?_, ?_, ?_⟩, ?_, fun clock time => ⟨?_, ?_⟩⟩
  · exact jsonRoundTrips_of_survives survives_certificate
  · exact jsonRoundTrips_of_survives survives_network
  · exact jsonRoundTrips_of_survives survives_enterprise
  · exact jsonRoundTrips_of_survives survives_decision
  · exact jsonRoundTrips_of_survives survives_promptToken
  · exact jsonRoundTrips_of_survives survives_promptReply
  · exact jsonRoundTrips_of_survives survives_promptKind
  · exact jsonRoundTrips_of_survives survives_dialog
  · exact jsonRoundTrips_of_survives survives_notification
  · exact jsonRoundTrips_of_survives survives_distinguishedName
  · exact jsonRoundTrips_of_survives survives_policy
  · exact jsonRoundTrips_of_yields (fun _ => survives_storedNetwork) yields_storedNetwork
  · exact MemoryStore.roundTrips time
  · intro s p w w' timely saved
    have hsaved : s.SavedAt p w' := MemoryStore.savedAt_of_save saved
    exact ⟨_, MemoryStore.load_of_savedAt timely hsaved clock,
      MemoryStore.renews_reloaded s clock⟩

/-- A network with a negative identifier whose chain was approved in a leap second, in a store that
takes no selections. -/
def leapStore : MemoryStore where
  networks := .ofList [(-7, { trustedCa := some ⟨
    { subject := "CN=\"Root\"\n", issuer := "CN=\"Root\"\n", signature := [0, 255], isCa := true,
      fingerprint := "00ff", der := [] },
    { subject := "CN=radius", issuer := "CN=\"Root\"\n", signature := [], isCa := false,
      fingerprint := "", der := [48, 0] },
    ⟨2016, 12, 31, 23, 59, 60, 5000000⟩⟩ })]
  failSelectionUpdates := true
  clock := ⟨2024, 5, 17, 12, 0, 0, 0⟩

theorem timely_leapStore : leapStore.Timely := by
  refine MemoryStore.timely_of_networks (by decide) fun id stored hstored => ?_
  obtain ⟨rfl, rfl⟩ := Prod.mk.inj (List.mem_singleton.1 (SortedMap.mem_of_get?_ofList hstored))
  rintro _ ⟨⟩
  decide

/-- The store is saved in an empty directory and loaded ten years later. -/
theorem leapStore_round_trips :
    (⟨2034, 5, 17, 12, 0, 0, 0⟩ : Timestamp).IsValid ∧ leapStore.Timely ∧
    ∃ w', (leapStore.save ⟨"state.json"⟩).perform { files := {} } = (.ok (), w') ∧
      ∃ s', (MemoryStore.load ⟨2034, 5, 17, 12, 0, 0, 0⟩ ⟨"state.json"⟩).perform w' = (.ok s', w') ∧
        s'.Renews leapStore := by
  have time : (⟨2034, 5, 17, 12, 0, 0, 0⟩ : Timestamp).IsValid := by decide
  have timely := timely_leapStore
  obtain ⟨w', saved⟩ :
      ∃ w', (leapStore.save ⟨"state.json"⟩).perform { files := {} } = (.ok (), w') := ⟨_, rfl⟩
  obtain ⟨-, -, hstores⟩ := json_round_trips
  exact ⟨time, timely, w', saved, (hstores _ time).2 leapStore ⟨"state.json"⟩ _ w' timely saved⟩

end WifiTrust
