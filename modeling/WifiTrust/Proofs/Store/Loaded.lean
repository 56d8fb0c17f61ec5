import WifiTrust.Proofs.Action
import WifiTrust.Proofs.Json.Store
import WifiTrust.Saved

namespace WifiTrust

def Yields {α : Type} (P : α → Prop) (x : Option α) : Prop := ∀ a, x = some a → P a

namespace Yields

variable {α β : Type} {P : β → Prop} {Q : α → Prop} {x : Option α} {f : α → Option β}

theorem bind (hx : Yields Q x) (hf : ∀ a, Q a → Yields P (f a)) : Yields P (x >>= f) := by
  intro b hb
  obtain ⟨a, ha, hfa⟩ := Option.bind_eq_some_iff.1 hb
  exact hf a (hx a ha) b hfa

theorem skip (x : Option α) (hf : ∀ a, Yields P (f a)) : Yields P (x >>= f) :=
  bind (Q := fun _ => True) (fun _ _ => trivial) fun a _ => hf a

theorem of_pure {a : α} (ha : Q a) : Yields Q (pure a) := by
  rintro _ ⟨⟩
  exact ha

theorem guarded [DecidablePred Q] (a : α) : Yields Q (do guard (Q a); pure a) := by
  by_cases ha : Q a
  · exact .skip _ fun _ => .of_pure ha
  · intro b hb
    change ((if Q a then pure () else failure) >>= fun _ => pure a : Option α) = some b at hb
    rw [if_neg ha] at hb
    cases hb

theorem map {g : α → β} (hx : Yields Q x) (hg : ∀ a, Q a → P (g a)) : Yields P (x.map g) := by
  intro b hb
  obtain ⟨a, ha, rfl⟩ := Option.map_eq_some_iff.1 hb
  exact hg a (hx a ha)

theorem mapM (hf : ∀ a, Yields P (f a)) (as : List α) :
    Yields (fun bs => ∀ b ∈ bs, P b) (as.mapM f) := by
  induction as with
  | nil => exact .of_pure (List.forall_mem_nil P)
  | cons a as ih =>
      rw [List.mapM_cons]
      refine (hf a).bind fun b hb => ih.bind fun bs hbs => ?_
      exact .of_pure (List.forall_mem_cons.2 ⟨hb, hbs⟩)

end Yields

theorem Timestamp.yields_parse? (text : String) : Yields IsValid (parse? text) := by
  unfold parse?
  refine .skip _ fun ⟨year, cs⟩ => ?_
  refine .skip _ fun cs => ?_
  refine .skip _ fun ⟨month, cs⟩ => ?_
  refine .skip _ fun cs => ?_
  refine .skip _ fun ⟨day, cs⟩ => ?_
  dsimp -zeta only
  extract_lets time
  have htime : ∀ cs, Yields IsValid (time cs) := by
    intro cs
    refine .skip _ fun ⟨hour, cs⟩ => ?_
    refine .skip _ fun cs => ?_
    refine .skip _ fun ⟨minute, cs⟩ => ?_
    refine .skip _ fun cs => ?_
    refine .skip _ fun ⟨second, cs⟩ => ?_
    refine .skip _ fun ⟨nanosecond, cs⟩ => ?_
    refine .skip _ fun ⟨offset, cs⟩ => ?_
    refine .skip _ fun _ => ?_
    exact .skip _ fun _ => .guarded _
  split
  · split
    · exact .skip _ htime
    · exact .skip _ htime
  · exact .skip _ htime

namespace Json

variable {α : Type} [JsonForm α] {P : α → Prop} (hα : ∀ j, Yields P (ofJson? j))

include hα

theorem Slot.yields_required (slot : Slot) : Yields P slot.required := by
  cases slot with
  | given j => exact hα j
  | missing | beyond => exact nofun

theorem Slot.yields_orElse {default : α} (hdefault : P default) (slot : Slot) :
    Yields P (slot.orElse default) := by
  cases slot with
  | given j => exact hα j
  | missing | beyond => exact .of_pure hdefault

theorem yields_option (j : Json) :
    Yields (fun o : Option α => ∀ a, o = some a → P a) (ofJson? j) := by
  change Yields _ (nullable ofJson? j)
  unfold nullable
  split
  · refine .of_pure fun a ha => ?_
    cases ha
  · refine (hα _).map fun a ha => ?_
    rintro _ ⟨⟩
    exact ha

end Json

open Json

theorem yields_timestamp (j : Json) : Yields Timestamp.IsValid (ofJson? j) :=
  .skip _ Timestamp.yields_parse?

theorem yields_trustedCa (j : Json) :
    Yields (fun ca : TrustedCa => ca.installedAt.IsValid) (ofJson? j) := by
  refine .skip _ fun slot => .skip _ fun root => .skip _ fun server => ?_
  exact (Slot.yields_required yields_timestamp _).bind fun _ htime => .of_pure htime

theorem yields_storedNetwork (j : Json) : Yields StoredNetwork.Timely (ofJson? j) := by
  refine .skip _ fun slot => .skip _ fun selection => .skip _ fun autojoin => ?_
  refine .skip _ fun approved => .skip _ fun tofu => ?_
  refine (Slot.yields_orElse (yields_option yields_trustedCa) ?_ _).bind fun _ hca => ?_
  · intro ca hnone
    cases hnone
  · exact .of_pure hca

theorem SortedMap.mem_of_get?_foldl {κ ν : Type} [Ranked κ] {pairs : List (κ × ν)}
    {m : SortedMap κ ν} {k : κ} {v : ν}
    (h : (pairs.foldl (fun m p => m.insert p.1 p.2) m).get? k = some v) :
    m.get? k = some v ∨ (k, v) ∈ pairs := by
  induction pairs generalizing m with
  | nil => exact .inl h
  | cons p pairs ih =>
      rcases ih h with hinserted | hmem
      · by_cases hkey : p.1 = k
        · subst hkey
          rw [get?_insert_self] at hinserted
          cases hinserted
          exact .inr List.mem_cons_self
        · rw [get?_insert_of_ne m p.2 hkey] at hinserted
          exact .inl hinserted
      · exact .inr (List.mem_cons_of_mem p hmem)

theorem SortedMap.mem_of_get?_ofList {κ ν : Type} [Ranked κ] {pairs : List (κ × ν)} {k : κ}
    {v : ν} (h : (ofList pairs).get? k = some v) : (k, v) ∈ pairs := by
  rcases mem_of_get?_foldl h with hempty | hmem
  · cases hempty
  · exact hmem

theorem yields_networkMap (j : Json) :
    Yields (fun networks : NetworkMap => ∀ id stored, networks.get? id = some stored →
      stored.Timely) (ofJson? j) := by
  cases j with
  | object members =>
      have hpairs : ∀ m : List Char × Json,
          Yields (fun p : NetworkId × StoredNetwork => p.2.Timely)
            (do return ((← ofJson? (Json.number m.1) : NetworkId), (← ofJson? m.2))) := by
        rintro ⟨key, j⟩
        exact .skip _ fun id => (yields_storedNetwork j).bind fun _ hstored => .of_pure hstored
      refine (Yields.mapM hpairs members).bind fun pairs hpairs => .of_pure ?_
      intro id stored hstored
      exact hpairs _ (SortedMap.mem_of_get?_ofList hstored)
  | null | bool | number | string | array => exact nofun

namespace MemoryStore

theorem yields_ofJson? {clock : Timestamp} (time : clock.IsValid) (j : Json) :
    Yields (fun s => s.Timely ∧ s.failCaUpdates = false) (ofJson? clock j) := by
  refine .skip _ fun slot => ?_
  refine (Slot.yields_required yields_networkMap _).bind fun networks hnetworks => .of_pure ?_
  exact ⟨timely_of_networks time hnetworks, rfl⟩

/-- A store that is loaded can be saved and loaded again, and it takes what is installed. -/
theorem timely_of_load {clock : Timestamp} (time : clock.IsValid) {p : Path} {w w' : Script.World}
    {s : MemoryStore} (loaded : (load clock p).perform w = (.ok s, w')) :
    s.Timely ∧ s.failCaUpdates = false := by
  obtain ⟨found, w₁, -, hrest⟩ := Action.perform_bind_eq_ok loaded
  split at hrest
  · obtain ⟨text, w₂, -, hread⟩ := Action.perform_bind_eq_ok hrest
    split at hread
    · next read hparsed =>
        cases hread
        obtain ⟨j, -, hj⟩ := Option.bind_eq_some_iff.1 hparsed
        exact yields_ofJson? time j _ hj
    · cases hread
  · cases hrest
    exact ⟨timely_of_networks time fun _ _ h => (by cases h), rfl⟩

end MemoryStore

end WifiTrust
