import WifiTrust.Proofs.Store.Entry

/-!
# Selections and their history

A store in memory keeps a network's selection twice, in its entry and in the history. Main statement:
however its switches are turned, the entry has the latest selection of the history, the history has
the selections that were taken and no others, and an operation touches one field of one entry.
-/

namespace WifiTrust

/-- Something that is done to a store in memory: an update, a turn of a switch, or waiting. -/
inductive StoreOperation where
  | updateSelection (id : NetworkId) (status : Selection)
  | updateCa (id : NetworkId) (root leaf : Certificate)
  | setApprovedWithoutCa (id : NetworkId) (approved : Bool)
  | enableTrustOnFirstUse (id : NetworkId) (enabled : Bool)
  | allowAutojoin (id : NetworkId) (allowed : Bool)
  | failCaUpdates (on : Bool)
  | failSelectionUpdates (on : Bool)
  | wait (now : Timestamp)
  deriving DecidableEq

inductive StoredNetwork.Field where
  | selection
  | autojoin
  | approvedWithoutCa
  | trustOnFirstUse
  | trustedCa
  deriving DecidableEq

def StoredNetwork.AgreeIn (e e' : StoredNetwork) : Field → Prop
  | .selection => e.selection = e'.selection
  | .autojoin => e.autojoin = e'.autojoin
  | .approvedWithoutCa => e.approvedWithoutCa = e'.approvedWithoutCa
  | .trustOnFirstUse => e.trustOnFirstUse = e'.trustOnFirstUse
  | .trustedCa => e.trustedCa = e'.trustedCa

theorem StoredNetwork.AgreeIn.refl (e : StoredNetwork) (f : Field) : e.AgreeIn e f := by
  cases f <;> rfl

namespace StoreOperation

def target? : StoreOperation → Option NetworkId
  | updateSelection id _ | updateCa id _ _ | setApprovedWithoutCa id _
  | enableTrustOnFirstUse id _ | allowAutojoin id _ => some id
  | failCaUpdates _ | failSelectionUpdates _ | wait _ => none

def field? : StoreOperation → Option StoredNetwork.Field
  | updateSelection _ _ => some .selection
  | updateCa _ _ _ => some .trustedCa
  | setApprovedWithoutCa _ _ => some .approvedWithoutCa
  | enableTrustOnFirstUse _ _ => some .trustOnFirstUse
  | allowAutojoin _ _ => some .autojoin
  | failCaUpdates _ | failSelectionUpdates _ | wait _ => none

def selection? : StoreOperation → Option (NetworkId × Selection)
  | updateSelection id status => some (id, status)
  | _ => none

/-- What an update that is taken at a moment makes of an entry. -/
def write (now : Timestamp) (e : StoredNetwork) : StoreOperation → StoredNetwork
  | updateSelection _ status => { e with selection := status }
  | updateCa _ root leaf => { e with trustedCa := some ⟨root, leaf, now⟩ }
  | setApprovedWithoutCa _ approved => { e with approvedWithoutCa := approved }
  | enableTrustOnFirstUse _ enabled => { e with trustOnFirstUse := some enabled }
  | allowAutojoin _ allowed => { e with autojoin := allowed }
  | failCaUpdates _ | failSelectionUpdates _ | wait _ => e

theorem write_agreeIn {op : StoreOperation} {f : StoredNetwork.Field} (h : op.field? ≠ some f)
    (now : Timestamp) (e : StoredNetwork) : (op.write now e).AgreeIn e f := by
  cases op with
  | updateSelection id status =>
      cases f with
      | selection => exact absurd rfl h
      | _ => rfl
  | updateCa id root leaf =>
      cases f with
      | trustedCa => exact absurd rfl h
      | _ => rfl
  | setApprovedWithoutCa id approved =>
      cases f with
      | approvedWithoutCa => exact absurd rfl h
      | _ => rfl
  | enableTrustOnFirstUse id enabled =>
      cases f with
      | trustOnFirstUse => exact absurd rfl h
      | _ => rfl
  | allowAutojoin id allowed =>
      cases f with
      | autojoin => exact absurd rfl h
      | _ => rfl
  | _ => exact .refl e f

theorem selection_write_of_none {op : StoreOperation} (h : op.selection? = none)
    (now : Timestamp) (e : StoredNetwork) : (op.write now e).selection = e.selection := by
  cases op with
  | updateSelection id status => cases h
  | _ => rfl

theorem write_of_selection? {op : StoreOperation} {id : NetworkId} {status : Selection}
    (h : op.selection? = some (id, status)) :
    op.target? = some id ∧ ∀ now e, (op.write now e).selection = status := by
  cases op with
  | updateSelection id status =>
      cases h
      exact ⟨rfl, fun _ _ => rfl⟩
  | _ => cases h

end StoreOperation

def latestSelection? (history : List (NetworkId × Selection)) (id : NetworkId) : Option Selection :=
  ((history.filter (·.1 = id)).getLast?).map (·.2)

theorem latestSelection?_append_self (history : List (NetworkId × Selection)) (id : NetworkId)
    (status : Selection) : latestSelection? (history ++ [(id, status)]) id = some status := by
  simp [latestSelection?, List.filter_append]

theorem latestSelection?_append_of_ne (history : List (NetworkId × Selection))
    {id other : NetworkId} (status : Selection) (h : id ≠ other) :
    latestSelection? (history ++ [(id, status)]) other = latestSelection? history other := by
  simp [latestSelection?, List.filter_append, h]

namespace MemoryStore

/-- Carry out an operation, and tell whether it is taken. -/
def step (s : MemoryStore) : StoreOperation → Bool × MemoryStore
  | .updateSelection id status => NetworkStore.updateSelection s id status
  | .updateCa id root leaf => NetworkStore.updateCa s id root leaf
  | .setApprovedWithoutCa id approved => (true, NetworkStore.setApprovedWithoutCa s id approved)
  | .enableTrustOnFirstUse id enabled => (true, NetworkStore.enableTrustOnFirstUse s id enabled)
  | .allowAutojoin id allowed => (true, NetworkStore.allowAutojoin s id allowed)
  | .failCaUpdates on => (true, { s with failCaUpdates := on })
  | .failSelectionUpdates on => (true, { s with failSelectionUpdates := on })
  | .wait now => (true, { s with clock := now })

def run (s : MemoryStore) : List StoreOperation → MemoryStore
  | [] => s
  | op :: ops => (s.step op).2.run ops

/-- The operations of a run that are taken, in order. -/
def taken (s : MemoryStore) : List StoreOperation → List StoreOperation
  | [] => []
  | op :: ops =>
      if (s.step op).1 then op :: (s.step op).2.taken ops else (s.step op).2.taken ops

section Step

variable (s : MemoryStore) (op : StoreOperation)

theorem updateSelection_of_failing {s : MemoryStore} (hfail : s.failSelectionUpdates = true)
    (id : NetworkId) (status : Selection) :
    NetworkStore.updateSelection s id status = (false, s) := if_pos hfail

theorem updateSelection_of_working {s : MemoryStore} (hfail : s.failSelectionUpdates = false)
    (id : NetworkId) (status : Selection) : NetworkStore.updateSelection s id status =
      (true, { s.modify id ({ · with selection := status }) with
        selectionHistory := s.selectionHistory ++ [(id, status)] }) :=
  if_neg (Bool.eq_false_iff.1 hfail)

/-- An operation is refused by its switch and for no other reason. -/
theorem step_refused_iff : (s.step op).1 = false ↔
    (op.field? = some .selection ∧ s.failSelectionUpdates = true) ∨
      (op.field? = some .trustedCa ∧ s.failCaUpdates = true) := by
  cases op with
  | updateSelection id status =>
      cases hfail : s.failSelectionUpdates with
      | true => simp [step, updateSelection_of_failing hfail, StoreOperation.field?]
      | false => simp [step, updateSelection_of_working hfail, StoreOperation.field?]
  | updateCa id root leaf =>
      cases hfail : s.failCaUpdates with
      | true => simp [step, updateCa_of_failing hfail, StoreOperation.field?]
      | false => simp [step, updateCa_of_working hfail, StoreOperation.field?]
  | _ => simp [step, StoreOperation.field?]

theorem step_of_refused {s : MemoryStore} {op : StoreOperation} (h : (s.step op).1 = false) :
    (s.step op).2 = s := by
  rcases (s.step_refused_iff op).1 h with ⟨hfield, hfail⟩ | ⟨hfield, hfail⟩
  · cases op with
    | updateSelection id status => rw [step, updateSelection_of_failing hfail]
    | _ => cases hfield
  · cases op with
    | updateCa id root leaf => rw [step, updateCa_of_failing hfail]
    | _ => cases hfield

theorem networks_step : (s.step op).2.networks =
    match op.target? with
    | some id =>
        if (s.step op).1 then s.networks.insert id (op.write s.clock (s.entry id)) else s.networks
    | none => s.networks := by
  cases op with
  | updateSelection id status =>
      cases hfail : s.failSelectionUpdates with
      | true =>
          rw [step, updateSelection_of_failing hfail]
          rfl
      | false =>
          rw [step, updateSelection_of_working hfail]
          rfl
  | updateCa id root leaf =>
      cases hfail : s.failCaUpdates with
      | true =>
          rw [step, updateCa_of_failing hfail]
          rfl
      | false =>
          rw [step, updateCa_of_working hfail]
          rfl
  | _ => rfl

theorem selectionHistory_step : (s.step op).2.selectionHistory =
    s.selectionHistory ++ if (s.step op).1 then op.selection?.toList else [] := by
  cases op with
  | updateSelection id status =>
      cases hfail : s.failSelectionUpdates with
      | true =>
          rw [step, updateSelection_of_failing hfail]
          exact (List.append_nil _).symm
      | false =>
          rw [step, updateSelection_of_working hfail]
          rfl
  | updateCa id root leaf =>
      cases hfail : s.failCaUpdates with
      | true =>
          rw [step, updateCa_of_failing hfail]
          exact (List.append_nil _).symm
      | false =>
          rw [step, updateCa_of_working hfail]
          exact (List.append_nil _).symm
  | _ => exact (List.append_nil _).symm

theorem network?_step (id : NetworkId) : (s.step op).2.network? id =
    if (s.step op).1 = true ∧ op.target? = some id then some (op.write s.clock (s.entry id))
    else s.network? id := by
  rw [network?, networks_step]
  cases htarget : op.target? with
  | none => simp [network?]
  | some target =>
      dsimp only
      cases htaken : (s.step op).1 with
      | false => simp [network?]
      | true =>
          by_cases hid : target = id
          · subst hid
            simp [SortedMap.get?_insert_self]
          · simp [SortedMap.get?_insert_of_ne _ _ hid, hid, network?]

theorem entry_step (id : NetworkId) : (s.step op).2.entry id =
    if (s.step op).1 = true ∧ op.target? = some id then op.write s.clock (s.entry id)
    else s.entry id := by
  unfold entry
  rw [network?_step]
  split
  · rfl
  · rfl

end Step

/-- Every network that is stored has its latest selection in the history, and is enabled if there is
none; every network of the history is stored. -/
structure FollowsHistory (s : MemoryStore) : Prop where
  selection : ∀ id stored, s.network? id = some stored →
    stored.selection = (latestSelection? s.selectionHistory id).getD .enabled
  stored : ∀ id, latestSelection? s.selectionHistory id ≠ none → s.network? id ≠ none

/-- What an operation changes. An update that is refused changes nothing at all; one that is taken
changes the one field of the one network that it is about, and that network is stored from then on.
A network without an entry counts as one with the defaults. -/
structure Touches (s : MemoryStore) (op : StoreOperation) : Prop where
  refused_iff : (s.step op).1 = false ↔
    (op.field? = some .selection ∧ s.failSelectionUpdates = true) ∨
      (op.field? = some .trustedCa ∧ s.failCaUpdates = true)
  refused : (s.step op).1 = false → (s.step op).2 = s
  written : (s.step op).1 = true → ∀ id, op.target? = some id →
    (s.step op).2.network? id = some (op.write s.clock (s.entry id))
  others : ∀ id, op.target? ≠ some id → (s.step op).2.network? id = s.network? id
  fields : ∀ id f, op.field? ≠ some f → ((s.step op).2.entry id).AgreeIn (s.entry id) f

theorem touches (s : MemoryStore) (op : StoreOperation) : s.Touches op where
  refused_iff := s.step_refused_iff op
  refused := step_of_refused
  written taken id h := by rw [network?_step, if_pos ⟨taken, h⟩]
  others id h := by rw [network?_step, if_neg fun hwritten => h hwritten.2]
  fields id f h := by
    rw [entry_step]
    split
    · exact StoreOperation.write_agreeIn h s.clock _
    · exact .refl _ f

namespace FollowsHistory

variable {s : MemoryStore}

theorem entry (h : s.FollowsHistory) (id : NetworkId) :
    (s.entry id).selection = (latestSelection? s.selectionHistory id).getD .enabled := by
  cases hstored : s.network? id with
  | some stored => rw [entry_of_network? hstored, h.selection id stored hstored]
  | none =>
      have hlatest : latestSelection? s.selectionHistory id = none :=
        Classical.not_not.1 fun hlatest => h.stored id hlatest hstored
      rw [hlatest, MemoryStore.entry, hstored]
      rfl

theorem of_entry
    (selection : ∀ id, (s.entry id).selection =
      (latestSelection? s.selectionHistory id).getD .enabled)
    (stored : ∀ id, latestSelection? s.selectionHistory id ≠ none → s.network? id ≠ none) :
    s.FollowsHistory where
  selection id stored hstored := by rw [← selection id, entry_of_network? hstored]
  stored := stored

theorem step (h : s.FollowsHistory) (op : StoreOperation) : (s.step op).2.FollowsHistory := by
  cases htaken : (s.step op).1 with
  | false =>
      rw [step_of_refused htaken]
      exact h
  | true =>
      cases hselection : op.selection? with
      | none =>
          have hhistory : (s.step op).2.selectionHistory = s.selectionHistory := by
            simp [selectionHistory_step, hselection]
          refine of_entry (fun id => ?_) fun id hlatest => ?_
          · rw [hhistory, ← h.entry id, entry_step]
            split
            · exact StoreOperation.selection_write_of_none hselection s.clock _
            · rfl
          · rw [hhistory] at hlatest
            rw [network?_step]
            split
            · exact Option.some_ne_none _
            · exact h.stored id hlatest
      | some item =>
          obtain ⟨target, status⟩ := item
          obtain ⟨htarget, hwrite⟩ := StoreOperation.write_of_selection? hselection
          have hhistory : (s.step op).2.selectionHistory =
              s.selectionHistory ++ [(target, status)] := by
            simp [selectionHistory_step, htaken, hselection]
          refine of_entry (fun id => ?_) fun id hlatest => ?_
          · rw [hhistory, entry_step, htaken, htarget]
            by_cases hid : target = id
            · subst hid
              rw [if_pos ⟨rfl, rfl⟩, hwrite, latestSelection?_append_self, Option.getD_some]
            · rw [if_neg fun hwritten => hid (Option.some.inj hwritten.2), h.entry,
                latestSelection?_append_of_ne _ _ hid]
          · rw [network?_step, htaken, htarget]
            by_cases hid : target = id
            · rw [if_pos ⟨rfl, congrArg some hid⟩]
              exact Option.some_ne_none _
            · rw [if_neg fun hwritten => hid (Option.some.inj hwritten.2)]
              rw [hhistory, latestSelection?_append_of_ne _ _ hid] at hlatest
              exact h.stored id hlatest

theorem run (h : s.FollowsHistory) (ops : List StoreOperation) : (s.run ops).FollowsHistory := by
  induction ops generalizing s with
  | nil => exact h
  | cons op ops ih => exact ih (h.step op)

end FollowsHistory

theorem selectionHistory_run (s : MemoryStore) (ops : List StoreOperation) :
    (s.run ops).selectionHistory =
      s.selectionHistory ++ (s.taken ops).filterMap StoreOperation.selection? := by
  induction ops generalizing s with
  | nil => exact (List.append_nil _).symm
  | cons op ops ih =>
      rw [run, ih, selectionHistory_step, taken, List.append_assoc]
      split
      · cases hselection : op.selection? with
        | none => simp [hselection]
        | some item => simp [hselection]
      · rfl

/-- A store that starts without networks keeps both records of the selections in step, whatever is
done to it. -/
theorem selections_follow_history (clock : Timestamp) (ops : List StoreOperation) :
    let start : MemoryStore := { clock := clock }
    (start.run ops).FollowsHistory ∧
    (start.run ops).selectionHistory = (start.taken ops).filterMap StoreOperation.selection? ∧
    ∀ op, (start.run ops).Touches op := by
  intro start
  have hempty : start.FollowsHistory := ⟨nofun, fun _ h => absurd rfl h⟩
  have hhistory : start.selectionHistory = [] := rfl
  refine ⟨hempty.run ops, ?_, fun op => touches _ op⟩
  rw [selectionHistory_run, hhistory, List.nil_append]

end MemoryStore

end WifiTrust
