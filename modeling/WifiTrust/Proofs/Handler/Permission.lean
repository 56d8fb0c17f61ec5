import WifiTrust.Proofs.Handler.Hold
import WifiTrust.Proofs.Handler.InstalledTrust
import WifiTrust.Proofs.Handler.Resolution

/-!
# Who may open a network again

Errors, holds and preparations can only take the selection of a network away, and they leave its
automatic connection alone. Only an approval of the network gives either back, and only a refusal
takes the automatic connection away.
-/

namespace WifiTrust

namespace MemoryStore

open NetworkStore

/-- The second store lets no network be selected that the first one forbids, and the same networks
connect automatically. -/
structure Restricts (s s' : MemoryStore) : Prop where
  selection : ∀ id, (s'.entry id).selection = (s.entry id).selection ∨
    (s'.entry id).selection = .disabledByPolicy
  autojoin : ∀ id, (s'.entry id).autojoin = (s.entry id).autojoin

namespace Restricts

theorem refl (s : MemoryStore) : Restricts s s := ⟨fun _ => .inl rfl, fun _ => rfl⟩

theorem ite {s s' : MemoryStore} {c : Prop} [Decidable c] (h : Restricts s s') :
    Restricts s (if c then s' else s) := by
  split
  · exact h
  · exact refl s

theorem disable (s : MemoryStore) (id : NetworkId) :
    Restricts s (NetworkStore.updateSelection s id .disabledByPolicy).2 := by
  constructor
  · intro other
    rw [entry_updateSelection]
    split
    · exact .inr rfl
    · exact .inl rfl
  · intro other
    rw [entry_updateSelection]
    split
    · rfl
    · rfl

end Restricts

/-- The second store lets a network be selected and connect automatically as the first one does. -/
structure SamePermission (s s' : MemoryStore) (id : NetworkId) : Prop where
  selection : (s'.entry id).selection = (s.entry id).selection
  autojoin : (s'.entry id).autojoin = (s.entry id).autojoin

theorem SamePermission.trans {s s' s'' : MemoryStore} {id : NetworkId}
    (h : SamePermission s s' id) (h' : SamePermission s' s'' id) : SamePermission s s'' id where
  selection := h'.selection.trans h.selection
  autojoin := h'.autojoin.trans h.autojoin

theorem samePermission_installedStore (s : MemoryStore) (id : NetworkId) (root leaf : Certificate)
    (other : NetworkId) : SamePermission s (Handler.installedStore s id root leaf) other := by
  have hentry := Handler.entry_installedStore s id root leaf other
  constructor
  · rw [hentry, apply_ite StoredNetwork.selection, ite_self]
  · rw [hentry, apply_ite StoredNetwork.autojoin, ite_self]

theorem samePermission_setApprovedWithoutCa (s : MemoryStore) (id : NetworkId) (approved : Bool)
    (other : NetworkId) : SamePermission s (setApprovedWithoutCa s id approved) other := by
  have hentry := entry_setApprovedWithoutCa s id approved other
  constructor
  · rw [hentry, apply_ite StoredNetwork.selection, ite_self]
  · rw [hentry, apply_ite StoredNetwork.autojoin, ite_self]

theorem samePermission_ruled (s : MemoryStore) (id : NetworkId) (status : Selection)
    (allowed : Bool) {other : NetworkId} (hother : other ≠ id) :
    SamePermission s (allowAutojoin (NetworkStore.updateSelection s id status).2 id allowed)
      other := by
  have hkept : (allowAutojoin (NetworkStore.updateSelection s id status).2 id allowed).entry other =
      s.entry other := by
    rw [entry_allowAutojoin, if_neg hother, entry_updateSelection]
    exact if_neg fun hid => hother hid.1
  exact ⟨by rw [hkept], by rw [hkept]⟩

theorem autojoin_allowAutojoin (s : MemoryStore) (id : NetworkId) (allowed : Bool) :
    ((allowAutojoin s id allowed).entry id).autojoin = allowed := by
  rw [entry_allowAutojoin, if_pos rfl]

theorem selection_allowAutojoin (s : MemoryStore) (id : NetworkId) (allowed : Bool)
    (other : NetworkId) :
    ((allowAutojoin s id allowed).entry other).selection = (s.entry other).selection := by
  rw [entry_allowAutojoin, apply_ite StoredNetwork.selection, ite_self]

end MemoryStore

namespace Handler

open MemoryStore

/-- An operation closes the pending connection of a network with a verdict. -/
def Concludes (h : Handler MemoryStore) (op : Operation) (id : NetworkId)
    (verdict : String → Decision) : Prop :=
  ∃ p, h.pending = some p ∧ p.network.id = id ∧
    (h.step op).2.decisions = h.decisions ++ [verdict p.network.ssid]

inductive PermissionStep (h h' : Handler MemoryStore) : Prop
  | restricted (restricts : Restricts h.store h'.store)
      (unrefused : ∀ ssid, h'.decisions ≠ h.decisions ++ [.reject ssid])
  | granted {p : Pending} (pending : h.pending = some p)
      (accepted : h'.decisions = h.decisions ++ [.accept p.network.ssid])
      (autojoin : (h'.store.entry p.network.id).autojoin = true)
      (others : ∀ id, id ≠ p.network.id → SamePermission h.store h'.store id)
  | refused {p : Pending} (pending : h.pending = some p)
      (rejected : h'.decisions = h.decisions ++ [.reject p.network.ssid])
      (selection : h.store.failSelectionUpdates = false →
        (h'.store.entry p.network.id).selection = .disabledByPolicy)
      (autojoin : (h'.store.entry p.network.id).autojoin = false)
      (others : ∀ id, id ≠ p.network.id → SamePermission h.store h'.store id)

theorem restricts_heldStore (h : Handler MemoryStore) : Restricts h.store h.heldStore := by
  unfold heldStore
  cases h.pending with
  | none => exact .refl h.store
  | some p => exact .disable h.store p.network.id

theorem PermissionStep.undecided {h h' : Handler MemoryStore}
    (restricts : Restricts h.store h'.store)
    (undecided : h'.decisions = h.decisions ∨ ∃ ssid, h'.decisions = h.decisions ++ [.error ssid]) :
    PermissionStep h h' := by
  apply restricted restricts
  intro name hrejected
  rcases undecided with hsame | ⟨ssid, herror⟩
  · have hlength := congrArg List.length (hsame.symm.trans hrejected)
    simp at hlength
  · have hlast := List.append_cancel_left (herror.symm.trans hrejected)
    cases hlast

theorem PermissionStep.ofGrant {h : Handler MemoryStore} {p : Pending} (hp : h.pending = some p)
    {g : Handler MemoryStore} (decisions : g.decisions = h.decisions)
    (same : ∀ id, SamePermission h.store g.store id) :
    PermissionStep h (g.grant p.network.id p.network.ssid) := by
  have haccepted : (g.grant p.network.id p.network.ssid).decisions =
      h.decisions ++ [.accept p.network.ssid] := by rw [grant_eq, decisions]
  apply granted hp haccepted
  · rw [grant_eq]
    exact autojoin_allowAutojoin _ p.network.id true
  · intro id hid
    rw [grant_eq]
    exact (same id).trans (samePermission_ruled g.store p.network.id .enabled true hid)

theorem PermissionStep.ofRefusal {h : Handler MemoryStore} {p : Pending}
    (hp : h.pending = some p) : PermissionStep h (h.refuse p p.network.ssid) := by
  have hheld : h.heldStore =
      (NetworkStore.updateSelection h.store p.network.id .disabledByPolicy).2 := by
    rw [heldStore, hp]
  rw [refuse_eq h hp, hheld]
  apply refused hp rfl
  · intro works
    rw [selection_allowAutojoin]
    exact selection_updateSelection works p.network.id .disabledByPolicy
  · exact autojoin_allowAutojoin _ p.network.id false
  · intro id hid
    exact samePermission_ruled h.store p.network.id .disabledByPolicy false hid

theorem Effect.permissionStep {h h' : Handler MemoryStore} {op : Operation}
    (effect : Effect h op h') : PermissionStep h h' := by
  have hheld : Restricts h.store h.heldStore := restricts_heldStore h
  cases effect with
  | ignored => exact .undecided (.refl h.store) (.inl rfl)
  | prepared n =>
      rw [prepare_eq]
      exact .undecided (.ite (.disable h.store n.id)) (.inl rfl)
  | @collected _ _ _ _ p =>
      rw [received_eq]
      exact .undecided (.ite (.disable h.store p.network.id)) (.inl rfl)
  | started _ _ _ _ shown =>
      rw [shown.frame]
      exact .undecided (.refl h.store) (.inl rfl)
  | broken =>
      rw [showInvalidChain_eq, error_eq]
      exact .undecided hheld (.inr ⟨_, rfl⟩)
  | reopened _ _ shown =>
      rw [shown.frame]
      exact .undecided (.refl h.store) (.inl rfl)
  | acknowledged =>
      rw [dismissPrompt_eq]
      exact .undecided (.refl h.store) (.inl rfl)
  | @installed _ p root leaf _ hp =>
      apply PermissionStep.ofGrant hp
      · rw [installChain_eq]
      · intro id
        rw [installChain_eq]
        exact samePermission_installedStore h.store _ _ _ id
  | @approved _ p _ hp =>
      refine PermissionStep.ofGrant hp ?_ ?_
      · rfl
      · exact samePermission_setApprovedWithoutCa h.store p.network.id true
  | refused _ hp => exact .ofRefusal hp
  | failed =>
      rw [error_eq]
      exact .undecided hheld (.inr ⟨_, rfl⟩)
  | held =>
      rw [putOnHold_eq]
      exact .undecided hheld (.inl rfl)
  | cleaned =>
      rw [cleanup_eq]
      exact .undecided (.refl h.store) (.inl rfl)

/-- Selection updates work, and the network can neither be selected nor connect automatically. -/
structure Barred (h : Handler MemoryStore) (id : NetworkId) : Prop where
  works : h.store.failSelectionUpdates = false
  selection : (h.store.entry id).selection = .disabledByPolicy
  autojoin : (h.store.entry id).autojoin = false

section Step

variable {h : Handler MemoryStore} {op : Operation} {id : NetworkId}

theorem accepted_of_enabled (works : h.store.failSelectionUpdates = false)
    (before : (h.store.entry id).selection = .disabledByPolicy)
    (after : ((h.step op).2.store.entry id).selection = .enabled) :
    h.Concludes op id .accept := by
  have hchanged : ((h.step op).2.store.entry id).selection ≠ (h.store.entry id).selection := by
    rw [before, after]
    decide
  cases (step_effect h op).permissionStep with
  | restricted restricts =>
      rcases restricts.selection id with hsame | hdisabled
      · exact absurd hsame hchanged
      · rw [after] at hdisabled
        cases hdisabled
  | @granted p hp haccepted _ others =>
      by_cases hid : id = p.network.id
      · exact ⟨p, hp, hid.symm, haccepted⟩
      · exact absurd (others id hid).selection hchanged
  | @refused p _ _ hselection _ others =>
      by_cases hid : id = p.network.id
      · rw [hid, hselection works] at after
        cases after
      · exact absurd (others id hid).selection hchanged

theorem accepted_of_joined (before : (h.store.entry id).autojoin = false)
    (after : ((h.step op).2.store.entry id).autojoin = true) : h.Concludes op id .accept := by
  have hchanged : ((h.step op).2.store.entry id).autojoin ≠ (h.store.entry id).autojoin := by
    rw [before, after]
    decide
  cases (step_effect h op).permissionStep with
  | restricted restricts => exact absurd (restricts.autojoin id) hchanged
  | @granted p hp haccepted _ others =>
      by_cases hid : id = p.network.id
      · exact ⟨p, hp, hid.symm, haccepted⟩
      · exact absurd (others id hid).autojoin hchanged
  | @refused p _ _ _ hautojoin others =>
      by_cases hid : id = p.network.id
      · rw [hid, hautojoin] at after
        cases after
      · exact absurd (others id hid).autojoin hchanged

theorem rejected_of_parted (before : (h.store.entry id).autojoin = true)
    (after : ((h.step op).2.store.entry id).autojoin = false) : h.Concludes op id .reject := by
  have hchanged : ((h.step op).2.store.entry id).autojoin ≠ (h.store.entry id).autojoin := by
    rw [before, after]
    decide
  cases (step_effect h op).permissionStep with
  | restricted restricts => exact absurd (restricts.autojoin id) hchanged
  | @granted p _ _ hautojoin others =>
      by_cases hid : id = p.network.id
      · rw [hid, hautojoin] at after
        cases after
      · exact absurd (others id hid).autojoin hchanged
  | @refused p hp hrejected _ _ others =>
      by_cases hid : id = p.network.id
      · exact ⟨p, hp, hid.symm, hrejected⟩
      · exact absurd (others id hid).autojoin hchanged

/-- An attempt that is given up leaves the automatic connection of every network alone. -/
theorem autojoin_of_error {ssid : Option String}
    (decided : (h.step op).2.decisions = h.decisions ++ [.error ssid]) :
    ((h.step op).2.store.entry id).autojoin = (h.store.entry id).autojoin := by
  cases (step_effect h op).permissionStep with
  | restricted restricts => exact restricts.autojoin id
  | granted _ haccepted =>
      have hlast := List.append_cancel_left (haccepted.symm.trans decided)
      cases hlast
  | refused _ hrejected =>
      have hlast := List.append_cancel_left (hrejected.symm.trans decided)
      cases hlast

theorem Barred.of_reject (works : h.store.failSelectionUpdates = false)
    (rejects : h.Concludes op id .reject) : (h.step op).2.Barred id := by
  obtain ⟨p, hp, rfl, hdecided⟩ := rejects
  have hworks : (h.step op).2.store.failSelectionUpdates = false :=
    (step_effect h op).sameSettings.failSelectionUpdates.trans works
  cases (step_effect h op).permissionStep with
  | restricted _ hunrefused => exact absurd hdecided (hunrefused p.network.ssid)
  | granted _ haccepted =>
      have hlast := List.append_cancel_left (haccepted.symm.trans hdecided)
      cases hlast
  | @refused q hq _ hselection hautojoin =>
      obtain rfl : p = q := Option.some.inj (hp.symm.trans hq)
      exact ⟨hworks, hselection works, hautojoin⟩

theorem Barred.step (hb : h.Barred id) (unapproved : ¬ h.Concludes op id .accept) :
    (h.step op).2.Barred id := by
  constructor
  · exact (step_effect h op).sameSettings.failSelectionUpdates.trans hb.works
  · cases hselection : ((h.step op).2.store.entry id).selection with
    | disabledByPolicy => rfl
    | enabled => exact absurd (accepted_of_enabled hb.works hb.selection hselection) unapproved
  · cases hautojoin : ((h.step op).2.store.entry id).autojoin with
    | false => rfl
    | true => exact absurd (accepted_of_joined hb.autojoin hautojoin) unapproved

end Step

theorem Barred.run {h : Handler MemoryStore} {id : NetworkId} (hb : h.Barred id)
    {ops : List Operation}
    (unapproved : ∀ earlier op rest, ops = earlier ++ op :: rest →
      ¬ (h.run earlier).Concludes op id .accept) : (h.run ops).Barred id := by
  induction ops generalizing h with
  | nil => exact hb
  | cons op ops ih =>
      have hfirst : ¬ h.Concludes op id .accept := unapproved [] op ops rfl
      apply ih (hb.step hfirst)
      rintro earlier next rest rfl
      exact unapproved (op :: earlier) next rest rfl

theorem Concludes.mem_decisions {h : Handler MemoryStore} {earlier : List Operation}
    {next : Operation} {id : NetworkId} {verdict : String → Decision}
    (concludes : (h.run earlier).Concludes next id verdict) (rest : List Operation) :
    ∃ ssid, verdict ssid ∈ (h.run (earlier ++ next :: rest)).decisions := by
  obtain ⟨p, _, _, hdecided⟩ := concludes
  have hmem : verdict p.network.ssid ∈ ((h.run earlier).step next).2.decisions := by
    rw [hdecided]
    exact List.mem_append_right _ (List.mem_singleton_self _)
  refine ⟨p.network.ssid, ?_⟩
  rw [run_append]
  exact (run_decisions_extend _ rest).subset hmem

/-- Only an approval opens a network again. If no selection update fails, a network comes to be
selectable, or to connect automatically, only when its pending connection is accepted, and it stops
to connect automatically only when that is rejected, not when it is given up. So once it is rejected
it stays barred until it is accepted. -/
theorem only_approval_reopens (policy : Policy) {store : MemoryStore}
    (works : store.failSelectionUpdates = false) (session : NativeSession) (board : PromptBoard)
    (decisions : List Decision) (ops : List Operation) (op : Operation) (id : NetworkId) :
    let h := (fresh policy store session board decisions).run ops
    let h' := (h.step op).2
    ((h.store.entry id).selection = .disabledByPolicy →
      (h'.store.entry id).selection = .enabled → h.Concludes op id .accept) ∧
    ((h.store.entry id).autojoin = false →
      (h'.store.entry id).autojoin = true → h.Concludes op id .accept) ∧
    ((h.store.entry id).autojoin = true →
      (h'.store.entry id).autojoin = false → h.Concludes op id .reject) ∧
    (∀ ssid, h'.decisions = h.decisions ++ [.error ssid] →
      (h'.store.entry id).autojoin = (h.store.entry id).autojoin) ∧
    (h.Concludes op id .reject → ∀ later,
      (∀ earlier next rest, later = earlier ++ next :: rest →
        ¬ (h'.run earlier).Concludes next id .accept) →
      ((h'.run later).store.entry id).selection = .disabledByPolicy ∧
        ((h'.run later).store.entry id).autojoin = false) := by
  intro h h'
  have hworks : h.store.failSelectionUpdates = false :=
    run_invariant (P := fun g => g.store.failSelectionUpdates = false)
      (fun effect hg => effect.sameSettings.failSelectionUpdates.trans hg) works ops
  refine ⟨accepted_of_enabled hworks, accepted_of_joined, rejected_of_parted,
    fun _ => autojoin_of_error, ?_⟩
  intro rejects later unapproved
  have hbarred : (h'.run later).Barred id := (Barred.of_reject hworks rejects).run unapproved
  exact ⟨hbarred.selection, hbarred.autojoin⟩

open Corporate in
theorem corporate_reopened_by_approval :
    let h : Handler MemoryStore :=
      (fresh {} { clock := default } {} {} []).run (collection ++ [.start true])
    let reject : Operation := .reply (token .tofuDialog) .reject
    let later := collection ++ [.error (some "corp"), .putOnHold true, .prepare network, .cleanup]
    h.store.failSelectionUpdates = false ∧ h.Concludes reject 7 .reject ∧
      ((((h.step reject).2.run later).store.entry 7).selection = .disabledByPolicy ∧
        (((h.step reject).2.run later).store.entry 7).autojoin = false) ∧
      (h.run (reject :: collection)).Concludes (.accept "corp") 7 .accept := by
  intro h reject later
  have works : ({ clock := default } : MemoryStore).failSelectionUpdates = false := rfl
  obtain ⟨_, _, hparted, _, hbarred⟩ :=
    only_approval_reopens {} works {} {} [] (collection ++ [.start true]) reject 7
  have rejects : h.Concludes reject 7 .reject := hparted (by decide +kernel) (by decide +kernel)
  have unapproved : ∀ earlier next rest, later = earlier ++ next :: rest →
      ¬ ((h.step reject).2.run earlier).Concludes next 7 .accept := by
    rintro earlier next rest split approves
    obtain ⟨ssid, hmem⟩ := approves.mem_decisions rest
    have hdecided : ((h.step reject).2.run later).decisions =
        [.reject "corp", .error (some "corp")] := by rfl
    rw [← split, hdecided] at hmem
    simp at hmem
  obtain ⟨hselected, _⟩ := only_approval_reopens {} works {} {} []
    (collection ++ [.start true] ++ reject :: collection) (.accept "corp") 7
  have approves := hselected (by decide +kernel) (by decide +kernel)
  rw [run_append] at approves
  exact ⟨rfl, rejects, hbarred rejects later unapproved, approves⟩

end Handler

end WifiTrust
