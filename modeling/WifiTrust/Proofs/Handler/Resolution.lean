import WifiTrust.Proofs.Handler.Effect

/-!
# One decision for each attempt

An operation adds at most one decision, and it does so exactly when it ends the attempt that it
found. From one preparation to the next, at most one decision is made about the pending connection.
-/

namespace WifiTrust

/-- Whether the user approved or refused, as opposed to an attempt that was given up. -/
def Decision.isVerdict : Decision → Bool
  | .accept _ | .reject _ => true
  | .error _ => false

namespace Handler

variable {σ : Type}

/-- How the decision of an operation fits what the operation found and what it left behind. -/
structure Decides (h : Handler σ) (op : Operation) (h' : Handler σ) (decided : Option Decision) :
    Prop where
  appended : h'.decisions = h.decisions ++ decided.toList
  closes : decided ≠ none → h'.pending = none
  owed : h.pending ≠ none → h'.pending = none → decided ≠ none ∨ op = .cleanup
  idle : h.pending = none → h'.pending = none ∨ ∃ n, op = .prepare n
  verdict : ∀ ssid, decided = some (.accept ssid) ∨ decided = some (.reject ssid) →
    h.pendingSsid = some ssid
  stale : h.pending = none → ∀ d, decided = some d →
    ∃ ssid, d = .error ssid ∧ (ssid = none ∨ op = .error ssid)

theorem Decides.silent {h h' : Handler σ} {op : Operation} (hd : h'.decisions = h.decisions)
    (hp : h'.pending = none ↔ h.pending = none) : Decides h op h' none where
  appended := hd.trans (List.append_nil _).symm
  closes := fun hne => absurd rfl hne
  owed := fun hsome hnone => absurd (hp.1 hnone) hsome
  idle := fun hnone => .inl (hp.2 hnone)
  verdict := nofun
  stale := nofun

theorem Decides.resolved {h h' : Handler σ} {op : Operation} {p : Pending} {d : Decision}
    (hp : h.pending = some p) (hd : h'.decisions = h.decisions ++ [d]) (hnone : h'.pending = none)
    (hssid : d.isVerdict = true → d.ssid = some p.network.ssid) : Decides h op h' (some d) where
  appended := hd
  closes := fun _ => hnone
  owed := fun _ _ => .inl (Option.some_ne_none d)
  idle := fun h0 => by rw [hp] at h0; cases h0
  verdict := by
    intro ssid hv
    rw [pendingSsid, hp]
    rcases hv with hv | hv
    · cases hv
      exact (hssid rfl).symm
    · cases hv
      exact (hssid rfl).symm
  stale := fun h0 => by rw [hp] at h0; cases h0

theorem Fails.report {h : Handler σ} {ssid : Option String} {op : Operation}
    (failure : Fails h ssid op) (hnone : h.pending = none) : ssid = none ∨ op = .error ssid := by
  cases failure with
  | host => exact .inr rfl
  | barred hp => rw [hp] at hnone; cases hnone
  | unusable _ hp => rw [hp] at hnone; cases hnone
  | lost => exact .inl rfl
  | stale => exact .inl rfl

variable [NetworkStore σ]

theorem Effect.decides {h h' : Handler σ} {op : Operation} (effect : Effect h op h') :
    ∃ decided, Decides h op h' decided := by
  cases effect with
  | ignored => exact ⟨none, .silent rfl Iff.rfl⟩
  | prepared n =>
      rw [prepare_eq]
      exact ⟨none, (List.append_nil _).symm, nofun, nofun, fun _ => .inr ⟨n, rfl⟩, nofun, nofun⟩
  | @collected _ _ depth _ p _ chain _ _ _ hp =>
      rw [received_eq]
      exact ⟨none, .silent rfl (by simp [hp])⟩
  | @started _ p _ hp _ _ _ shown =>
      rw [shown.frame]
      exact ⟨none, .silent rfl (by simp [markStarted, hp])⟩
  | broken hp =>
      rw [showInvalidChain_eq, error_eq]
      exact ⟨_, .resolved hp rfl rfl nofun⟩
  | reopened _ _ shown =>
      rw [shown.frame]
      exact ⟨none, .silent rfl Iff.rfl⟩
  | acknowledged =>
      rw [dismissPrompt_eq]
      exact ⟨none, .silent rfl Iff.rfl⟩
  | @installed _ p root leaf _ hp =>
      rw [installChain_eq, grant_eq]
      exact ⟨_, .resolved hp rfl rfl (fun _ => rfl)⟩
  | approved _ hp =>
      rw [grant_eq]
      exact ⟨_, .resolved hp rfl rfl (fun _ => rfl)⟩
  | refused _ hp =>
      rw [refuse_eq h hp]
      exact ⟨_, .resolved hp rfl rfl (fun _ => rfl)⟩
  | @failed _ ssid failure =>
      rw [error_eq]
      cases hp : h.pending with
      | some p => exact ⟨_, .resolved hp rfl rfl nofun⟩
      | none =>
          refine ⟨some (.error ssid), rfl, fun _ => rfl, fun hne => absurd hp hne,
            fun _ => .inl rfl, ?_, ?_⟩
          · rintro _ (hv | hv)
            · cases hv
            · cases hv
          · rintro _ _ ⟨⟩
            exact ⟨ssid, rfl, failure.report hp⟩
  | held disconnect =>
      rw [putOnHold_eq]
      exact ⟨none, .silent rfl Iff.rfl⟩
  | cleaned =>
      rw [cleanup_eq]
      exact ⟨none, (List.append_nil _).symm, fun hne => absurd rfl hne, fun _ _ => .inr rfl,
        fun _ => .inl rfl, nofun, nofun⟩

theorem run_decisions_extend (h : Handler σ) (ops : List Operation) :
    h.decisions <+: (h.run ops).decisions := by
  have keeps {g g' : Handler σ} {op : Operation} (effect : Effect g op g')
      (hg : h.decisions <+: g.decisions) : h.decisions <+: g'.decisions := by
    obtain ⟨decided, hdecides⟩ := effect.decides
    rw [hdecides.appended]
    exact hg.trans (List.prefix_append g.decisions decided.toList)
  exact run_invariant keeps List.prefix_rfl ops

/-- The decisions of a run that were made while a connection was pending. -/
def resolutions (h : Handler σ) : List Operation → List Decision
  | [] => []
  | op :: ops =>
      (if h.pending.isSome then (h.step op).2.decisions.drop h.decisions.length else []) ++
        (h.step op).2.resolutions ops

theorem step_decides (h : Handler σ) (op : Operation) :
    ∃ decided, Decides h op (h.step op).2 decided :=
  (step_effect h op).decides

theorem run_idle {h : Handler σ} (hnone : h.pending = none) {ops : List Operation}
    (hops : ∀ op ∈ ops, ∀ n, op ≠ .prepare n) :
    h.resolutions ops = [] ∧
      ∃ ds, (h.run ops).decisions = h.decisions ++ ds ∧ ds.countP Decision.isVerdict = 0 := by
  induction ops generalizing h with
  | nil => exact ⟨rfl, [], (List.append_nil _).symm, rfl⟩
  | cons op ops ih =>
      obtain ⟨decided, hd⟩ := step_decides h op
      have hidle : (h.step op).2.pending = none :=
        (hd.idle hnone).resolve_right fun ⟨n, hn⟩ => hops op List.mem_cons_self n hn
      obtain ⟨hres, ds, hds, hcount⟩ := ih hidle fun o ho => hops o (List.mem_cons_of_mem _ ho)
      have herror : decided.toList.countP Decision.isVerdict = 0 := by
        cases decided with
        | none => rfl
        | some d =>
            obtain ⟨ssid, rfl, _⟩ := hd.stale hnone d rfl
            rfl
      refine ⟨?_, decided.toList ++ ds, ?_, ?_⟩
      · rw [resolutions, hnone, hres]
        rfl
      · rw [run, hds, hd.appended, List.append_assoc]
      · rw [List.countP_append, herror, hcount]

/-- Until the next preparation, at most one decision is made about the pending connection, and at
most one approves or refuses. -/
theorem run_resolves_once (h : Handler σ) {ops : List Operation}
    (hops : ∀ op ∈ ops, ∀ n, op ≠ .prepare n) :
    (h.resolutions ops).length ≤ 1 ∧
      ∃ ds, (h.run ops).decisions = h.decisions ++ ds ∧ ds.countP Decision.isVerdict ≤ 1 := by
  induction ops generalizing h with
  | nil => exact ⟨Nat.zero_le 1, [], (List.append_nil _).symm, Nat.zero_le 1⟩
  | cons op ops ih =>
      have hrest : ∀ o ∈ ops, ∀ n, o ≠ .prepare n := fun o ho =>
        hops o (List.mem_cons_of_mem _ ho)
      obtain ⟨decided, hd⟩ := step_decides h op
      have hdrop : (h.step op).2.decisions.drop h.decisions.length = decided.toList := by
        rw [hd.appended, List.drop_left]
      rw [resolutions, hdrop, run]
      cases decided with
      | none =>
          obtain ⟨hres, ds, hds, hcount⟩ := ih (h.step op).2 hrest
          refine ⟨?_, ds, ?_, hcount⟩
          · simpa using hres
          · rw [hds, hd.appended, Option.toList_none, List.append_nil]
      | some d =>
          obtain ⟨hres, ds, hds, hcount⟩ := run_idle (hd.closes (Option.some_ne_none d)) hrest
          refine ⟨?_, [d] ++ ds, ?_, ?_⟩
          · rw [hres, List.append_nil]
            split
            · exact Nat.le_refl 1
            · exact Nat.zero_le 1
          · rw [hds, hd.appended, Option.toList_some, List.append_assoc]
          · rw [List.countP_append, hcount, Nat.add_zero]
            exact List.countP_le_length

/-- Every attempt is resolved once. An operation adds at most one decision, and while a connection
is pending it adds one exactly if it ends the attempt; approvals and refusals name the connection
that was pending. Until the next preparation one decision at most resolves the attempt. -/
theorem one_decision_per_attempt (h : Handler σ) :
    (∀ op, ∃ decided : Option Decision,
      (h.step op).2.decisions = h.decisions ++ decided.toList ∧
      (h.pending ≠ none → (∀ n, op ≠ .prepare n) → op ≠ .cleanup →
        (decided ≠ none ↔ (h.step op).2.pending = none)) ∧
      (∀ ssid, decided = some (.accept ssid) ∨ decided = some (.reject ssid) →
        h.pendingSsid = some ssid) ∧
      (h.pending = none → ∀ d, decided = some d →
        ∃ ssid, d = .error ssid ∧ (ssid = none ∨ op = .error ssid))) ∧
    ∀ ops : List Operation, (∀ op ∈ ops, ∀ n, op ≠ .prepare n) →
      (h.resolutions ops).length ≤ 1 ∧
        ∃ ds, (h.run ops).decisions = h.decisions ++ ds ∧
          ds.countP Decision.isVerdict ≤ 1 := by
  refine ⟨fun op => ?_, fun ops hops => h.run_resolves_once hops⟩
  obtain ⟨decided, hd⟩ := step_decides h op
  refine ⟨decided, hd.appended, ?_, hd.verdict, hd.stale⟩
  intro hsome _ hcleanup
  constructor
  · exact hd.closes
  · intro hnone
    exact (hd.owed hsome hnone).resolve_right hcleanup

end Handler

end WifiTrust
