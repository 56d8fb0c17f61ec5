import Mathlib.Logic.Function.Iterate
import WifiTrust.Proofs.Store.Entry

namespace WifiTrust

/-- The second network is the first under other trust settings, with at most one more authority. -/
structure Network.Retrusted (n n' : Network) : Prop where
  id : n'.id = n.id
  ssid : n'.ssid = n.ssid
  personal : n.enterprise = none → n'.enterprise = none
  enterprise : ∀ e, n.enterprise = some e → ∃ approved tofu added,
    added.length ≤ 1 ∧ n'.enterprise = some
      { e with
        approvedWithoutCa := approved
        trustOnFirstUse := tofu
        caAliases := e.caAliases ++ added }

theorem Network.Retrusted.refl (n : Network) : n.Retrusted n where
  id := rfl
  ssid := rfl
  personal := fun h => h
  enterprise := fun e h => ⟨e.approvedWithoutCa, e.trustOnFirstUse, [], Nat.zero_le 1, by
    rw [h, List.append_nil]⟩

namespace MemoryStore

theorem applyTo_of_none {s : MemoryStore} {n : Network} (h : s.network? n.id = none) :
    s.applyTo n = n := by
  rw [applyTo, h]

theorem applyTo_of_some {s : MemoryStore} {n : Network} {stored : StoredNetwork}
    (h : s.network? n.id = some stored) :
    s.applyTo n = { n with enterprise := n.enterprise.map (applyStored stored) } := by
  rw [applyTo, h]

theorem applyTo_id (s : MemoryStore) (n : Network) : (s.applyTo n).id = n.id := by
  unfold applyTo
  split
  · rfl
  · rfl

theorem applyTo_ssid (s : MemoryStore) (n : Network) : (s.applyTo n).ssid = n.ssid := by
  unfold applyTo
  split
  · rfl
  · rfl

theorem caAliases_of_none {stored : StoredNetwork} (h : stored.trustedCa = none)
    (e : Enterprise) : (applyStored stored e).caAliases = e.caAliases := by
  rw [applyStored, h]

theorem caAliases_of_some {stored : StoredNetwork} {ca : TrustedCa}
    (h : stored.trustedCa = some ca) (e : Enterprise) : (applyStored stored e).caAliases =
      if caAlias ca ∈ e.caAliases then e.caAliases else e.caAliases ++ [caAlias ca] := by
  rw [applyStored, h]

theorem caAlias_mem_applyStored {stored : StoredNetwork} {ca : TrustedCa}
    (h : stored.trustedCa = some ca) (e : Enterprise) :
    caAlias ca ∈ (applyStored stored e).caAliases := by
  rw [caAliases_of_some h]
  split
  · next hlisted => exact hlisted
  · exact List.mem_append_right _ (List.mem_singleton_self _)

theorem exists_caAliases_applyStored (stored : StoredNetwork) (e : Enterprise) :
    ∃ added, added.length ≤ 1 ∧ (applyStored stored e).caAliases = e.caAliases ++ added := by
  cases hca : stored.trustedCa with
  | none => exact ⟨[], Nat.zero_le 1, by rw [caAliases_of_none hca, List.append_nil]⟩
  | some ca =>
      rw [caAliases_of_some hca]
      split
      · exact ⟨[], Nat.zero_le 1, (List.append_nil _).symm⟩
      · exact ⟨[caAlias ca], Nat.le_refl 1, rfl⟩

theorem applyStored_applyStored (stored : StoredNetwork) (e : Enterprise) :
    applyStored stored (applyStored stored e) = applyStored stored e := by
  have htofu (b : Bool) : stored.trustOnFirstUse.getD (stored.trustOnFirstUse.getD b) =
      stored.trustOnFirstUse.getD b := by
    cases stored.trustOnFirstUse with
    | none => rfl
    | some enabled => rfl
  rw [Enterprise.mk.injEq]
  refine ⟨rfl, rfl, rfl, rfl, ?_, rfl, htofu e.trustOnFirstUse, rfl⟩
  cases hca : stored.trustedCa with
  | none => exact caAliases_of_none hca _
  | some ca => rw [caAliases_of_some hca, if_pos (caAlias_mem_applyStored hca e)]

theorem applyTo_applyTo (s : MemoryStore) (n : Network) :
    s.applyTo (s.applyTo n) = s.applyTo n := by
  cases hstored : s.network? n.id with
  | none => rw [applyTo_of_none hstored, applyTo_of_none hstored]
  | some stored =>
      have hagain : s.network? (s.applyTo n).id = some stored := by rw [applyTo_id, hstored]
      rw [applyTo_of_some hagain, applyTo_of_some hstored, Option.map_map]
      congr 1
      exact congrArg (Option.map · n.enterprise) (funext (applyStored_applyStored stored))

/-- A store that is applied more than once changes nothing after the first time. -/
theorem iterate_applyTo (s : MemoryStore) (n : Network) {k : Nat} (h : 1 ≤ k) :
    s.applyTo^[k] n = s.applyTo n := by
  obtain ⟨j, rfl⟩ := Nat.exists_eq_add_of_le' h
  rw [Function.iterate_succ_apply]
  exact Function.iterate_fixed (applyTo_applyTo s n) j

theorem retrusted_applyTo (s : MemoryStore) (n : Network) : n.Retrusted (s.applyTo n) := by
  cases hstored : s.network? n.id with
  | none =>
      rw [applyTo_of_none hstored]
      exact .refl n
  | some stored =>
      rw [applyTo_of_some hstored]
      refine ⟨rfl, rfl, ?_, ?_⟩
      · intro hpersonal
        rw [hpersonal, Option.map_none]
      · intro e henterprise
        obtain ⟨added, hlength, haliases⟩ := exists_caAliases_applyStored stored e
        refine ⟨stored.approvedWithoutCa, stored.trustOnFirstUse.getD e.trustOnFirstUse, added,
          hlength, ?_⟩
        rw [henterprise, Option.map_some, ← haliases]
        rfl

theorem insecureEnterprise_applyTo_of_trusted {s : MemoryStore} {n : Network}
    (trusted : (s.entry n.id).trustedCa ≠ none) : (s.applyTo n).insecureEnterprise = none := by
  obtain ⟨ca, hca⟩ := Option.ne_none_iff_exists'.1 trusted
  rw [applyTo_of_some (network?_of_entry_ne (f := (·.trustedCa)) trusted)]
  refine Option.filter_eq_none_iff.2 fun e he => ?_
  obtain ⟨e₀, _, rfl⟩ := Option.map_eq_some_iff.1 he
  have hlisted := List.ne_nil_of_mem (caAlias_mem_applyStored hca e₀)
  simp [Enterprise.hasCa, hlisted]

theorem approvedWithoutCa_applyTo {s : MemoryStore} {n : Network}
    (approved : (s.entry n.id).approvedWithoutCa = true) {e : Enterprise}
    (h : (s.applyTo n).enterprise = some e) : e.approvedWithoutCa = true := by
  have hchanged : (s.entry n.id).approvedWithoutCa ≠ false := by
    rw [approved]
    decide
  rw [applyTo_of_some (network?_of_entry_ne (f := (·.approvedWithoutCa)) hchanged)] at h
  obtain ⟨e₀, _, rfl⟩ := Option.map_eq_some_iff.1 h
  exact approved

end MemoryStore

end WifiTrust
