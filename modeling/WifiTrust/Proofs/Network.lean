import WifiTrust.Network

namespace WifiTrust

/-- The methods authenticate the server by certificate, and there is no authority to check it. -/
structure Enterprise.Unverified (e : Enterprise) : Prop where
  method : e.eapMethod = .peap ∨ e.eapMethod = .tls ∨ e.eapMethod = .ttls
  aliases : e.caAliases = []
  directory : e.caPath = none ∨ e.caPath = some ""

theorem EapMethod.usesServerCert_iff {m : EapMethod} :
    m.usesServerCert = true ↔ m = peap ∨ m = tls ∨ m = ttls := by
  cases m <;> decide

theorem EapMethod.isTunneled_iff {m : EapMethod} : m.isTunneled = true ↔ m = peap ∨ m = ttls := by
  cases m <;> decide

theorem Enterprise.hasCa_eq_false_iff {e : Enterprise} :
    e.hasCa = false ↔ e.caAliases = [] ∧ (e.caPath = none ∨ e.caPath = some "") := by
  unfold hasCa
  cases e.caPath with
  | none => simp
  | some path => simp

theorem Enterprise.unverified_iff {e : Enterprise} :
    e.Unverified ↔ e.eapMethod.usesServerCert = true ∧ e.hasCa = false := by
  rw [EapMethod.usesServerCert_iff, hasCa_eq_false_iff]
  exact ⟨fun h => ⟨h.method, h.aliases, h.directory⟩, fun h => ⟨h.1, h.2.1, h.2.2⟩⟩

theorem Enterprise.carriesCredentials_iff {e : Enterprise} : e.carriesCredentials = true ↔
    (e.eapMethod = .peap ∨ e.eapMethod = .ttls) ∧ e.innerMethod ≠ .none := by
  rw [carriesCredentials, Bool.and_eq_true, EapMethod.isTunneled_iff, decide_eq_true_iff]

theorem Enterprise.stripCredentials_eq (e : Enterprise) : e.stripCredentials =
    if (e.eapMethod = .peap ∨ e.eapMethod = .ttls) ∧ e.innerMethod ≠ .none then
      { e with identity := "", password := "" }
    else e := by
  simp only [stripCredentials, carriesCredentials_iff]

theorem Network.insecureEnterprise_eq_some_iff {n : Network} {e : Enterprise} :
    n.insecureEnterprise = some e ↔ n.enterprise = some e ∧ e.Unverified := by
  rw [insecureEnterprise, Option.filter_eq_some_iff, Enterprise.unverified_iff, Bool.and_eq_true,
    Bool.not_eq_true']

theorem Network.trustsOnFirstUse_of_some {n : Network} {e : Enterprise}
    (h : n.enterprise = some e) : n.trustsOnFirstUse = e.trustOnFirstUse := by
  rw [trustsOnFirstUse, h]
  rfl

end WifiTrust
