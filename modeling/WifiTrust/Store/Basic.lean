import WifiTrust.Certificate.Basic
import WifiTrust.Network

/-!
# Network stores

What the trust handler asks of the place where networks are kept. Two updates can fail, and the
store then answers `false`; a store may answer as it likes.
-/

namespace WifiTrust

/-- A place where the trust state of networks is kept. -/
class NetworkStore (σ : Type) where
  /-- Allow or forbid the selection of a network. -/
  updateSelection : σ → NetworkId → Selection → Bool × σ
  /-- Install the approved root and server certificates of a network. -/
  updateCa : σ → NetworkId → Certificate → Certificate → Bool × σ
  /-- Record whether the user approved the network without an authority certificate. -/
  setApprovedWithoutCa : σ → NetworkId → Bool → σ
  enableTrustOnFirstUse : σ → NetworkId → Bool → σ
  allowAutojoin : σ → NetworkId → Bool → σ

end WifiTrust
