import WifiTrust.Network
import WifiTrust.Text.Decimal
import WifiTrust.Text.Quoted

namespace WifiTrust

/-- A call on the supplicant. -/
inductive NativeCall where
  | removeCachedKeyMaterial (id : NetworkId)
  /-- Remove every network of an interface, which clears its key cache. -/
  | removeAllNetworks (iface : String)
  | disconnect (iface : String)
  deriving DecidableEq, Inhabited, Repr

namespace NativeCall

def text : NativeCall → String
  | removeCachedKeyMaterial id =>
      "RemoveCachedKeyMaterial(" ++ String.ofList (Decimal.ofInt id.toInt) ++ ")"
  | removeAllNetworks iface => "RemoveAllNetworks(" ++ Text.quote iface ++ ")"
  | disconnect iface => "Disconnect(" ++ Text.quote iface ++ ")"

def isDisconnect : NativeCall → Bool
  | disconnect _ => true
  | _ => false

end NativeCall

/-- The calls made so far. -/
structure NativeSession where
  calls : List NativeCall := []
  deriving DecidableEq, Inhabited, Repr

namespace NativeSession

def call (s : NativeSession) (c : NativeCall) : NativeSession := ⟨s.calls ++ [c]⟩

def disconnects (s : NativeSession) : Nat := s.calls.countP NativeCall.isDisconnect

end NativeSession

end WifiTrust
