import WifiTrust.Handler.Basic

namespace WifiTrust

/-- Something a host asks of a handler. -/
inductive Operation where
  | prepare (network : Network)
  | addCertificate (ssid : String) (depth : Int) (certificate : Certificate)
  | setCertificate (ssid : String) (certificate : Certificate)
  | start (userSelected : Bool)
  | reply (token : PromptToken) (reply : PromptReply)
  | accept (ssid : String)
  | reject (ssid : String)
  | error (ssid : Option String)
  | putOnHold (disconnect : Bool)
  | cleanup
  deriving DecidableEq

/-- What an operation answers. -/
inductive Answer where
  | prepared (preparation : Preparation) (network : Network)
  | flag (b : Bool)
  | done
  deriving DecidableEq

namespace Handler

variable {σ : Type} [NetworkStore σ]

def step (h : Handler σ) : Operation → Answer × Handler σ
  | .prepare n =>
      let (preparation, n, h) := h.prepare n
      (.prepared preparation n, h)
  | .addCertificate ssid depth c =>
      let (added, h) := h.addCertificate ssid depth c
      (.flag added, h)
  | .setCertificate ssid c =>
      let (added, h) := h.setCertificate ssid c
      (.flag added, h)
  | .start userSelected =>
      let (started, h) := h.start userSelected
      (.flag started, h)
  | .reply token reply => (.done, h.reply token reply)
  | .accept ssid => (.done, h.accept ssid)
  | .reject ssid => (.done, h.reject ssid)
  | .error ssid => (.done, h.error ssid)
  | .putOnHold disconnect => (.done, h.putOnHold disconnect)
  | .cleanup => (.done, h.cleanup)

/-- Carry out operations one after the other. -/
def run (h : Handler σ) : List Operation → Handler σ
  | [] => h
  | op :: ops => (h.step op).2.run ops

/-- What the operations of a run answer. -/
def answers (h : Handler σ) : List Operation → List Answer
  | [] => []
  | op :: ops => (h.step op).1 :: (h.step op).2.answers ops

end Handler

end WifiTrust
