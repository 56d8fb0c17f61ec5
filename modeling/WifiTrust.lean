import WifiTrust.Handler.Run
import WifiTrust.Json.Form.Prompt
import WifiTrust.Main
import WifiTrust.Proofs.Handler.Frame
import WifiTrust.Proofs.Handler.Effect
import WifiTrust.Proofs.Handler.Resolution
import WifiTrust.Proofs.Chain.Anchors
import WifiTrust.Proofs.Prompt.Board
import WifiTrust.Proofs.Handler.Coherence
import WifiTrust.Proofs.Handler.Screen
import WifiTrust.Proofs.Store.Entry
import WifiTrust.Proofs.Handler.InstalledTrust
import WifiTrust.Proofs.Store.Recorded
import WifiTrust.Proofs.Handler.LateCertificates
import WifiTrust.Proofs.Handler.Attempt
import WifiTrust.Proofs.Handler.Requests
import WifiTrust.Proofs.Handler.Review
import WifiTrust.Proofs.Handler.Hold
import WifiTrust.Proofs.Handler.Tokens
import WifiTrust.Proofs.Handler.Dialogs
import WifiTrust.Proofs.Handler.StoreIndependence
import WifiTrust.Proofs.Handler.Permission
import WifiTrust.Proofs.Handler.HandOver
import WifiTrust.Proofs.Handler.LastingApproval
import WifiTrust.Proofs.Chain.Delivery
import WifiTrust.Proofs.Handler.Arrival
import WifiTrust.Proofs.Handler.Starting
import WifiTrust.Proofs.Handler.Verdicts
import WifiTrust.Proofs.Handler.Isolation
import WifiTrust.Proofs.Handler.Unasked
import WifiTrust.Proofs.Handler.Enrolment
import WifiTrust.Proofs.Chain.Inspection
import WifiTrust.Proofs.Replay.Course
import WifiTrust.Proofs.Replay.Outcome
import WifiTrust.Proofs.Replay.Enrolment
import WifiTrust.Proofs.Replay.Inspection
import WifiTrust.Proofs.Store.Loaded
import WifiTrust.Proofs.Command.Connection
import WifiTrust.Proofs.Handler.Credentials
import WifiTrust.Proofs.Handler.Progress
import WifiTrust.Proofs.Replay.Rounds
import WifiTrust.Proofs.Name.Reading
import WifiTrust.Proofs.Certificate.Keys
import WifiTrust.Proofs.Certificate.Subject
import WifiTrust.Proofs.Json.Values
import WifiTrust.Proofs.Json.RoundTrip
import WifiTrust.Proofs.Chain.Verdict
import WifiTrust.Proofs.Name.Refusal
import WifiTrust.Proofs.Name.Writing
import WifiTrust.Proofs.Command.Changes
import WifiTrust.Proofs.Name.EncodedValue
import WifiTrust.Proofs.Handler.Opening
import WifiTrust.Proofs.Handler.Intake
import WifiTrust.Proofs.Handler.Closing
import WifiTrust.Proofs.Chain.Edits
import WifiTrust.Proofs.Store.History
import WifiTrust.Proofs.Certificate.Fingerprint
import WifiTrust.Proofs.Toml.Document
import WifiTrust.Proofs.Toml.RoundTrip
