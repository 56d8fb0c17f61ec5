import WifiTrust.Chain
import WifiTrust.Command.Context
import WifiTrust.Json.Form.Certificate
import WifiTrust.Prompt.Wording
import WifiTrust.Saved

namespace WifiTrust

/-- What is found in a bundle. -/
structure Inspection where
  source : Path
  chain : Chain
  deriving DecidableEq, Inhabited

namespace Inspection

/-- How many certificates have a depth. -/
def depths : Nat := Nat.pow 2 32

def enterAll (c : Chain) : Nat → List Certificate → Except Failure Chain
  | _, [] => .ok c
  | depth, certificate :: rest =>
      match c.insert depth certificate with
      | (.ok _, c) => enterAll c (depth + 1) rest
      | (.error e, _) => .error (.name e)

/-- Take the certificates of a bundle as a chain, the leaf first. -/
def ofCertificates (source : Path) (certificates : List Certificate) :
    Except Failure Inspection :=
  if depths < certificates.length then .error .tooManyCertificates
  else (enterAll .empty 0 certificates).map fun chain => ⟨source, chain⟩

def error? (i : Inspection) : Option ChainError :=
  match i.chain.validate with
  | .ok () => none
  | .error e => some e

/-- Whether the chain can be trusted. -/
def valid (i : Inspection) : Bool := i.error?.isNone

private def certificateJson (e : ChainEntry) : Json :=
  .record [
    ("depth", .ofNat e.depth),
    ("subject", toJson e.certificate.subject),
    ("issuer", toJson e.certificate.issuer),
    ("common_name", toJson e.subject.commonName),
    ("organization", toJson e.subject.organization),
    ("is_ca", toJson e.certificate.isCa),
    ("self_signed", toJson e.certificate.isSelfSigned),
    ("signature", toJson (Wording.signatureExcerpt e.certificate.signature)),
    ("fingerprint", toJson e.certificate.fingerprint)]

def json (i : Inspection) : Json :=
  .record [
    ("source", toJson i.source.text),
    ("certificates", .array (i.chain.toList.map certificateJson)),
    ("valid", toJson i.valid),
    ("error", toJson (i.error?.map ChainError.message))]

/-- What a certificate is in a chain of `size` certificates. -/
def role (size depth : Nat) : String :=
  if depth = 0 then "server" else if depth + 1 = size then "root" else "intermediate"

private def certificateLines (c : Context) (size : Nat) (e : ChainEntry) : List String :=
  let cert := e.certificate
  let line (label text : String) : String := "      " ++ c.labelled .dimmed label text
  ["  " ++ c.paint .cyan ("[" ++ String.ofList (Decimal.ofNat e.depth) ++ "]") ++ " " ++
      c.paint .bold e.subject.commonName ++ " (" ++ c.paint .dimmed (role size e.depth) ++ ")",
    line "subject:" cert.subject,
    line "issuer:" cert.issuer] ++
  (if e.subject.organization = "" then [] else [line "organization:" e.subject.organization]) ++
  [line "CA:" (Context.yesNo cert.isCa) ++ "  " ++
      c.labelled .dimmed "self-signed:" (Context.yesNo cert.isSelfSigned),
    line "signature:" (Wording.signatureExcerpt cert.signature),
    line "sha256:" cert.fingerprint]

def lines (c : Context) (i : Inspection) : List String :=
  [c.labelled .bold "Chain:" i.source.text, ""] ++
  i.chain.toList.flatMap (certificateLines c i.chain.size) ++
  ["", match i.error? with
    | none => c.labelled .good "OK:" "chain is complete and anchored"
    | some e => c.labelled .bad "Invalid:" e.message]

end Inspection

def Context.inspect (c : Context) (source : Path) (reverse : Bool) : Action Unit := do
  let certificates ← Bundle.load source reverse
  let i ← MonadExcept.ofExcept (Inspection.ofCertificates source certificates)
  c.report i.json (i.lines c)

end WifiTrust
