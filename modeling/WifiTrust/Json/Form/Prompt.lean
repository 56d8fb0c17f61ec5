import WifiTrust.Json.Form
import WifiTrust.Prompt.Basic

namespace WifiTrust

def PromptKind.name : PromptKind → String
  | tofuDialog => "tofu-dialog"
  | legacyDialog => "legacy-dialog"
  | tofuNotification => "tofu-notification"
  | legacyNotification => "legacy-notification"
  | invalidChainDialog => "invalid-chain-dialog"
  | invalidChainNotification => "invalid-chain-notification"

def PromptReply.name : PromptReply → String
  | accept => "accept"
  | reject => "reject"
  | neutral => "neutral"
  | cancel => "cancel"
  | tap => "tap"
  | link => "link"

instance : JsonForm PromptKind :=
  ⟨fun k => .ofString k.name, Json.word? PromptKind.all PromptKind.name⟩

instance : JsonForm PromptReply :=
  ⟨fun r => .ofString r.name, Json.word? PromptReply.all PromptReply.name⟩

instance : JsonForm PromptToken where
  toJson t := .record [("id", toJson t.id), ("ssid", toJson t.ssid), ("kind", toJson t.kind)]
  ofJson? j := do
    let slot ← j.slots? ["id", "ssid", "kind"]
    return {
      id := ← (slot "id").required
      ssid := ← (slot "ssid").required
      kind := ← (slot "kind").required }

instance : JsonForm HelpLink where
  toJson l := .record [("text", toJson l.text), ("url", toJson l.url)]
  ofJson? j := do
    let slot ← j.slots? ["text", "url"]
    return { text := ← (slot "text").required, url := ← (slot "url").required }

/-- The plain words for a tap action; opening a page is an object with the page behind its key. -/
private def plainTap : TapAction → String
  | .reply => "Reply"
  | .nothing => "None"
  | .openUrl _ => "OpenUrl"

instance : JsonForm TapAction where
  toJson
    | .openUrl url => .record [("OpenUrl", toJson url)]
    | tap => .ofString (plainTap tap)
  ofJson? j :=
    match j with
    | .object [(key, .string url)] => do
        guard (Json.Literal.decode? key = some "OpenUrl".toList)
        return .openUrl (← (Json.string url).text?)
    | j => j.word? [.reply, .nothing] plainTap

instance : JsonForm Dialog where
  toJson d := .record [
    ("token", toJson d.token),
    ("title", toJson d.title),
    ("message", toJson d.message),
    ("positive_text", toJson d.positive),
    ("negative_text", toJson d.negative),
    ("neutral_text", toJson d.neutral),
    ("link", toJson d.link)]
  ofJson? j := do
    let slot ← j.slots? ["token", "title", "message", "positive_text", "negative_text",
      "neutral_text", "link"]
    return {
      token := ← (slot "token").required
      title := ← (slot "title").required
      message := ← (slot "message").required
      positive := ← (slot "positive_text").optional
      negative := ← (slot "negative_text").optional
      neutral := ← (slot "neutral_text").optional
      link := ← (slot "link").optional }

instance : JsonForm Notification where
  toJson n := .record [
    ("token", toJson n.token),
    ("title", toJson n.title),
    ("message", toJson n.message),
    ("tap", toJson n.tap),
    ("accept_text", toJson n.accept),
    ("reject_text", toJson n.reject)]
  ofJson? j := do
    let slot ← j.slots? ["token", "title", "message", "tap", "accept_text", "reject_text"]
    return {
      token := ← (slot "token").required
      title := ← (slot "title").required
      message := ← (slot "message").required
      tap := ← (slot "tap").required
      accept := ← (slot "accept_text").optional
      reject := ← (slot "reject_text").optional }

end WifiTrust
