/-!
# Prompts

Requests that the trust handler hands to the user interface and the replies it takes back. Each
request carries a token, and a reply is matched to its prompt by that token alone.
-/

namespace WifiTrust

/-- What a prompt asks. -/
inductive PromptKind where
  /-- Approve a server chain. -/
  | tofuDialog
  /-- Approve a network without an authority certificate. -/
  | legacyDialog
  /-- A notice that opens the first dialog when it is tapped. -/
  | tofuNotification
  /-- A notice with actions to approve or refuse. -/
  | legacyNotification
  | invalidChainDialog
  | invalidChainNotification
  deriving DecidableEq, Inhabited, Repr

namespace PromptKind

def all : List PromptKind :=
  [tofuDialog, legacyDialog, tofuNotification, legacyNotification, invalidChainDialog,
    invalidChainNotification]

/-- Whether the prompt only informs and cannot approve anything. -/
def isInformational : PromptKind → Bool
  | invalidChainDialog | invalidChainNotification => true
  | _ => false

end PromptKind

/-- Ties a reply to the prompt that it answers. -/
structure PromptToken where
  /-- Counts up over the prompts of one handler. -/
  id : UInt64
  /-- SSID of the connection that the prompt is about. -/
  ssid : String
  kind : PromptKind
  deriving DecidableEq, Inhabited, Repr

structure HelpLink where
  text : String
  url : String
  deriving DecidableEq, Inhabited, Repr

/-- A modal dialog; a button without a label is not shown. -/
structure Dialog where
  token : PromptToken
  title : String
  message : String
  positive : Option String
  negative : Option String
  neutral : Option String
  link : Option HelpLink
  deriving DecidableEq, Inhabited, Repr

/-- What a tap on the body of a notification does. -/
inductive TapAction where
  | reply
  | openUrl (url : String)
  | nothing
  deriving DecidableEq, Inhabited, Repr

structure Notification where
  token : PromptToken
  title : String
  message : String
  tap : TapAction
  accept : Option String
  reject : Option String
  deriving DecidableEq, Inhabited, Repr

/-- Anything that can be shown. -/
inductive PromptRequest where
  | dialog (d : Dialog)
  | notification (n : Notification)
  deriving DecidableEq, Inhabited, Repr

namespace PromptRequest

def token : PromptRequest → PromptToken
  | dialog d => d.token
  | notification n => n.token

def title : PromptRequest → String
  | dialog d => d.title
  | notification n => n.title

def message : PromptRequest → String
  | dialog d => d.message
  | notification n => n.message

end PromptRequest

/-- The user's answer to a prompt. -/
inductive PromptReply where
  | accept
  | reject
  | neutral
  /-- Dismissed without a choice. -/
  | cancel
  | tap
  | link
  deriving DecidableEq, Inhabited, Repr

def PromptReply.all : List PromptReply := [accept, reject, neutral, cancel, tap, link]

end WifiTrust
