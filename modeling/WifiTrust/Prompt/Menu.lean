import WifiTrust.Prompt.Basic

namespace WifiTrust

namespace PromptRequest

/-- What can be chosen at the terminal, each with the reply that it gives. No reply means to walk
away. -/
def choices : PromptRequest → List (String × Option PromptReply)
  | dialog d =>
      (d.positive.map fun text => (text, some .accept)).toList ++
      (d.negative.map fun text => (text, some .reject)).toList ++
      (d.neutral.map fun text => (text, some .neutral)).toList ++
      (d.link.map fun link => (link.text ++ " (" ++ link.url ++ ")", some .link)).toList
  | notification n =>
      (if n.tap = .reply then [("Open", some .tap)] else []) ++
      (n.accept.map fun text => (text, some .accept)).toList ++
      (n.reject.map fun text => (text, some .reject)).toList ++
      [if n.token.kind.isInformational then ("Dismiss", some .cancel) else ("Ignore", none)]

/-- The reply that a choice gives. Leaving the menu closes the prompt as a back press would. -/
def replyTo (r : PromptRequest) : Option Nat → Option PromptReply
  | some index => r.choices[index]?.bind (·.2)
  | none => some .cancel

end PromptRequest

end WifiTrust
