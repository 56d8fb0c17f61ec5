import WifiTrust.Prompt.Basic

/-!
# The prompt board

Everything that has been shown to the user, oldest first. Handles count up from one, and dismissing
a prompt marks it.
-/

namespace WifiTrust

/-- A prompt that has been shown. -/
structure ShownPrompt where
  handle : Nat
  request : PromptRequest
  dismissed : Bool
  deriving DecidableEq, Inhabited, Repr

/-- The prompts shown so far. -/
structure PromptBoard where
  shown : List ShownPrompt := []
  deriving DecidableEq, Inhabited, Repr

namespace PromptBoard

def nextHandle (b : PromptBoard) : Nat := b.shown.length + 1

def post (b : PromptBoard) (request : PromptRequest) : PromptBoard :=
  ⟨b.shown ++ [⟨b.nextHandle, request, false⟩]⟩

private def mark (handle : Nat) : List ShownPrompt → List ShownPrompt
  | [] => []
  | p :: ps => if p.handle = handle then { p with dismissed := true } :: ps else p :: mark handle ps

/-- Take a prompt off the screen. An unknown handle is ignored. -/
def dismiss (b : PromptBoard) (handle : Nat) : PromptBoard := ⟨mark handle b.shown⟩

/-- The latest prompt that is still on the screen. -/
def outstanding? (b : PromptBoard) : Option ShownPrompt :=
  b.shown.reverse.find? fun p => !p.dismissed

def lastDialog? (b : PromptBoard) : Option Dialog :=
  b.shown.reverse.findSome? fun p =>
    match p.request with
    | .dialog d => some d
    | .notification _ => none

def lastNotification? (b : PromptBoard) : Option Notification :=
  b.shown.reverse.findSome? fun p =>
    match p.request with
    | .dialog _ => none
    | .notification n => some n

theorem mem_of_outstanding? {b : PromptBoard} {shown : ShownPrompt}
    (h : b.outstanding? = some shown) : shown ∈ b.shown :=
  List.mem_reverse.1 (List.mem_of_find?_eq_some h)

/-- Everything that has been asked or told, oldest first. -/
def requests (b : PromptBoard) : List PromptRequest := b.shown.map (·.request)

private theorem map_mark {α : Type} (f : ShownPrompt → α)
    (hf : ∀ p, f { p with dismissed := true } = f p) (handle : Nat) (l : List ShownPrompt) :
    (mark handle l).map f = l.map f := by
  induction l with
  | nil => rfl
  | cons p ps ih =>
      unfold mark
      split
      · rw [List.map_cons, List.map_cons, hf p]
      · rw [List.map_cons, List.map_cons, ih]

private theorem mark_append_last {before : List ShownPrompt} {last : ShownPrompt}
    (h : ∀ q ∈ before, q.handle ≠ last.handle) :
    mark last.handle (before ++ [last]) = before ++ [{ last with dismissed := true }] := by
  induction before with
  | nil => exact if_pos rfl
  | cons p ps ih =>
      have hp : p.handle ≠ last.handle := h p List.mem_cons_self
      rw [List.cons_append, mark, if_neg hp, ih fun q hq => h q (List.mem_cons_of_mem p hq)]
      rfl

private theorem dismissed_of_mem_mark {handle : Nat} {l : List ShownPrompt}
    (unique : (l.map (·.handle)).Nodup) {q : ShownPrompt} (hq : q ∈ mark handle l)
    (hhandle : q.handle = handle) : q.dismissed = true := by
  induction l with
  | nil => cases hq
  | cons p ps ih =>
      obtain ⟨hfresh, hunique⟩ := List.nodup_cons.1 unique
      unfold mark at hq
      split at hq
      · next hfound =>
          rcases List.mem_cons.1 hq with rfl | hq
          · rfl
          · have hsame : q.handle = p.handle := hhandle.trans hfound.symm
            exact absurd (List.mem_map.2 ⟨q, hq, hsame⟩) hfresh
      · next hother =>
          rcases List.mem_cons.1 hq with rfl | hq
          · exact absurd hhandle hother
          · exact ih hunique hq

@[simp] theorem requests_post (b : PromptBoard) (request : PromptRequest) :
    (b.post request).requests = b.requests ++ [request] := List.map_append

@[simp] theorem requests_dismiss (b : PromptBoard) (handle : Nat) :
    (b.dismiss handle).requests = b.requests := map_mark _ (fun _ => rfl) handle b.shown

theorem handles_dismiss (b : PromptBoard) (handle : Nat) :
    (b.dismiss handle).shown.map (·.handle) = b.shown.map (·.handle) :=
  map_mark _ (fun _ => rfl) handle b.shown

theorem length_dismiss (b : PromptBoard) (handle : Nat) :
    (b.dismiss handle).shown.length = b.shown.length := by
  simpa using congrArg List.length (handles_dismiss b handle)

theorem dismissed_of_mem_dismiss {b : PromptBoard} (unique : (b.shown.map (·.handle)).Nodup)
    {handle : Nat} {q : ShownPrompt} (hq : q ∈ (b.dismiss handle).shown)
    (hhandle : q.handle = handle) : q.dismissed = true :=
  dismissed_of_mem_mark unique hq hhandle

theorem dismiss_last {b : PromptBoard} {before : List ShownPrompt} {last : ShownPrompt}
    (hshown : b.shown = before ++ [last]) (h : ∀ q ∈ before, q.handle ≠ last.handle) :
    (b.dismiss last.handle).shown = before ++ [{ last with dismissed := true }] := by
  unfold dismiss
  rw [hshown, mark_append_last h]

end PromptBoard

end WifiTrust
