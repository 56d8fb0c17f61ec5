import WifiTrust.Prompt.Board

namespace WifiTrust.PromptBoard

/-- The boards that showing and dismissing make of the empty one. -/
inductive Built : PromptBoard → Prop
  | empty : Built {}
  | post {b : PromptBoard} (built : Built b) (request : PromptRequest) : Built (b.post request)
  | dismiss {b : PromptBoard} (built : Built b) (handle : Nat) : Built (b.dismiss handle)

/-- The handles of a board are 1, 2, 3 and so on. -/
def Numbered (b : PromptBoard) : Prop :=
  b.shown.map (·.handle) = List.range' 1 b.shown.length

theorem Numbered.post {b : PromptBoard} (h : b.Numbered) (request : PromptRequest) :
    (b.post request).Numbered := by
  have hlen : (b.post request).shown.length = b.shown.length + 1 := List.length_append
  unfold Numbered at h ⊢
  rw [hlen, List.range'_1_concat, ← h]
  simp only [PromptBoard.post, nextHandle, List.map_append, List.map_cons, List.map_nil,
    Nat.add_comm]

theorem Numbered.dismiss {b : PromptBoard} (h : b.Numbered) (handle : Nat) :
    (b.dismiss handle).Numbered := by
  unfold Numbered at h ⊢
  rw [handles_dismiss, length_dismiss, h]

theorem Built.numbered {b : PromptBoard} (h : b.Built) : b.Numbered := by
  induction h with
  | empty => rfl
  | post _ request ih => exact ih.post request
  | dismiss _ handle ih => exact ih.dismiss handle

theorem Numbered.nodup {b : PromptBoard} (h : b.Numbered) :
    (b.shown.map (·.handle)).Nodup := by
  rw [h]
  exact List.nodup_range'

theorem Numbered.handle_lt {b : PromptBoard} (h : b.Numbered) {q : ShownPrompt}
    (hq : q ∈ b.shown) : q.handle < b.nextHandle := by
  have hmem : q.handle ∈ b.shown.map (·.handle) := List.mem_map_of_mem hq
  rw [h] at hmem
  obtain ⟨_, hlt⟩ := List.mem_range'_1.1 hmem
  simpa [nextHandle, Nat.add_comm] using hlt

theorem Numbered.ne_last {b : PromptBoard} (h : b.Numbered) {before : List ShownPrompt}
    {last : ShownPrompt} (hshown : b.shown = before ++ [last]) :
    ∀ q ∈ before, q.handle ≠ last.handle := by
  intro q hq heq
  have hnodup := h.nodup
  rw [hshown, List.map_append, List.nodup_append] at hnodup
  exact hnodup.2.2 q.handle (List.mem_map_of_mem hq) last.handle (by simp) heq

end WifiTrust.PromptBoard
