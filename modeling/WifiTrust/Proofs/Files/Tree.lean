import WifiTrust.Files.Tree

namespace WifiTrust.FileTree

theorem content?_put (t : FileTree) (place : List String) (content : Bytes) :
    (t.put place content).content? place = some content := by
  unfold content? put
  rw [List.find?_cons_of_pos (by simp)]
  rfl

theorem isDirectory_put (t : FileTree) (place : List String) (content : Bytes)
    (other : List String) : (t.put place content).isDirectory other = t.isDirectory other := rfl

theorem node?_eq_directory_iff {t : FileTree} {place : List String} :
    t.node? place = some .directory ↔ t.isDirectory place = true := by
  unfold node?
  split
  · next h => exact iff_of_true rfl h
  · next h =>
      refine iff_of_false ?_ h
      cases t.content? place with
      | none => simp
      | some content => simp

/-- Steps that lead somewhere pass directories only, and a file takes the place of none. -/
theorem follow_put {t : FileTree} {place : List String} {content : Bytes} {steps : List String}
    {origin goal : List String} (h : t.follow origin steps = .ok goal) :
    (t.put place content).follow origin steps = .ok goal := by
  induction steps generalizing origin with
  | nil => exact h
  | cons step steps ih =>
      rw [follow] at h ⊢
      split at h
      · next hnode =>
          have hdirectory : (t.put place content).node? origin = some .directory := by
            rw [node?_eq_directory_iff, isDirectory_put]
            exact node?_eq_directory_iff.1 hnode
          rw [hdirectory]
          dsimp only
          split at h
          · cases h
          · next hname =>
              rw [if_neg hname]
              exact ih h
      · cases h
      · cases h

theorem locate_put {t : FileTree} {p : Path} {place goal : List String} {content : Bytes}
    (h : t.locate p = .ok goal) : (t.put place content).locate p = .ok goal := by
  unfold locate along at h ⊢
  split at h
  · cases h
  · split at h
    · cases h
    · next hnamed =>
        rw [if_neg hnamed]
        exact follow_put h

theorem target_eq_ok {t : FileTree} {p : Path} {place : List String}
    (h : t.target p = .ok place) : t.locate p = .ok place ∧ t.isDirectory place = false := by
  unfold target at h
  simp only [bind, Except.bind, pure, Except.pure, throw, throwThe, MonadExceptOf.throw] at h
  split at h
  · split at h
    · cases h
    · cases h
  · split at h
    · cases h
    · next goal hlocate =>
        split at h
        · cases h
        · next hfile =>
            cases h
            exact ⟨hlocate, Bool.eq_false_iff.2 hfile⟩

theorem read_of_write {t t' : FileTree} {p : Path} {content : Bytes}
    (h : t.write p content = .ok t') : t'.read p = .ok content := by
  unfold write at h
  split at h
  · next place htarget =>
      cases h
      obtain ⟨hlocate, hfile⟩ := target_eq_ok htarget
      unfold read node?
      rw [locate_put hlocate]
      dsimp only
      rw [isDirectory_put, hfile, content?_put]
      rfl
  · cases h

theorem pathExists_of_read {t : FileTree} {p : Path} {content : Bytes}
    (h : t.read p = .ok content) : t.pathExists p = true := by
  unfold read at h
  unfold pathExists
  split at h
  · cases h
  · next place hlocate =>
      rw [hlocate]
      dsimp only
      split at h
      · next hnode => rw [hnode]; rfl
      · cases h
      · cases h

end WifiTrust.FileTree
