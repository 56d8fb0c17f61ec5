import Mathlib.Data.List.Induction
import WifiTrust.Proofs.Files.Tree

/-!
# Where paths lead

Making directories leaves everything that is there in its place, and it opens paths that led nowhere
before. A path that can be followed leads to the place that its steps spell out. Main statement: a
path that is opened leads to a new place, unless it goes through what was missing to a file that was
there.
-/

namespace WifiTrust.FileTree

variable {t t' t'' : FileTree} {p : Path}

/-- The place that a path spells out. -/
def goal (t : FileTree) (p : Path) : List String := p.steps.foldl move (t.start p)

/-- Directories may have been made. The files are the same, and what was there still is. -/
structure Widens (t t' : FileTree) : Prop where
  here : t'.here = t.here
  files : t'.files = t.files
  stays : ∀ place node, t.node? place = some node → t'.node? place = some node

namespace Widens

theorem refl (t : FileTree) : t.Widens t := ⟨rfl, rfl, fun _ _ h => h⟩

theorem trans (h : t.Widens t') (h' : t'.Widens t'') : t.Widens t'' where
  here := h'.here.trans h.here
  files := h'.files.trans h.files
  stays place node hnode := h'.stays place node (h.stays place node hnode)

theorem start (h : t.Widens t') (p : Path) : t'.start p = t.start p := by
  rw [FileTree.start, FileTree.start, h.here]

theorem goal (h : t.Widens t') (p : Path) : t'.goal p = t.goal p := by
  rw [FileTree.goal, FileTree.goal, h.start]

theorem content? (h : t.Widens t') (place : List String) : t'.content? place = t.content? place := by
  rw [FileTree.content?, FileTree.content?, h.files]

theorem of_vacant {place : List String} (vacant : t.node? place = none) :
    t.Widens { t with directories := place :: t.directories } where
  here := rfl
  files := rfl
  stays other node hnode := by
    have hother : other ≠ place := by
      rintro rfl
      rw [vacant] at hnode
      cases hnode
    have hsame : ({ t with directories := place :: t.directories } : FileTree).isDirectory other =
        t.isDirectory other := by
      simp [isDirectory, hother]
    rwa [node?, hsame]

end Widens

theorem widens_of_ensureAll {made : Bool} {steps place : List String}
    (ensured : t.ensureAll made place steps = .ok t') : t.Widens t' := by
  induction steps generalizing t made place with
  | nil =>
      cases ensured
      exact .refl _
  | cons step steps ih =>
      rw [ensureAll] at ensured
      split at ensured
      · cases ensured
      · dsimp only at ensured
        split at ensured
        · exact ih ensured
        · cases ensured
        · next vacant => exact (Widens.of_vacant vacant).trans (ih ensured)

theorem widens_of_makeDirectories (made : t.makeDirectories p = .ok t') : t.Widens t' := by
  unfold makeDirectories at made
  split at made
  · cases made
  · exact widens_of_ensureAll made

theorem follow_eq_foldl {origin place steps : List String}
    (followed : t.follow origin steps = .ok place) : place = steps.foldl move origin := by
  induction steps generalizing origin with
  | nil =>
      cases followed
      rfl
  | cons step steps ih =>
      rw [follow] at followed
      split at followed
      · split at followed
        · cases followed
        · exact ih followed
      · cases followed
      · cases followed

theorem locate_eq_goal {place : List String} (located : t.locate p = .ok place) :
    place = t.goal p := by
  unfold locate along at located
  split at located
  · cases located
  · split at located
    · cases located
    · exact follow_eq_foldl located

/-- Of all files only the one at the end of a path has been written. -/
structure Wrote (t : FileTree) (p : Path) (content : Bytes) (t' : FileTree) : Prop where
  read : t'.read p = .ok content
  located : t'.locate p = .ok (t.goal p)
  written : t'.content? (t.goal p) = some content
  others : ∀ place, place ≠ t.goal p → t'.content? place = t.content? place

theorem content?_put_of_ne (t : FileTree) {place other : List String} (content : Bytes)
    (h : other ≠ place) : (t.put place content).content? other = t.content? other := by
  have hne : ¬place = other := fun he => h he.symm
  unfold content? put
  rw [List.find?_cons_of_neg (by simpa using hne), List.find?_filter]
  refine congrArg (fun test => (t.files.find? test).map (·.2)) (funext fun file => ?_)
  by_cases hfile : file.1 = other
  · simp [hfile, h]
  · simp [hfile]

theorem write_eq_ok {content : Bytes} (written : t.write p content = .ok t') :
    ∃ place, t.locate p = .ok place ∧ t' = t.put place content := by
  unfold write at written
  split at written
  · next place htarget =>
      cases written
      exact ⟨place, (target_eq_ok htarget).1, rfl⟩
  · cases written

theorem wrote_of_write {content : Bytes} (before : t.Widens t')
    (written : t'.write p content = .ok t'') : t.Wrote p content t'' := by
  have hread := read_of_write written
  obtain ⟨place, hlocate, rfl⟩ := write_eq_ok written
  obtain rfl : place = t.goal p := (locate_eq_goal hlocate).trans (before.goal p)
  refine ⟨hread, locate_put hlocate, content?_put _ _ _, fun place hplace => ?_⟩
  rw [content?_put_of_ne _ _ hplace, before.content?]

/-- The path spells out the place of a file, but it goes through a place where nothing is. -/
def Detour (t : FileTree) (p : Path) : Prop :=
  t.content? (t.goal p) ≠ none ∧ ∃ front back, p.steps = front ++ back ∧ back ≠ [] ∧
    t.node? (front.foldl move (t.start p)) = none

theorem node?_of_content? {place : List String} (h : t.content? place ≠ none) :
    t.node? place ≠ none := by
  unfold node?
  split
  · exact Option.some_ne_none _
  · simpa using h

/-- A path can be followed once directories have been made only if it went through a missing one. -/
theorem vacant_of_follow (h : t.Widens t') {origin place steps : List String} {e : FileError}
    (blocked : t.follow origin steps = .error e) (opened : t'.follow origin steps = .ok place) :
    ∃ front back, steps = front ++ back ∧ back ≠ [] ∧ t.node? (front.foldl move origin) = none := by
  induction steps generalizing origin with
  | nil => cases blocked
  | cons step steps ih =>
      rw [follow] at blocked opened
      split at blocked
      · next hnode =>
          rw [h.stays origin _ hnode] at opened
          dsimp only at opened
          split at blocked
          · next long =>
              rw [if_pos long] at opened
              cases opened
          · next short =>
              rw [if_neg short] at opened
              obtain ⟨front, back, rfl, hback, hvacant⟩ := ih blocked opened
              exact ⟨step :: front, back, rfl, hback, hvacant⟩
      · next hnode =>
          rw [h.stays origin _ hnode] at opened
          cases opened
      · next hvacant => exact ⟨[], step :: steps, rfl, List.cons_ne_nil _ _, hvacant⟩

/-- What is found at the end of a path that led nowhere before is new, unless the path makes a
detour. -/
theorem detour_iff (h : t.Widens t') (nowhere : t.pathExists p = false) {place : List String}
    (opened : t'.locate p = .ok place) : t.content? (t.goal p) ≠ none ↔ t.Detour p := by
  refine ⟨fun hthere => ⟨hthere, ?_⟩, And.left⟩
  unfold locate along at opened
  unfold pathExists at nowhere
  cases hlocate : t.locate p with
  | ok place' =>
      rw [hlocate] at nowhere
      rw [← locate_eq_goal hlocate] at hthere
      exact absurd (by simpa using nowhere) (node?_of_content? hthere)
  | error e =>
      unfold locate along at hlocate
      split at opened
      · cases opened
      · next sound =>
          rw [sound] at hlocate
          dsimp only at hlocate
          split at opened
          · cases opened
          · next named =>
              rw [if_neg named] at hlocate
              rw [h.start] at opened
              exact vacant_of_follow h hlocate opened

/-- Whatever is there lies in a directory. -/
def Rooted (t : FileTree) : Prop :=
  ∀ place name, t.node? (place ++ [name]) ≠ none → t.isDirectory place = true

theorem Rooted.node? (rooted : t.Rooted) {place names : List String}
    (h : t.node? (place ++ names) ≠ none) : t.node? place ≠ none := by
  induction names using List.reverseRecOn with
  | nil => rwa [List.append_nil] at h
  | append_singleton names name ih =>
      rw [← List.append_assoc] at h
      exact ih (by rw [node?_eq_directory_iff.2 (rooted _ _ h)]; exact Option.some_ne_none _)

theorem exists_foldl_move {steps : List String} (forward : ".." ∉ steps) (place : List String) :
    ∃ names, steps.foldl move place = place ++ names := by
  induction steps generalizing place with
  | nil => exact ⟨[], (List.append_nil _).symm⟩
  | cons step steps ih =>
      have hstep : step ≠ ".." := fun h => forward (h ▸ List.mem_cons_self)
      obtain ⟨names, hnames⟩ := ih (fun h => forward (List.mem_cons_of_mem step h)) (move place step)
      rw [List.foldl_cons, hnames, move, if_neg hstep]
      split
      · exact ⟨names, rfl⟩
      · exact ⟨step :: names, by simp⟩

/-- A detour goes back. -/
theorem Detour.goes_back (rooted : t.Rooted) (detour : t.Detour p) : ".." ∈ p.steps := by
  obtain ⟨hthere, front, back, hsteps, -, hvacant⟩ := detour
  by_contra hforward
  have hback : ".." ∉ back := fun h => hforward (hsteps ▸ List.mem_append_right front h)
  obtain ⟨names, hnames⟩ := exists_foldl_move hback (front.foldl move (t.start p))
  have hgoal : t.goal p = front.foldl move (t.start p) ++ names := by
    rw [goal, hsteps, List.foldl_append, hnames]
  exact rooted.node? (hgoal ▸ node?_of_content? hthere) hvacant

end WifiTrust.FileTree
