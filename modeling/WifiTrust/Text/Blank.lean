namespace WifiTrust.Text

/-- The Unicode property White_Space. -/
def isBlank (c : Char) : Bool :=
  ('\t' ≤ c && c ≤ '\r') || c == ' ' || c == '\u0085' || c == '\u00a0' || c == '\u1680' ||
    ('\u2000' ≤ c && c ≤ '\u200a') || c == '\u2028' || c == '\u2029' || c == '\u202f' ||
    c == '\u205f' || c == '\u3000'

def trimStart (cs : List Char) : List Char := cs.dropWhile isBlank

def trimEnd : List Char → List Char
  | [] => []
  | c :: cs =>
      match trimEnd cs with
      | [] => if isBlank c then [] else [c]
      | kept => c :: kept

def trim (cs : List Char) : List Char := trimEnd (trimStart cs)

theorem trimEnd_append_blank {b : Char} (blank : isBlank b = true) (cs : List Char) :
    trimEnd (cs ++ [b]) = trimEnd cs := by
  induction cs with
  | nil => simp [trimEnd, blank]
  | cons c cs ih => simp [trimEnd, ih]

theorem trim_cons_blank {b : Char} (blank : isBlank b = true) (cs : List Char) :
    trim (b :: cs) = trim cs := by
  simp [trim, trimStart, blank]

theorem trim_append_blank {b : Char} (blank : isBlank b = true) (cs : List Char) :
    trim (cs ++ [b]) = trim cs := by
  unfold trim trimStart
  rw [List.dropWhile_append]
  split
  · next hempty =>
      have hnil : cs.dropWhile isBlank = [] := List.isEmpty_iff.1 hempty
      rw [hnil, List.dropWhile_cons_of_pos blank, List.dropWhile_nil]
  · exact trimEnd_append_blank blank _

theorem mem_trimEnd {c : Char} (visible : isBlank c = false) {cs : List Char} (hc : c ∈ cs) :
    c ∈ trimEnd cs := by
  induction cs with
  | nil => exact hc
  | cons d ds ih =>
      unfold trimEnd
      rcases List.mem_cons.1 hc with rfl | hc
      · split
        · simp [visible]
        · exact List.mem_cons_self
      · split
        · next hnone => exact absurd (ih hc) (hnone ▸ List.not_mem_nil)
        · exact List.mem_cons_of_mem d (ih hc)

theorem mem_trim {c : Char} (visible : isBlank c = false) {cs : List Char} (hc : c ∈ cs) :
    c ∈ trim cs := by
  refine mem_trimEnd visible ?_
  rw [← List.takeWhile_append_dropWhile (p := isBlank) (l := cs)] at hc
  refine (List.mem_append.1 hc).resolve_left fun hblank => ?_
  rw [List.all_eq_true.1 List.all_takeWhile c hblank] at visible
  cases visible

theorem trimStart_append {cs : List Char} {c : Char} (visible : isBlank c = false)
    (rest : List Char) : trimStart (cs ++ c :: rest) = trimStart cs ++ c :: rest := by
  unfold trimStart
  induction cs with
  | nil => simp [visible]
  | cons d cs ih =>
      cases hd : isBlank d with
      | true => simp [hd, ih]
      | false => simp [hd]

theorem trimEnd_append {c : Char} (visible : isBlank c = false) (cs : List Char)
    {blanks : List Char} (blank : ∀ b ∈ blanks, isBlank b = true) :
    trimEnd (cs ++ c :: blanks) = cs ++ [c] := by
  induction cs with
  | nil =>
      have hnone : trimEnd blanks = [] := by
        induction blanks with
        | nil => rfl
        | cons b blanks ih =>
            obtain ⟨hb, hrest⟩ := List.forall_mem_cons.1 blank
            simp [trimEnd, ih hrest, hb]
      simp [trimEnd, hnone, visible]
  | cons d cs ih =>
      rw [List.cons_append, trimEnd, ih]
      cases cs <;> rfl

theorem exists_trimEnd (cs : List Char) :
    ∃ blanks, (∀ b ∈ blanks, isBlank b = true) ∧ cs = trimEnd cs ++ blanks := by
  induction cs with
  | nil => exact ⟨[], List.forall_mem_nil _, rfl⟩
  | cons c cs ih =>
      obtain ⟨blanks, hblanks, hcs⟩ := ih
      unfold trimEnd
      split
      · next hnone =>
          rw [hnone, List.nil_append] at hcs
          cases hc : isBlank c with
          | true => exact ⟨c :: cs, List.forall_mem_cons.2 ⟨hc, hcs ▸ hblanks⟩, rfl⟩
          | false => exact ⟨cs, hcs ▸ hblanks, rfl⟩
      · exact ⟨blanks, hblanks, congrArg (c :: ·) hcs⟩

theorem exists_trimStart (cs : List Char) :
    ∃ blanks, (∀ b ∈ blanks, isBlank b = true) ∧ cs = blanks ++ trimStart cs :=
  ⟨cs.takeWhile isBlank, fun _ hb => List.all_eq_true.1 List.all_takeWhile _ hb,
    List.takeWhile_append_dropWhile.symm⟩

theorem trim_blanks_append {blanks : List Char} (blank : ∀ b ∈ blanks, isBlank b = true)
    (cs : List Char) : trim (blanks ++ cs) = trim cs := by
  induction blanks with
  | nil => rfl
  | cons b blanks ih =>
      obtain ⟨hb, hrest⟩ := List.forall_mem_cons.1 blank
      rw [List.cons_append, trim_cons_blank hb, ih hrest]

theorem trim_append_blanks {blanks : List Char} (blank : ∀ b ∈ blanks, isBlank b = true)
    (cs : List Char) : trim (cs ++ blanks) = trim cs := by
  induction blanks generalizing cs with
  | nil => rw [List.append_nil]
  | cons b blanks ih =>
      obtain ⟨hb, hrest⟩ := List.forall_mem_cons.1 blank
      rw [List.append_cons, ih hrest, trim_append_blank hb]

theorem trim_of_visible {cs : List Char} (first : ∀ c ∈ cs.head?, isBlank c = false)
    (last : ∀ c ∈ cs.getLast?, isBlank c = false) : trim cs = cs := by
  have hstart : trimStart cs = cs := by
    cases cs with
    | nil => rfl
    | cons c cs => exact List.dropWhile_cons_of_neg (by simpa using first)
  rw [trim, hstart]
  rcases List.eq_nil_or_concat cs with rfl | ⟨front, c, rfl⟩
  · rfl
  · rw [List.concat_eq_append] at last ⊢
    exact trimEnd_append (last c (by simp)) front (List.forall_mem_nil _)

end WifiTrust.Text
