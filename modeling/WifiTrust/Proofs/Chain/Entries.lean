import WifiTrust.Chain

namespace WifiTrust.Chain

theorem get?_empty (d : Nat) : empty.get? d = none := rfl

theorem ext_get? {c c' : Chain} (h : ∀ d, c.get? d = c'.get? d) : c = c' := by
  obtain ⟨m, keyed⟩ := c
  obtain ⟨m', keyed'⟩ := c'
  obtain rfl : m = m' := SortedMap.ext_get? h
  rfl

theorem depth_of_get? {c : Chain} {d : Nat} {e : ChainEntry} (h : c.get? d = some e) :
    e.depth = d := c.keyed d e h

theorem get?_put (c : Chain) (e : ChainEntry) (d : Nat) :
    (c.put e).get? d = if d = e.depth then some e else c.get? d := by
  split
  · next hd => exact hd ▸ SortedMap.get?_insert_self c.entries e.depth e
  · next hd => exact SortedMap.get?_insert_of_ne c.entries e (Ne.symm hd)

theorem insert_eq_ok_iff {c c' : Chain} {depth : Nat} {certificate : Certificate}
    {outcome : Outcome} :
    c.insert depth certificate = (.ok outcome, c') ↔
      ∃ entry, ChainEntry.ofCertificate depth certificate = .ok entry ∧
        (outcome = .occupied ∧ c.get? depth ≠ none ∧ c' = c ∨
          outcome = .stored ∧ c.get? depth = none ∧ c' = c.put entry) := by
  unfold insert
  cases hentry : ChainEntry.ofCertificate depth certificate with
  | error e => simp
  | ok entry =>
      have hcontains : c.entries.contains depth = true ↔ c.get? depth ≠ none :=
        Option.isSome_iff_ne_none
      by_cases htaken : c.get? depth = none
      · have hvacant : ¬c.entries.contains depth = true := fun h => hcontains.1 h htaken
        simp [hvacant, htaken, eq_comm]
      · simp [hcontains.2 htaken, htaken, eq_comm]

theorem exists_insert (c : Chain) (depth : Nat) {certificate : Certificate} {entry : ChainEntry}
    (h : ChainEntry.ofCertificate depth certificate = .ok entry) :
    ∃ outcome c', c.insert depth certificate = (.ok outcome, c') := by
  unfold insert
  rw [h]
  dsimp only
  split
  · exact ⟨_, _, rfl⟩
  · exact ⟨_, _, rfl⟩

theorem get?_of_insert {c c' : Chain} {depth : Nat} {certificate : Certificate} {outcome : Outcome}
    {entry : ChainEntry} (h : c.insert depth certificate = (.ok outcome, c'))
    (hentry : ChainEntry.ofCertificate depth certificate = .ok entry) (d : Nat) :
    c'.get? d = if d = depth then (c.get? d).or (some entry) else c.get? d := by
  obtain ⟨entry', hentry', hstored⟩ := insert_eq_ok_iff.1 h
  rw [hentry] at hentry'
  cases hentry'
  rcases hstored with ⟨-, htaken, rfl⟩ | ⟨-, hvacant, rfl⟩
  · split
    · next hd =>
        subst hd
        obtain ⟨e, he⟩ := Option.ne_none_iff_exists'.1 htaken
        rw [he]
        rfl
    · rfl
  · rw [get?_put, (ChainEntry.ofCertificate_eq_ok_iff.1 hentry).1]
    split
    · next hd =>
        subst hd
        rw [hvacant]
        rfl
    · rfl

theorem get?_of_insert_of_some {c c' : Chain} {depth : Nat} {certificate : Certificate}
    {outcome : Outcome} (h : c.insert depth certificate = (.ok outcome, c')) {d : Nat}
    {e : ChainEntry} (hd : c.get? d = some e) : c'.get? d = some e := by
  obtain ⟨entry, hentry, -⟩ := insert_eq_ok_iff.1 h
  rw [get?_of_insert h hentry, hd]
  split
  · rfl
  · rfl

/-- A certificate changes a chain exactly if its depth is vacant. -/
theorem insert_unchanged_iff {c c' : Chain} {depth : Nat} {certificate : Certificate}
    {outcome : Outcome} (h : c.insert depth certificate = (.ok outcome, c')) :
    c' = c ↔ c.get? depth ≠ none := by
  obtain ⟨entry, hentry, ⟨-, htaken, hc⟩ | ⟨-, hvacant, -⟩⟩ := insert_eq_ok_iff.1 h
  · exact ⟨fun _ => htaken, fun _ => hc⟩
  · have hnew : c'.get? depth = some entry := by
      rw [get?_of_insert h hentry, if_pos rfl, hvacant]
      rfl
    constructor
    · rintro rfl
      rw [hnew]
      exact Option.some_ne_none entry
    · exact fun htaken => absurd hvacant htaken

def Extends (c c' : Chain) : Prop := ∀ d e, c.get? d = some e → c'.get? d = some e

theorem Extends.refl (c : Chain) : c.Extends c := fun _ _ h => h

theorem Extends.trans {c c' c'' : Chain} (h : c.Extends c') (h' : c'.Extends c'') :
    c.Extends c'' := fun d e he => h' d e (h d e he)

theorem Extends.antisymm {c c' : Chain} (h : c.Extends c') (h' : c'.Extends c) : c = c' := by
  apply ext_get?
  intro d
  cases hd : c.get? d with
  | some e => rw [h d e hd]
  | none =>
      cases hd' : c'.get? d with
      | none => rfl
      | some e =>
          rw [h' d e hd'] at hd
          cases hd

theorem extends_of_insert {c c' : Chain} {depth : Nat} {certificate : Certificate}
    {outcome : Outcome} (h : c.insert depth certificate = (.ok outcome, c')) : c.Extends c' :=
  fun _ _ hd => get?_of_insert_of_some h hd

end WifiTrust.Chain
