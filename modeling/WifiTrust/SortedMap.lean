/-!
# Sorted maps

Finite maps kept as a list of pairs in the ascending order of their keys. Each map has one
representation, so maps with the same entries are equal. Main statements: what a look-up finds
after an insertion, and that look-ups determine the map.
-/

namespace WifiTrust

/-- Keys with a place of their own among the integers. -/
class Ranked (κ : Type) where
  rank : κ → Int
  eq_of_rank_eq : ∀ {a b : κ}, rank a = rank b → a = b

instance : Ranked Nat where
  rank n := n
  eq_of_rank_eq h := Int.ofNat_inj.1 h

instance : Ranked Int32 where
  rank := Int32.toInt
  eq_of_rank_eq h := Int32.toInt_inj.1 h

open Ranked

/-- Pairs in the strictly ascending order of their keys. -/
structure SortedMap (κ ν : Type) [Ranked κ] where
  entries : List (κ × ν)
  sorted : entries.Pairwise fun a b => rank a.1 < rank b.1

namespace SortedMap

variable {κ ν : Type} [Ranked κ]

def empty : SortedMap κ ν := ⟨[], .nil⟩

instance : Inhabited (SortedMap κ ν) := ⟨empty⟩

instance [DecidableEq κ] [DecidableEq ν] : DecidableEq (SortedMap κ ν) := fun m n =>
  decidable_of_iff (m.entries = n.entries)
    ⟨fun h => by cases m; cases n; simp_all, fun h => by rw [h]⟩

private def find (k : κ) : List (κ × ν) → Option ν
  | [] => none
  | (a, v) :: rest => if rank a = rank k then some v else find k rest

private def place (k : κ) (v : ν) : List (κ × ν) → List (κ × ν)
  | [] => [(k, v)]
  | (a, w) :: rest =>
      if rank k < rank a then (k, v) :: (a, w) :: rest
      else if rank a = rank k then (k, v) :: rest
      else (a, w) :: place k v rest

private theorem mem_place {k : κ} {v : ν} {l : List (κ × ν)} {p : κ × ν}
    (h : p ∈ place k v l) : p = (k, v) ∨ p ∈ l := by
  induction l with
  | nil => simpa [place] using h
  | cons q rest ih =>
      obtain ⟨a, w⟩ := q
      simp only [place] at h
      split at h
      · simpa using h
      · split at h
        · rcases List.mem_cons.1 h with h | h
          · exact .inl h
          · exact .inr (List.mem_cons_of_mem _ h)
        · rcases List.mem_cons.1 h with h | h
          · exact .inr (h ▸ List.mem_cons_self)
          · rcases ih h with h | h
            · exact .inl h
            · exact .inr (List.mem_cons_of_mem _ h)

private theorem place_sorted (k : κ) (v : ν) {l : List (κ × ν)}
    (h : l.Pairwise fun a b => rank a.1 < rank b.1) :
    (place k v l).Pairwise fun a b => rank a.1 < rank b.1 := by
  induction l with
  | nil => simp [place]
  | cons q rest ih =>
      obtain ⟨a, w⟩ := q
      have ⟨hq, hr⟩ := List.pairwise_cons.1 h
      simp only [place]
      split
      · next hlt =>
          refine List.pairwise_cons.2 ⟨fun p hp => ?_, h⟩
          rcases List.mem_cons.1 hp with rfl | hp
          · exact hlt
          · exact Int.lt_trans hlt (hq p hp)
      · split
        · next heq => exact List.pairwise_cons.2 ⟨fun p hp => heq ▸ hq p hp, hr⟩
        · next hlt hne =>
            refine List.pairwise_cons.2 ⟨fun p hp => ?_, ih hr⟩
            rcases mem_place hp with rfl | hp
            · show rank a < rank k
              omega
            · exact hq p hp

/-- The value at a key. -/
def get? (m : SortedMap κ ν) (k : κ) : Option ν := find k m.entries

/-- Enter a value; it replaces the one that the key had. -/
def insert (m : SortedMap κ ν) (k : κ) (v : ν) : SortedMap κ ν :=
  ⟨place k v m.entries, place_sorted k v m.sorted⟩

def contains (m : SortedMap κ ν) (k : κ) : Bool := (m.get? k).isSome

def last? (m : SortedMap κ ν) : Option (κ × ν) := m.entries.getLast?

def keys (m : SortedMap κ ν) : List κ := m.entries.map (·.1)

def size (m : SortedMap κ ν) : Nat := m.entries.length

/-- Enter pairs one after the other; of two with one key the later counts. -/
def ofList (pairs : List (κ × ν)) : SortedMap κ ν :=
  pairs.foldl (fun m p => m.insert p.1 p.2) empty

private theorem find_place_self (k : κ) (v : ν) (l : List (κ × ν)) :
    find k (place k v l) = some v := by
  induction l with
  | nil => simp [place, find]
  | cons q rest ih =>
      obtain ⟨a, w⟩ := q
      simp only [place]
      split
      · simp [find]
      · split
        · simp [find]
        · next hne => simp [find, hne, ih]

private theorem find_place_ne {k l : κ} (v : ν) (h : rank k ≠ rank l) (es : List (κ × ν)) :
    find l (place k v es) = find l es := by
  induction es with
  | nil => simp [place, find, h]
  | cons q rest ih =>
      obtain ⟨a, w⟩ := q
      simp only [place]
      split
      · simp [find, h]
      · split
        · next heq => simp [find, h, heq]
        · simp [find, ih]

private theorem find_eq_none {k : κ} {l : List (κ × ν)} (h : ∀ p ∈ l, rank k < rank p.1) :
    find k l = none := by
  induction l with
  | nil => rfl
  | cons q rest ih =>
      have hq : rank k < rank q.1 := h q List.mem_cons_self
      simp only [find]
      rw [if_neg (by omega), ih fun p hp => h p (List.mem_cons_of_mem _ hp)]

private theorem eq_of_find_eq {l₁ l₂ : List (κ × ν)}
    (h₁ : l₁.Pairwise fun a b => rank a.1 < rank b.1)
    (h₂ : l₂.Pairwise fun a b => rank a.1 < rank b.1)
    (h : ∀ k, find k l₁ = find k l₂) : l₁ = l₂ := by
  induction l₁ generalizing l₂ with
  | nil =>
      cases l₂ with
      | nil => rfl
      | cons q rest => simpa [find] using h q.1
  | cons p rest ih =>
      obtain ⟨hp, hr⟩ := List.pairwise_cons.1 h₁
      cases l₂ with
      | nil => simpa [find] using h p.1
      | cons q others =>
          obtain ⟨hq, ho⟩ := List.pairwise_cons.1 h₂
          have hle : ¬ rank p.1 < rank q.1 := fun hlt => by
            have := h p.1
            rw [find_eq_none (l := q :: others) fun r hm => ?_] at this
            · simp [find] at this
            · rcases List.mem_cons.1 hm with rfl | hm
              · exact hlt
              · exact Int.lt_trans hlt (hq r hm)
          have hge : ¬ rank q.1 < rank p.1 := fun hlt => by
            have := h q.1
            rw [find_eq_none (l := p :: rest) fun r hm => ?_] at this
            · simp [find] at this
            · rcases List.mem_cons.1 hm with rfl | hm
              · exact hlt
              · exact Int.lt_trans hlt (hp r hm)
          have hkey : p.1 = q.1 := eq_of_rank_eq (by omega)
          have hvalue : p.2 = q.2 := by simpa [find, hkey] using h p.1
          have hrest : rest = others := ih hr ho fun k => by
            by_cases hk : rank p.1 = rank k
            · rw [find_eq_none fun r hm => hk ▸ hp r hm,
                find_eq_none fun r hm => hk ▸ hkey ▸ hq r hm]
            · simpa [find, hk, hkey ▸ hk] using h k
          rw [Prod.ext hkey hvalue, hrest]

theorem get?_empty (k : κ) : (empty : SortedMap κ ν).get? k = none := rfl

theorem get?_insert_self (m : SortedMap κ ν) (k : κ) (v : ν) : (m.insert k v).get? k = some v :=
  find_place_self k v m.entries

theorem get?_insert_of_ne (m : SortedMap κ ν) {k l : κ} (v : ν) (h : k ≠ l) :
    (m.insert k v).get? l = m.get? l :=
  find_place_ne v (fun hr => h (eq_of_rank_eq hr)) m.entries

private theorem find_eq_some_iff_mem {k : κ} {v : ν} {l : List (κ × ν)}
    (h : l.Pairwise fun a b => rank a.1 < rank b.1) : find k l = some v ↔ (k, v) ∈ l := by
  induction l with
  | nil => simp [find]
  | cons q rest ih =>
      obtain ⟨a, w⟩ := q
      have ⟨hq, hr⟩ := List.pairwise_cons.1 h
      simp only [find]
      split
      · next hak =>
          have hkey : a = k := eq_of_rank_eq hak
          subst hkey
          refine ⟨fun hv => ?_, fun hm => ?_⟩
          · cases hv
            exact List.mem_cons_self
          · rcases List.mem_cons.1 hm with heq | hm
            · cases heq
              rfl
            · exact absurd (hq (a, v) hm) (Int.lt_irrefl _)
      · next hak =>
          rw [ih hr, List.mem_cons]
          refine ⟨.inr, fun hm => hm.resolve_left fun heq => hak ?_⟩
          cases heq
          rfl

/-- A look-up finds exactly the entries of the map. -/
theorem get?_eq_some_iff_mem {m : SortedMap κ ν} {k : κ} {v : ν} :
    m.get? k = some v ↔ (k, v) ∈ m.entries := find_eq_some_iff_mem m.sorted

theorem le_of_last?_eq_some {m : SortedMap κ ν} {k : κ} {v : ν} (h : m.last? = some (k, v)) {l : κ}
    {w : ν} (hl : m.get? l = some w) : rank l ≤ rank k := by
  obtain ⟨init, hinit⟩ := List.getLast?_eq_some_iff.1 h
  have hsorted := m.sorted
  have hmem : (l, w) ∈ init ++ [(k, v)] := hinit ▸ get?_eq_some_iff_mem.1 hl
  rw [hinit, List.pairwise_append] at hsorted
  rcases List.mem_append.1 hmem with hm | hm
  · exact Int.le_of_lt (hsorted.2.2 (l, w) hm (k, v) (List.mem_singleton_self _))
  · cases List.mem_singleton.1 hm
    exact Int.le_refl _

theorem get?_of_last?_eq_some {m : SortedMap κ ν} {k : κ} {v : ν} (h : m.last? = some (k, v)) :
    m.get? k = some v := get?_eq_some_iff_mem.2 (List.mem_of_getLast? h)

theorem last?_eq_some_iff {m : SortedMap κ ν} {k : κ} {v : ν} :
    m.last? = some (k, v) ↔ m.get? k = some v ∧ ∀ l w, m.get? l = some w → rank l ≤ rank k := by
  refine ⟨fun h => ⟨get?_of_last?_eq_some h, fun l w => le_of_last?_eq_some h⟩, ?_⟩
  rintro ⟨hk, htop⟩
  cases hlast : m.last? with
  | none =>
      have hempty : m.entries = [] := List.getLast?_eq_none_iff.1 hlast
      rw [get?_eq_some_iff_mem, hempty] at hk
      cases hk
  | some last =>
      obtain ⟨l, w⟩ := last
      have hl := get?_of_last?_eq_some hlast
      have hle : rank l ≤ rank k := htop l w hl
      have hge : rank k ≤ rank l := le_of_last?_eq_some hlast hk
      have hkey : l = k := eq_of_rank_eq (Int.le_antisymm hle hge)
      subst hkey
      rw [hl] at hk
      cases hk
      rfl

/-- Look-ups determine the map. -/
theorem ext_get? {m n : SortedMap κ ν} (h : ∀ k, m.get? k = n.get? k) : m = n := by
  obtain ⟨l₁, h₁⟩ := m
  obtain ⟨l₂, h₂⟩ := n
  have : l₁ = l₂ := eq_of_find_eq h₁ h₂ h
  subst this
  rfl

private theorem get?_foldl_insert {pairs : List (κ × ν)}
    (hpairs : pairs.Pairwise fun a b => rank a.1 < rank b.1) {m : SortedMap κ ν}
    (hfresh : ∀ p ∈ pairs, m.get? p.1 = none) {k : κ} {v : ν} :
    (pairs.foldl (fun m p => m.insert p.1 p.2) m).get? k = some v ↔
      m.get? k = some v ∨ (k, v) ∈ pairs := by
  induction pairs generalizing m with
  | nil => simp
  | cons p rest ih =>
      obtain ⟨hp, hr⟩ := List.pairwise_cons.1 hpairs
      have hne (q : κ × ν) (hq : q ∈ rest) : p.1 ≠ q.1 := fun heq => by
        have hlt := hp q hq
        rw [heq] at hlt
        exact Int.lt_irrefl _ hlt
      have hrest : ∀ q ∈ rest, (m.insert p.1 p.2).get? q.1 = none := by
        intro q hq
        rw [get?_insert_of_ne m p.2 (hne q hq)]
        exact hfresh q (List.mem_cons_of_mem p hq)
      rw [List.foldl_cons, ih hr hrest, List.mem_cons]
      by_cases hk : p.1 = k
      · subst hk
        rw [get?_insert_self, hfresh p List.mem_cons_self]
        simp [Prod.ext_iff, eq_comm]
      · rw [get?_insert_of_ne m p.2 hk]
        simp [Prod.ext_iff, Ne.symm hk]

theorem ofList_entries (m : SortedMap κ ν) : ofList m.entries = m := by
  apply ext_get?
  intro k
  apply Option.ext
  intro v
  unfold ofList
  rw [get?_foldl_insert m.sorted fun p _ => get?_empty p.1, get?_empty, get?_eq_some_iff_mem]
  simp

end SortedMap

end WifiTrust
