import WifiTrust.Json.Form
import WifiTrust.Proofs.Json.Layout

namespace WifiTrust

/-- The JSON form of a value is plain, and the value is read back from it. -/
structure Survives {α : Type} [JsonForm α] (a : α) : Prop where
  plain : (toJson a).Plain
  read : ofJson? (toJson a) = some a

theorem mapM_map_eq_some {α β : Type} {f : α → Option β} {g : β → α} {bs : List β}
    (h : ∀ b ∈ bs, f (g b) = some b) : (bs.map g).mapM f = some bs := by
  induction bs with
  | nil => rfl
  | cons b bs ih =>
      obtain ⟨hfirst, hothers⟩ := List.forall_mem_cons.1 h
      rw [List.map_cons, List.mapM_cons, hfirst, ih hothers]
      rfl

namespace Json

theorem Plain.record {fields : List (String × Json)} (h : ∀ f ∈ fields, f.2.Plain) :
    (Json.record fields).Plain := by
  apply Plain.object
  · intro m hm
    obtain ⟨f, -, rfl⟩ := List.mem_map.1 hm
    exact ⟨f.1.toList, rfl⟩
  · intro m hm
    obtain ⟨f, hf, rfl⟩ := List.mem_map.1 hm
    exact h f hf

section Record

variable {fields : List (String × Json)} (distinct : (fields.map (·.1)).Nodup)

include distinct

theorem find?_field {f : String × Json} (hf : f ∈ fields) :
    fields.find? (·.1 = f.1) = some f := by
  induction fields with
  | nil => cases hf
  | cons g fields ih =>
      obtain ⟨hfresh, hdistinct⟩ := List.nodup_cons.1 distinct
      rcases List.mem_cons.1 hf with rfl | hf
      · exact List.find?_cons_of_pos (by simp)
      · have hne : g.1 ≠ f.1 := fun heq => hfresh (List.mem_map.2 ⟨f, hf, heq.symm⟩)
        rw [List.find?_cons_of_neg (by simp [hne])]
        exact ih hdistinct hf

theorem countP_field_le_one (name : String) : fields.countP (·.1 = name) ≤ 1 := by
  induction fields with
  | nil => exact Nat.zero_le 1
  | cons g fields ih =>
      obtain ⟨hfresh, hdistinct⟩ := List.nodup_cons.1 distinct
      by_cases hname : g.1 = name
      · have hzero : fields.countP (·.1 = name) = 0 := by
          rw [List.countP_eq_zero]
          intro f hf heq
          have heq : f.1 = name := of_decide_eq_true heq
          exact hfresh (List.mem_map.2 ⟨f, hf, heq.trans hname.symm⟩)
        have hone : (g :: fields).countP (·.1 = name) = 1 := by
          rw [List.countP_cons_of_pos (by simp [hname]), hzero]
        exact Nat.le_of_eq hone
      · rw [List.countP_cons_of_neg (by simp [hname])]
        exact ih hdistinct

end Record

theorem slots?_record (fields : List (String × Json)) (distinct : (fields.map (·.1)).Nodup) :
    ∃ slot, slots? (fields.map (·.1)) (record fields) = some slot ∧
      ∀ f ∈ fields, slot f.1 = .given f.2 := by
  have honce : (fields.map (·.1)).all (fun name => fields.countP (·.1 = name) ≤ 1) = true := by
    rw [List.all_eq_true]
    exact fun name _ => decide_eq_true (countP_field_le_one distinct name)
  unfold slots? record
  refine ⟨_, Option.bind_eq_some_iff.2 ⟨fields, mapM_map_eq_some ?_,
    Option.bind_eq_some_iff.2 ⟨(), if_pos honce, rfl⟩⟩, ?_⟩
  · intro f _
    simp [Literal.decode?_encode]
  · intro f hf
    rw [find?_field distinct hf]

theorem text?_ofString (s : String) : (ofString s).text? = some s := by
  unfold ofString text?
  dsimp only
  rw [Literal.decode?_encode, Option.map_some, String.ofList_toList]

theorem word?_ofString {β : Type} {vocabulary : List β} {name : β → String} {w : β}
    (known : vocabulary.find? (fun v => (name v).toList = (name w).toList) = some w) :
    word? vocabulary name (ofString (name w)) = some w := by
  unfold ofString word?
  dsimp only
  rw [Literal.decode?_encode]
  exact known

end Json

open Json

section Values

variable {α : Type} [JsonForm α]

/-- A record survives if it is put together again from what its fields were given. -/
theorem Survives.record {a : α} {fields : List (String × Json)} {build : (String → Slot) → Option α}
    (written : toJson a = Json.record fields)
    (reads : ofJson? (toJson a) = (slots? (fields.map (·.1)) (toJson a)).bind build)
    (distinct : (fields.map (·.1)).Nodup) (plain : ∀ f ∈ fields, f.2.Plain)
    (built : ∀ slot, (∀ f ∈ fields, slot f.1 = .given f.2) → build slot = some a) :
    Survives a := by
  constructor
  · rw [written]
    exact .record plain
  · obtain ⟨slot, hslots, hgiven⟩ := slots?_record fields distinct
    rw [reads, written, hslots]
    exact built slot hgiven

theorem Survives.word {vocabulary : List α} {name : α → String} {a : α}
    (written : toJson a = ofString (name a))
    (reads : ofJson? (toJson a) = word? vocabulary name (toJson a))
    (known : vocabulary.find? (fun v => (name v).toList = (name a).toList) = some a) :
    Survives a := by
  constructor
  · rw [written]
    exact .text (name a).toList
  · rw [reads, written]
    exact word?_ofString known

theorem Survives.option {o : Option α} (h : ∀ a, o = some a → Survives a)
    (present : ∀ a : α, toJson a ≠ .null) : Survives o := by
  cases o with
  | none => exact ⟨.null, rfl⟩
  | some a =>
      have ha : Survives a := h a rfl
      refine ⟨ha.plain, ?_⟩
      have hread := congrArg (Option.map Option.some) ha.read
      change nullable ofJson? (toJson a) = _
      unfold nullable
      split
      · next hnull => exact absurd hnull (present a)
      · exact hread

theorem Survives.list {as : List α} (h : ∀ a ∈ as, Survives a) : Survives as := by
  constructor
  · apply Plain.array
    intro j hj
    obtain ⟨a, ha, rfl⟩ := List.mem_map.1 hj
    exact (h a ha).plain
  · exact mapM_map_eq_some fun a ha => (h a ha).read

end Values

theorem survives_string (s : String) : Survives s := ⟨.text s.toList, text?_ofString s⟩

theorem survives_bool (b : Bool) : Survives b := ⟨.bool b, rfl⟩

theorem survives_int32 (n : Int32) : Survives n := by
  have hrange : -2147483648 ≤ n.toInt ∧ n.toInt ≤ 2147483647 :=
    ⟨Int32.le_toInt n, Int.le_of_lt_add_one (Int32.toInt_lt n)⟩
  refine ⟨.integer n.toInt, Option.bind_eq_some_iff.2 ⟨n.toInt, integerOf?_ofInt n.toInt, ?_⟩⟩
  exact Option.bind_eq_some_iff.2 ⟨(), if_pos hrange, congrArg some (Int32.ofInt_toInt n)⟩

theorem survives_uint64 (n : UInt64) : Survives n := by
  have hrange : 0 ≤ (n.toNat : Int) ∧ (n.toNat : Int) < 18446744073709551616 :=
    ⟨Int.natCast_nonneg _, Int.ofNat_lt.2 n.toNat_lt⟩
  refine ⟨.integer n.toNat, Option.bind_eq_some_iff.2 ⟨n.toNat, integerOf?_ofInt n.toNat, ?_⟩⟩
  exact Option.bind_eq_some_iff.2 ⟨(), if_pos hrange, congrArg some (UInt64.ofNat_toNat)⟩

end WifiTrust
