import WifiTrust.Proofs.Toml.Strings
import WifiTrust.Toml.Reader

/-!
# Documents with one key a line

A written document is read as its keys with their values, in the order of its lines.
-/

namespace WifiTrust.Toml

structure IsBare (key : Key) : Prop where
  nonempty : key ≠ []
  plain : ∀ c ∈ key, isKeyChar c

instance (key : Key) : Decidable (IsBare key) :=
  decidable_of_iff (key ≠ [] ∧ key.all isKeyChar)
    ⟨fun h => ⟨h.1, List.all_eq_true.1 h.2⟩, fun h => ⟨h.1, List.all_eq_true.2 h.2⟩⟩

def Plain.value : Plain → Toml
  | .string text => .string text.toList
  | .boolean b => .boolean b

def entries (pairs : List (String × Plain)) : Entries :=
  pairs.map fun pair => (pair.1.toList, pair.2.value)

theorem ne_of_isKeyChar {c d : Char} (h : isKeyChar c) (other : isKeyChar d = false) : c ≠ d := by
  rintro rfl
  rw [other] at h
  cases h

theorem skip_of_not_isSpace {c : Char} (h : isSpace c = false) (cs : List Char) :
    skip (c :: cs) = c :: cs :=
  List.dropWhile_cons_of_neg (by simp [h])

theorem isSpace_of_isKeyChar {c : Char} (h : isKeyChar c) : isSpace c = false := by
  have hblank : c ≠ ' ' := ne_of_isKeyChar h rfl
  have htab : c ≠ '\t' := ne_of_isKeyChar h rfl
  simp [isSpace, hblank, htab]

/-! ## Values -/

theorem exists_stringChars (text : List Char) :
    ∃ c cs, stringChars text = c :: cs ∧ (c = '"' ∨ c = '\'') := by
  unfold stringChars
  cases Style.of text with
  | basic => exact ⟨_, _, rfl, .inl rfl⟩
  | raw => exact ⟨_, _, rfl, .inr rfl⟩
  | basicBlock => exact ⟨_, _, rfl, .inl rfl⟩
  | rawBlock => exact ⟨_, _, rfl, .inr rfl⟩

theorem value?_chars (v : Plain) (fuel depth : Nat) (rest : List Char) :
    value? (fuel + 1) depth (v.chars ++ '\n' :: rest) = some (v.value, '\n' :: rest) := by
  cases v with
  | string text =>
      have hread := string?_stringChars text.toList rest
      obtain ⟨c, cs, hchars, hquote⟩ := exists_stringChars text.toList
      rw [hchars, List.cons_append] at hread
      rw [Plain.chars, hchars, List.cons_append]
      rcases hquote with rfl | rfl
      · rw [value?, hread]
        rfl
      · rw [value?, hread]
        rfl
  | boolean b =>
      cases b with
      | true => rfl
      | false => rfl

theorem skip_chars (v : Plain) (rest : List Char) : skip (v.chars ++ rest) = v.chars ++ rest := by
  cases v with
  | string text =>
      obtain ⟨c, cs, hchars, hquote⟩ := exists_stringChars text.toList
      rw [Plain.chars, hchars]
      rcases hquote with rfl | rfl
      · rfl
      · rfl
  | boolean b =>
      cases b with
      | true => rfl
      | false => rfl

/-! ## Lines -/

section Line

variable {key : Key} (bare : IsBare key) (rest : List Char)

include bare

theorem IsBare.exists_cons : ∃ c cs, key = c :: cs ∧ isKeyChar c := by
  cases key with
  | nil => exact absurd rfl bare.nonempty
  | cons c cs => exact ⟨c, cs, rfl, bare.plain c List.mem_cons_self⟩

theorem keyPart?_bare : keyPart? (key ++ ' ' :: rest) = some (key, ' ' :: rest) := by
  have htake : (key ++ ' ' :: rest).takeWhile isKeyChar = key := by
    rw [List.takeWhile_append_of_pos bare.plain]
    exact List.append_nil key
  have hdrop : (key ++ ' ' :: rest).dropWhile isKeyChar = ' ' :: rest := by
    rw [List.dropWhile_append_of_pos bare.plain]
    rfl
  obtain ⟨c, cs, rfl, hc⟩ := bare.exists_cons
  rw [keyPart?]
  · rw [htake, hdrop]
  · rintro _ ⟨⟩
    cases hc
  · rintro _ ⟨⟩
    cases hc

theorem key?_bare : key? (key ++ ' ' :: '=' :: rest) = some (([], key), '=' :: rest) := by
  have hskip : skip (key ++ ' ' :: '=' :: rest) = key ++ ' ' :: '=' :: rest := by
    obtain ⟨c, cs, rfl, hc⟩ := bare.exists_cons
    exact skip_of_not_isSpace (isSpace_of_isKeyChar hc) _
  have hparts : keyParts? (depthLimit - 1) (key ++ ' ' :: '=' :: rest) =
      some ([key], '=' :: rest) := by
    change keyParts? (78 + 1) _ = _
    rw [keyParts?, hskip, keyPart?_bare bare]
    rfl
  unfold key?
  rw [hparts]
  rfl

theorem statement?_line (v : Plain) :
    statement? (key ++ ' ' :: '=' :: ' ' :: (v.chars ++ '\n' :: rest)) =
      some (.assignment [] key v.value, rest) := by
  have hkey := key?_bare bare (' ' :: (v.chars ++ '\n' :: rest))
  have hskip : skip (' ' :: (v.chars ++ '\n' :: rest)) = v.chars ++ '\n' :: rest := skip_chars v _
  obtain ⟨c, cs, rfl, hc⟩ := bare.exists_cons
  rw [statement?]
  · rw [hkey]
    dsimp only [Option.bind_eq_bind, Option.bind_some]
    change (value? _ _ (skip (' ' :: (v.chars ++ '\n' :: rest)))).bind _ = _
    rw [hskip, value?_chars]
    rfl
  · intro _ heq
    exact ne_of_isKeyChar hc rfl (List.cons.inj heq).1
  · intro _ heq
    exact ne_of_isKeyChar hc rfl (List.cons.inj heq).1

end Line

theorem statements?_of_statement? {c : Char} {cs rest : List Char} {s : Statement}
    (hc : isKeyChar c) (h : statement? (c :: cs) = some (s, rest)) (fuel : Nat) :
    statements? (fuel + 1) (c :: cs) = (statements? fuel rest).map (s :: ·) := by
  have hend : lineEnd? (c :: cs) = none := by
    rw [lineEnd?]
    · intro _ heq
      exact ne_of_isKeyChar hc rfl (List.cons.inj heq).1
    · intro _ heq
      exact ne_of_isKeyChar hc rfl (List.cons.inj heq).1
  rw [statements?, skip_of_not_isSpace (isSpace_of_isKeyChar hc)]
  split
  · next heq => cases heq
  · next heq => exact absurd (List.cons.inj heq).1 (ne_of_isKeyChar hc rfl)
  · next heq =>
      obtain ⟨rfl, rfl⟩ := List.cons.inj heq
      rw [hend, h]
      dsimp only [Option.bind_eq_bind, Option.bind_some]
      cases statements? fuel rest with
      | none => rfl
      | some _ => rfl

theorem statements?_documentChars {pairs : List (String × Plain)}
    (bare : ∀ pair ∈ pairs, IsBare pair.1.toList) {fuel : Nat} (enough : pairs.length < fuel) :
    statements? fuel (documentChars pairs) =
      some (pairs.map fun pair => .assignment [] pair.1.toList pair.2.value) := by
  induction pairs generalizing fuel with
  | nil =>
      cases fuel with
      | zero => cases enough
      | succ fuel => rfl
  | cons pair pairs ih =>
      obtain ⟨hbare, hothers⟩ := List.forall_mem_cons.1 bare
      cases fuel with
      | zero => cases enough
      | succ fuel =>
          have hrest := ih hothers (Nat.lt_of_succ_lt_succ enough)
          have hline := statement?_line hbare (documentChars pairs) pair.2
          have hdocument : documentChars (pair :: pairs) = pair.1.toList ++
              ' ' :: '=' :: ' ' :: (pair.2.chars ++ '\n' :: documentChars pairs) := by
            rw [documentChars, List.append_assoc, List.append_assoc]
            rfl
          obtain ⟨c, cs, hkey, hc⟩ := hbare.exists_cons
          rw [hdocument, hkey, List.cons_append]
          rw [hkey, List.cons_append] at hline
          rw [statements?_of_statement? hc hline, hrest, ← hkey]
          rfl

theorem length_le_documentChars (pairs : List (String × Plain)) :
    pairs.length ≤ (documentChars pairs).length := by
  induction pairs with
  | nil => exact Nat.le_refl 0
  | cons pair pairs ih =>
      rw [documentChars, List.length_append, List.length_cons, List.length_cons]
      omega

/-! ## Entries -/

theorem Entries.enter_of_not_mem {es : Entries} {key : Key} (fresh : key ∉ es.map (·.1))
    (v : Toml) : es.enter key v = some (es ++ [(key, v)]) := by
  have hnone : es.find? (·.1 = key) = none := by
    rw [List.find?_eq_none]
    exact fun e he heq => fresh (List.mem_map.2 ⟨e, he, of_decide_eq_true heq⟩)
  rw [Entries.enter, Entries.get?, hnone]
  rfl

theorem carryOut_assignments {es : Entries} {pairs : List (String × Plain)}
    (distinct : (pairs.map (·.1)).Nodup)
    (fresh : ∀ pair ∈ pairs, pair.1.toList ∉ es.map (·.1)) :
    carryOut (pairs.map fun pair => .assignment [] pair.1.toList pair.2.value) [] es =
      some (es ++ entries pairs) := by
  induction pairs generalizing es with
  | nil => exact congrArg some (List.append_nil es).symm
  | cons pair pairs ih =>
      obtain ⟨hfirst, hdistinct⟩ := List.nodup_cons.1 distinct
      obtain ⟨hfresh, hothers⟩ := List.forall_mem_cons.1 fresh
      have hrest : ∀ other ∈ pairs,
          other.1.toList ∉ (es ++ [(pair.1.toList, pair.2.value)]).map (·.1) := by
        intro other hother hmem
        rw [List.map_append, List.mem_append] at hmem
        rcases hmem with hmem | hmem
        · exact hothers other hother hmem
        · have hkey : other.1 = pair.1 := String.toList_inj.1 (List.mem_singleton.1 hmem)
          exact hfirst (List.mem_map.2 ⟨other, hother, hkey⟩)
      have henter := Entries.enter_of_not_mem hfresh pair.2.value
      rw [List.map_cons, carryOut, Entries.inside, Entries.assign, henter]
      dsimp only [Option.bind_eq_bind, Option.bind_some]
      rw [ih hdistinct hrest, List.append_assoc]
      rfl

/-- The first line with a key counts. -/
theorem get?_entries (pairs : List (String × Plain)) (key : String) :
    (entries pairs).get? key.toList = (pairs.lookup key).map Plain.value := by
  unfold Entries.get? entries
  induction pairs with
  | nil => rfl
  | cons pair pairs ih =>
      obtain ⟨key', v⟩ := pair
      by_cases h : key' = key
      · subst h
        rw [List.map_cons, List.find?_cons_of_pos (by simp), List.lookup_cons_self]
        rfl
      · have hne : (key == key') = false := beq_false_of_ne (Ne.symm h)
        rw [List.map_cons, List.find?_cons_of_neg (by simpa [String.toList_inj] using h),
          List.lookup_cons, hne]
        exact ih

theorem dropMark_documentChars {pairs : List (String × Plain)}
    (bare : ∀ pair ∈ pairs, IsBare pair.1.toList) :
    dropMark (documentChars pairs) = documentChars pairs := by
  cases pairs with
  | nil => rfl
  | cons pair pairs =>
      obtain ⟨c, cs, hkey, hc⟩ := (bare pair List.mem_cons_self).exists_cons
      rw [documentChars, hkey, dropMark]
      intro _ heq
      exact ne_of_isKeyChar hc rfl (List.cons.inj heq).1

/-- A document is read as the pairs that it was written for, whichever of its keys it has. -/
theorem parse_document {keys : List String} (distinct : keys.Nodup)
    (plain : ∀ key ∈ keys, IsBare key.toList) {pairs : List (String × Plain)}
    (known : (pairs.map (·.1)).Sublist keys) : parse (document pairs) = some (entries pairs) := by
  have bare : ∀ pair ∈ pairs, IsBare pair.1.toList := fun pair hpair =>
    plain pair.1 (known.subset (List.mem_map_of_mem hpair))
  have hlines : pairs.length < (documentChars pairs).length + 1 :=
    Nat.lt_succ_of_le (length_le_documentChars pairs)
  unfold parse document
  rw [String.toList_ofList, dropMark_documentChars bare]
  dsimp only
  rw [statements?_documentChars bare hlines]
  exact carryOut_assignments (distinct.sublist known) fun _ _ => List.not_mem_nil

end WifiTrust.Toml
