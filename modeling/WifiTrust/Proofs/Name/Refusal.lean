import WifiTrust.Proofs.Name.Reading

/-!
# Names that are refused

A name is cut so that every backslash keeps the character after it, and a value that is not in
hexadecimal can be decoded unless trimming parts the two. Main statement: such a name is refused for
a value exactly if a value ends in a blank that is escaped.
-/

namespace WifiTrust.DistinguishedName

/-- Every backslash has the character after it, and a separator stands only behind a backslash. -/
inductive IsPiece : List Char → Prop where
  | nil : IsPiece []
  | escape (c : Char) {cs : List Char} (rest : IsPiece cs) : IsPiece ('\\' :: c :: cs)
  | plain {c : Char} {cs : List Char} (inside : ¬(c = ',' ∨ c = '+')) (literal : c ≠ '\\')
      (rest : IsPiece cs) : IsPiece (c :: cs)

namespace IsPiece

variable {s t : List Char}

theorem append (hs : IsPiece s) (ht : IsPiece t) : IsPiece (s ++ t) := by
  induction hs with
  | nil => exact ht
  | escape c _ ih => exact .escape c ih
  | plain inside literal _ ih => exact .plain inside literal ih

theorem of_plain (plain : Plain s) : IsPiece s := by
  induction s with
  | nil => exact .nil
  | cons c s ih =>
      obtain ⟨⟨inside, literal⟩, hrest⟩ := List.forall_mem_cons.1 plain
      exact .plain inside literal (ih hrest)

/-- A piece that is taken apart gives two pieces, unless the cut parts a backslash from its
character. -/
theorem split (h : IsPiece (s ++ t)) : IsPiece s ∧ IsPiece t ∨
    ∃ front c back, s = front ++ ['\\'] ∧ t = c :: back ∧ IsPiece front ∧ IsPiece back := by
  generalize hst : s ++ t = st at h
  induction h generalizing s with
  | nil =>
      obtain ⟨rfl, rfl⟩ := List.append_eq_nil_iff.1 hst
      exact .inl ⟨.nil, .nil⟩
  | escape c rest ih =>
      rcases List.append_eq_cons_iff.1 hst with ⟨rfl, rfl⟩ | ⟨s, rfl, hs⟩
      · exact .inl ⟨.nil, .escape c rest⟩
      · rcases List.append_eq_cons_iff.1 hs.symm with ⟨rfl, rfl⟩ | ⟨s', rfl, hs'⟩
        · exact .inr ⟨[], c, _, rfl, rfl, .nil, rest⟩
        · rcases ih hs'.symm with ⟨hfront, ht⟩ | ⟨front, d, back, rfl, ht, hfront, hback⟩
          · exact .inl ⟨.escape c hfront, ht⟩
          · exact .inr ⟨'\\' :: c :: front, d, back, rfl, ht, .escape c hfront, hback⟩
  | plain inside literal rest ih =>
      rcases List.append_eq_cons_iff.1 hst with ⟨rfl, rfl⟩ | ⟨s, rfl, hs⟩
      · exact .inl ⟨.nil, .plain inside literal rest⟩
      · rcases ih hs.symm with ⟨hfront, ht⟩ | ⟨front, d, back, rfl, ht, hfront, hback⟩
        · exact .inl ⟨.plain inside literal hfront, ht⟩
        · exact .inr ⟨_ :: front, d, back, rfl, ht, .plain inside literal hfront, hback⟩

end IsPiece

section Pieces

theorem isPiece_cut (name : List Char) :
    IsPiece (cut name).1 ∧ ∀ p ∈ (cut name).2, IsPiece p := by
  induction name using cut.induct with
  | case1 => exact ⟨.nil, List.forall_mem_nil _⟩
  | case2 => exact ⟨.nil, List.forall_mem_nil _⟩
  | case3 c cs ih => exact ⟨.escape c ih.1, ih.2⟩
  | case4 c cs hdangling hescape separates ih =>
      rw [cut_separator separates]
      exact ⟨.nil, List.forall_mem_cons.2 ih⟩
  | case5 c cs hdangling hescape inside ih =>
      have literal : c ≠ '\\' := by
        rintro rfl
        cases cs with
        | nil => exact hdangling rfl rfl
        | cons d ds => exact hescape d ds rfl rfl
      rw [cut_other inside literal]
      exact ⟨.plain inside literal ih.1, ih.2⟩

theorem mem_pieces_of_mem_parts {name p : List Char} (hp : p ∈ parts name) : p ∈ pieces name := by
  unfold pieces
  rcases parts_eq name with hall | ⟨blank, -, hall⟩
  · exact hall ▸ hp
  · exact hall ▸ List.mem_append_left _ hp

theorem isPiece_of_mem_parts {name p : List Char} (hp : p ∈ parts name) : IsPiece p := by
  obtain ⟨hfirst, hothers⟩ := isPiece_cut name
  rcases List.mem_cons.1 (mem_pieces_of_mem_parts hp) with rfl | hmem
  · exact hfirst
  · exact hothers p hmem

theorem isPiece_of_keyValue? {piece key raw : List Char} (h : keyValue? piece = some (key, raw))
    (hpiece : IsPiece piece) : IsPiece raw := by
  have hsplit : piece = key ++ '=' :: raw := by
    unfold keyValue? at h
    split at h
    · cases h
    · next c raw' hdrop =>
        cases h
        have hc := List.head?_dropWhile_not (· ≠ '=') piece
        rw [hdrop] at hc
        obtain rfl : c = '=' := by simpa using hc
        rw [← hdrop, List.takeWhile_append_dropWhile]
  rw [hsplit] at hpiece
  rcases hpiece.split with ⟨-, h⟩ | ⟨front, c, back, -, hback, -, h⟩
  · cases h with
    | plain _ _ rest => exact rest
  · cases hback
    exact h

end Pieces

section Values

theorem exists_unescape {cs : List Char} (h : IsPiece cs) : ∃ v, unescape cs = some v := by
  induction h with
  | nil => exact ⟨[], rfl⟩
  | escape c _ ih =>
      obtain ⟨v, hv⟩ := ih
      exact ⟨c :: v, by rw [unescape, hv]; rfl⟩
  | plain _ literal _ ih =>
      obtain ⟨v, hv⟩ := ih
      exact ⟨_ :: v, by
        rw [unescape.eq_4 _ _ (fun h => absurd h literal) (fun _ _ h => absurd h literal), hv]; rfl⟩

theorem unescape_dangling {cs : List Char} (h : IsPiece cs) : unescape (cs ++ ['\\']) = none := by
  induction h with
  | nil => rfl
  | escape c _ ih =>
      rw [List.cons_append, List.cons_append, unescape, ih]
      rfl
  | plain _ literal _ ih =>
      rw [List.cons_append,
        unescape.eq_4 _ _ (fun h => absurd h literal) (fun _ _ h => absurd h literal), ih]
      rfl

/-- The last character that is not left out by trimming is a backslash, and what it escapes is left
out. -/
def EndsInEscapedBlank (raw : List Char) : Prop :=
  ∃ front b blanks, raw = front ++ '\\' :: b :: blanks ∧ IsPiece front ∧
    Text.isBlank b = true ∧ ∀ c ∈ blanks, Text.isBlank c = true

theorem plain_of_blank {blanks : List Char} (blank : ∀ b ∈ blanks, Text.isBlank b = true) :
    Plain blanks := by
  intro c hc
  have hblank := blank c hc
  refine ⟨?_, ?_⟩
  · rintro (rfl | rfl)
    · exact absurd hblank (by decide)
    · exact absurd hblank (by decide)
  · rintro rfl
    exact absurd hblank (by decide)

theorem isPiece_trimStart {raw : List Char} (h : IsPiece raw) : IsPiece (Text.trimStart raw) := by
  obtain ⟨blanks, hblanks, hraw⟩ := Text.exists_trimStart raw
  rw [hraw] at h
  rcases h.split with ⟨-, hrest⟩ | ⟨front, c, back, hfront, -, -, -⟩
  · exact hrest
  · have hlast : '\\' ∈ blanks := by simp [hfront]
    exact absurd rfl (plain_of_blank hblanks _ hlast).2

/-- Trimming leaves a value whole or takes away the blank that its last backslash escapes. -/
theorem unescape_trim_eq_none_iff {raw : List Char} (h : IsPiece raw) :
    unescape (Text.trim raw) = none ↔ EndsInEscapedBlank raw := by
  unfold Text.trim
  constructor
  · intro hnone
    obtain ⟨blanks, hblanks, hraw⟩ := Text.exists_trimStart raw
    obtain ⟨back, hback, hstart⟩ := Text.exists_trimEnd (Text.trimStart raw)
    have hrest := isPiece_trimStart h
    rw [hstart] at hrest
    rcases hrest.split with ⟨hwhole, -⟩ | ⟨front, b, rest, hfront, rfl, hpiece, -⟩
    · obtain ⟨v, hv⟩ := exists_unescape hwhole
      rw [hv] at hnone
      cases hnone
    · obtain ⟨hb, hrest⟩ := List.forall_mem_cons.1 hback
      refine ⟨blanks ++ front, b, rest, ?_, (IsPiece.of_plain (plain_of_blank hblanks)).append hpiece,
        hb, hrest⟩
      rw [hraw, hstart, hfront]
      simp
  · rintro ⟨front, b, blanks, rfl, hfront, hb, hblanks⟩
    have visible : Text.isBlank '\\' = false := by decide
    rw [Text.trimStart_append visible,
      Text.trimEnd_append visible _ (List.forall_mem_cons.2 ⟨hb, hblanks⟩)]
    exact unescape_dangling (isPiece_trimStart hfront)

end Values

section Parse

def rawValues (name : String) : List (List Char) :=
  (parts name.toList).filterMap fun p => (keyValue? p).map (·.2)

def Unreadable (piece : List Char) : Prop :=
  ∃ key raw, keyValue? piece = some (key, raw) ∧ decodeValue (Text.trim raw) = none

theorem enter_eq_error_iff {n : DistinguishedName} {piece : List Char} {e : NameError} :
    enter n piece = .error e ↔ Unreadable piece ∧ e = .badValue (String.ofList piece) := by
  unfold enter
  cases hpiece : keyValue? piece with
  | none => simp [Unreadable, hpiece]
  | some kv =>
      obtain ⟨key, raw⟩ := kv
      have hunreadable : Unreadable piece ↔ decodeValue (Text.trim raw) = none := by
        unfold Unreadable
        rw [hpiece]
        exact ⟨fun ⟨_, _, hkv, hnone⟩ => by cases hkv; exact hnone, fun h => ⟨key, raw, rfl, h⟩⟩
      rw [hunreadable]
      dsimp only
      cases decodeValue (Text.trim raw) with
      | none => simp [eq_comm]
      | some value => cases Field.ofKey? key <;> simp

theorem foldlM_enter_eq_error {ps : List (List Char)} {n : DistinguishedName} {e : NameError}
    (h : ps.foldlM enter n = .error e) : ∃ p ∈ ps, Unreadable p ∧ e = .badValue (String.ofList p) := by
  induction ps generalizing n with
  | nil => cases h
  | cons p ps ih =>
      rw [List.foldlM_cons] at h
      cases hfirst : enter n p with
      | error e' =>
          rw [hfirst] at h
          cases h
          exact ⟨p, List.mem_cons_self, enter_eq_error_iff.1 hfirst⟩
      | ok m =>
          rw [hfirst] at h
          obtain ⟨q, hq, hunreadable⟩ := ih h
          exact ⟨q, List.mem_cons_of_mem p hq, hunreadable⟩

theorem readable_of_foldlM_enter {ps : List (List Char)} {n m : DistinguishedName}
    (h : ps.foldlM enter n = .ok m) : ∀ p ∈ ps, ¬Unreadable p := by
  induction ps generalizing n with
  | nil => exact List.forall_mem_nil _
  | cons p ps ih =>
      rw [List.foldlM_cons] at h
      cases hfirst : enter n p with
      | error e =>
          rw [hfirst] at h
          cases h
      | ok n' =>
          rw [hfirst] at h
          refine List.forall_mem_cons.2 ⟨fun hp => ?_, ih h⟩
          rw [enter_eq_error_iff.2 ⟨hp, rfl⟩] at hfirst
          cases hfirst

theorem parse_eq (name : String) :
    parse name = ((parts name.toList).foldlM enter {}).bind fun n =>
      if n.commonName = "" then .error (.noCommonName name) else .ok n := rfl

/-- Where all pieces can be read, only the common name decides. -/
theorem parse_of_readable {name : String} (readable : ∀ p ∈ parts name.toList, ¬Unreadable p) :
    ∃ n : DistinguishedName,
      (∀ f, n.get f = ((given f name.toList).getLast?.map String.ofList).getD "") ∧
      parse name = if n.commonName = "" then .error (.noCommonName name) else .ok n := by
  cases hread : (parts name.toList).foldlM enter {} with
  | error e =>
      obtain ⟨p, hp, hunreadable, -⟩ := foldlM_enter_eq_error hread
      exact absurd hunreadable (readable p hp)
  | ok n =>
      refine ⟨n, fun f => ?_, by rw [parse_eq, hread]; rfl⟩
      have hempty : ({} : DistinguishedName).get f = "" := by cases f <;> rfl
      rw [get_of_foldlM hread f, filterMap_parts, hempty]

theorem nameless_iff_readable {name : String} :
    (∀ e, parse name = .error e → e = .noCommonName name) ↔
      ∀ p ∈ parts name.toList, ¬Unreadable p := by
  constructor
  · intro h
    cases hread : (parts name.toList).foldlM enter {} with
    | error e =>
        obtain ⟨p, -, -, rfl⟩ := foldlM_enter_eq_error hread
        have hparse : parse name = .error (.badValue (String.ofList p)) := by rw [parse_eq, hread]; rfl
        cases h _ hparse
    | ok n => exact readable_of_foldlM_enter hread
  · intro readable e he
    obtain ⟨n, -, hparse⟩ := parse_of_readable readable
    rw [hparse] at he
    split at he
    · exact (Except.error.inj he).symm
    · cases he

theorem mem_rawValues_iff {name : String} {v : List Char} :
    v ∈ rawValues name ↔ ∃ p ∈ parts name.toList, ∃ key, keyValue? p = some (key, v) := by
  simp [rawValues]

theorem isPiece_of_mem_rawValues {name : String} {v : List Char} (hv : v ∈ rawValues name) :
    IsPiece v := by
  obtain ⟨p, hp, key, hkv⟩ := mem_rawValues_iff.1 hv
  exact isPiece_of_keyValue? hkv (isPiece_of_mem_parts hp)

theorem decodeValue_of_not_hex {raw : List Char} (plain : raw.head? ≠ some '#') :
    decodeValue raw = unescape raw := by
  unfold decodeValue
  split
  · exact absurd rfl plain
  · rfl

/-- A name without values in hexadecimal is read, unless it lacks a common name or one of its values
ends in a blank that is escaped. -/
theorem refused_only_nameless_iff {name : String}
    (plain : ∀ v ∈ rawValues name, (Text.trim v).head? ≠ some '#') :
    (∀ e, parse name = .error e → e = .noCommonName name) ↔
      ∀ v ∈ rawValues name, ¬EndsInEscapedBlank v := by
  have hvalue {v : List Char} (hv : v ∈ rawValues name) :
      decodeValue (Text.trim v) = none ↔ EndsInEscapedBlank v := by
    rw [decodeValue_of_not_hex (plain v hv)]
    exact unescape_trim_eq_none_iff (isPiece_of_mem_rawValues hv)
  rw [nameless_iff_readable]
  constructor
  · intro h v hv hends
    obtain ⟨p, hp, key, hkv⟩ := mem_rawValues_iff.1 hv
    exact h p hp ⟨key, v, hkv, (hvalue hv).2 hends⟩
  · rintro h p hp ⟨key, v, hkv, hnone⟩
    have hv := mem_rawValues_iff.2 ⟨p, hp, key, hkv⟩
    exact h v hv ((hvalue hv).1 hnone)

/-- Commas and plus signs in a value may be escaped, and a backslash at the very end of the name does
no harm. -/
theorem escaped_comma_accepted :
    (∀ v ∈ rawValues "O=Widgets\\, Inc.,CN=a\\+b\\", (Text.trim v).head? ≠ some '#') ∧
      ∀ e, parse "O=Widgets\\, Inc.,CN=a\\+b\\" = .error e →
        e = .noCommonName "O=Widgets\\, Inc.,CN=a\\+b\\" := by
  have plain : ∀ v ∈ rawValues "O=Widgets\\, Inc.,CN=a\\+b\\", (Text.trim v).head? ≠ some '#' := by
    decide
  refine ⟨plain, (refused_only_nameless_iff plain).2 fun v hv hends => ?_⟩
  have hwhole : ∀ v ∈ rawValues "O=Widgets\\, Inc.,CN=a\\+b\\", unescape (Text.trim v) ≠ none := by
    decide
  exact hwhole v hv ((unescape_trim_eq_none_iff (isPiece_of_mem_rawValues hv)).2 hends)

/-- A blank at the end of a value is trimmed away also where it is escaped, and the backslash in
front of it is left with nothing to escape. -/
theorem escaped_blank_refused :
    (∀ v ∈ rawValues "CN=radius\\ ", (Text.trim v).head? ≠ some '#') ∧
      parse "CN=radius\\ " = .error (.badValue "CN=radius\\ ") :=
  ⟨by decide, rfl⟩

end Parse

end WifiTrust.DistinguishedName
