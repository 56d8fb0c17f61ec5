import WifiTrust.Json.Reader

namespace WifiTrust.Json

namespace Literal

inductive Escape (c : Char) : List Char → Prop
  | short {e : Char} (letter : short? e = some c) : Escape c ['\\', e]
  | unit {x y : Char} (digits : unit? '0' '0' x y = some c.toNat) (control : c.toNat < 0x20) :
      Escape c ['\\', 'u', '0', '0', x, y]
  | plain (unquoted : c ≠ '"') (unescaped : c ≠ '\\') (printable : ¬ c.toNat < 0x20) : Escape c [c]

theorem unit?_digits : ∀ n < 0x20,
    unit? '0' '0' (Hex.digit (n / 16)) (Hex.digit (n % 16)) = some n := by decide

theorem Escape.ite {c d e : Char} {cs : List Char} (letter : short? e = some d)
    (other : c ≠ d → Escape c cs) : Escape c (if c = d then ['\\', e] else cs) := by
  split
  · next h =>
      subst h
      exact .short letter
  · next h => exact other h

theorem escape_escapeChar (c : Char) : Escape c (escapeChar c) := by
  unfold escapeChar
  refine .ite rfl fun unquoted => .ite rfl fun unescaped => ?_
  refine .ite rfl fun _ => .ite rfl fun _ => .ite rfl fun _ => ?_
  refine .ite rfl fun _ => .ite rfl fun _ => ?_
  split
  · next control => exact .unit (unit?_digits c.toNat control) control
  · next printable => exact .plain unquoted unescaped printable

theorem Escape.decode? {c : Char} {cs : List Char} (h : Escape c cs) (rest : List Char) :
    Literal.decode? (cs ++ rest) = (Literal.decode? rest).map (c :: ·) := by
  cases h with
  | @short e letter =>
      have hu : e ≠ 'u' := by
        rintro rfl
        cases letter
      rw [List.cons_append, List.cons_append, List.nil_append, Literal.decode?]
      · rw [letter]
      · exact fun _ _ _ _ _ _ _ _ _ he _ => hu he
      · exact fun _ _ _ _ _ he _ => hu he
  | @unit x y digits control =>
      have hlow : ¬ (0xD800 ≤ c.toNat ∧ c.toNat < 0xDC00) := by omega
      have hhigh : ¬ (0xDC00 ≤ c.toNat ∧ c.toNat < 0xE000) := by omega
      have hpair : ¬ (0xD800 ≤ c.toNat ∧ c.toNat < 0xE000) := by omega
      simp only [List.cons_append, List.nil_append]
      by_cases hnext : ∃ e f g h later, rest = '\\' :: 'u' :: e :: f :: g :: h :: later
      · obtain ⟨e, f, g, h, later, rfl⟩ := hnext
        rw [Literal.decode?, digits]
        dsimp only
        rw [if_neg hlow, if_neg hhigh, Char.ofNat_toNat]
      · rw [Literal.decode?, digits]
        · dsimp only
          rw [if_neg hpair, Char.ofNat_toNat]
        · exact fun e f g h later heq => hnext ⟨e, f, g, h, later, heq⟩
  | plain unquoted unescaped printable =>
      rw [List.cons_append, List.nil_append, Literal.decode?]
      · exact fun _ _ _ _ _ _ _ _ _ hc _ => unescaped hc
      · exact fun _ _ _ _ _ hc _ => unescaped hc
      · exact fun _ _ hc _ => unescaped hc
      · exact fun hc _ => unescaped hc

theorem Escape.literal {c : Char} {cs : List Char} (h : Escape c cs) (rest : List Char) :
    literal (cs ++ rest) = (literal rest).map fun (inside, rest) => (cs ++ inside, rest) := by
  cases h with
  | @short e letter =>
      have hu : e ≠ 'u' := by
        rintro rfl
        cases letter
      rw [List.cons_append, List.cons_append, List.nil_append, Json.literal]
      · rw [letter]
        rfl
      · exact fun _ _ _ _ _ he _ => hu he
  | unit digits control =>
      simp only [List.cons_append, List.nil_append, Json.literal]
      rw [digits]
  | plain unquoted unescaped printable =>
      rw [List.cons_append, List.nil_append, Json.literal]
      · rw [if_neg (not_or.2 ⟨printable, unescaped⟩)]
        rfl
      · exact unquoted
      · exact fun _ _ _ _ _ hc _ => unescaped hc
      · exact fun _ _ hc _ => unescaped hc

theorem encode_of_printable {cs : List Char}
    (h : ∀ c ∈ cs, c ≠ '"' ∧ c ≠ '\\' ∧ 0x20 ≤ c.toNat) : encode cs = cs := by
  induction cs with
  | nil => rfl
  | cons c cs ih =>
      obtain ⟨⟨hquote, hbackslash, hprintable⟩, hothers⟩ := List.forall_mem_cons.1 h
      have hcontrol (d : Char) (hd : d.toNat < 0x20) : c ≠ d := by
        rintro rfl
        omega
      have hself : escapeChar c = [c] := by
        unfold escapeChar
        rw [if_neg hquote, if_neg hbackslash, if_neg (hcontrol _ (by decide)),
          if_neg (hcontrol _ (by decide)), if_neg (hcontrol _ (by decide)),
          if_neg (hcontrol _ (by decide)), if_neg (hcontrol _ (by decide)), if_neg (by omega)]
      rw [encode, List.flatMap_cons, hself]
      exact congrArg (c :: ·) (ih hothers)

theorem decode?_encode (cs : List Char) : Literal.decode? (encode cs) = some cs := by
  unfold encode
  induction cs with
  | nil => rfl
  | cons c cs ih => rw [List.flatMap_cons, (escape_escapeChar c).decode?, ih, Option.map_some]

theorem literal_encode (cs rest : List Char) :
    literal (encode cs ++ '"' :: rest) = some (encode cs, rest) := by
  unfold encode
  induction cs with
  | nil => rfl
  | cons c cs ih =>
      rw [List.flatMap_cons, List.append_assoc, (escape_escapeChar c).literal, ih, Option.map_some]

end Literal

end WifiTrust.Json
