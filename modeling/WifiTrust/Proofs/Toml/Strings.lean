import WifiTrust.Toml.Scalar
import WifiTrust.Toml.Writer

/-!
# Strings in every style

A text is read as it was written, whatever characters it has, in the style that was chosen for it.
-/

namespace WifiTrust.Toml

/-! ## Characters between double quotes -/

/-- How a character other than a line feed may be written. -/
inductive Escape (c : Char) : List Char → Prop
  | short {e : Char} (letter : short? e = some c) : Escape c ['\\', e]
  | coded {v w x y : Char} (digits : coded? [v, w, x, y] = some c) : Escape c ['\\', 'u', v, w, x, y]
  | plain (unquoted : c ≠ '"') (unescaped : c ≠ '\\') (printable : isPlain c) : Escape c [c]

theorem isPlain_of_not_isControl {c : Char} (oneLine : c ≠ '\n') (h : ¬isControl c) : isPlain c := by
  simp only [isControl, isPlain, Bool.and_eq_true, Bool.or_eq_true, bne_iff_ne, beq_iff_eq,
    decide_eq_true_eq] at h ⊢
  by_cases htab : c = '\t'
  · exact .inl htab
  · refine .inr ?_
    have hcode : ¬(c.toNat < 0x20 ∨ c.toNat = 0x7F) := fun hcode => h ⟨⟨oneLine, htab⟩, hcode⟩
    omega

theorem Escape.ite {c d e : Char} {cs : List Char} (letter : short? e = some d)
    (other : c ≠ d → Escape c cs) : Escape c (if c = d then ['\\', e] else cs) := by
  split
  · next h =>
      subst h
      exact .short letter
  · next h => exact other h

theorem escape_escapeChar {c : Char} (unquoted : c ≠ '"') (oneLine : c ≠ '\n') :
    Escape c (escapeChar c) := by
  unfold escapeChar
  refine .ite rfl fun _ => .ite rfl fun _ => .ite rfl fun _ => .ite rfl fun _ => ?_
  refine .ite rfl fun unescaped => ?_
  split
  · next control =>
      have hcode : c.toNat < 0x80 := by
        simp only [isControl, Bool.and_eq_true, Bool.or_eq_true, decide_eq_true_eq,
          beq_iff_eq] at control
        omega
      refine .coded ?_
      conv => rhs; rw [← Char.ofNat_toNat c]
      generalize c.toNat = n at hcode ⊢
      revert n
      decide
  · next control => exact .plain unquoted unescaped (isPlain_of_not_isControl oneLine control)

section Between

variable {c : Char} {cs rest text tail : List Char}

theorem ne_of_short? {e : Char} (letter : short? e = some c) : e ≠ 'u' ∧ e ≠ 'U' := by
  constructor
  · rintro rfl
    cases letter
  · rintro rfl
    cases letter

theorem Escape.basic_append (h : Escape c cs) (hrest : basic rest = some (text, tail)) :
    basic (cs ++ rest) = some (c :: text, tail) := by
  cases h with
  | short letter =>
      obtain ⟨hu, hU⟩ := ne_of_short? letter
      simp only [List.cons_append, List.nil_append]
      rw [basic]
      · rw [letter, hrest]
        rfl
      · exact fun _ _ _ _ _ he _ => hu he
      · exact fun _ _ _ _ _ _ _ _ _ he _ => hU he
  | coded digits =>
      simp only [List.cons_append, List.nil_append, basic]
      rw [digits, hrest]
      rfl
  | plain unquoted unescaped printable =>
      rw [List.cons_append, List.nil_append, basic]
      · rw [if_pos ⟨printable, unescaped⟩, hrest]
        rfl
      · exact unquoted
      · exact fun _ _ _ _ _ hc _ => unescaped hc
      · exact fun _ _ _ _ _ _ _ _ _ hc _ => unescaped hc
      · exact fun _ _ hc _ => unescaped hc

theorem joinsLines_of_short? {e : Char} (letter : short? e = some c) :
    joinsLines (e :: rest) = false := by
  unfold short? at letter
  split at letter
  · rfl
  · rfl
  · rfl
  · rfl
  · rfl
  · rfl
  · rfl
  · cases letter

theorem basicBlock_plain (apart : ∀ cs, c = '"' → rest ≠ '"' :: '"' :: cs) (unescaped : c ≠ '\\')
    (printable : isPlain c) (hrest : basicBlock false rest = some (text, tail)) :
    basicBlock false (c :: rest) = some (c :: text, tail) := by
  rw [basicBlock]
  · rw [if_pos ⟨printable, unescaped⟩, hrest]
    rfl
  · exact apart
  · rintro rfl
    cases printable
  · rintro _ rfl
    cases printable
  · exact fun _ _ _ _ _ hc _ => unescaped hc
  · exact fun _ _ _ _ _ _ _ _ _ hc _ => unescaped hc
  · exact fun _ _ hc _ => unescaped hc
  · rintro ⟨⟩
  · rintro ⟨⟩

theorem Escape.basicBlock_append (h : Escape c cs)
    (hrest : basicBlock false rest = some (text, tail)) :
    basicBlock false (cs ++ rest) = some (c :: text, tail) := by
  cases h with
  | short letter =>
      obtain ⟨hu, hU⟩ := ne_of_short? letter
      simp only [List.cons_append, List.nil_append]
      rw [basicBlock]
      · rw [joinsLines_of_short? letter, letter, hrest]
        rfl
      · exact fun _ _ _ _ _ he _ => hu he
      · exact fun _ _ _ _ _ _ _ _ _ he _ => hU he
  | coded digits =>
      simp only [List.cons_append, List.nil_append, basicBlock]
      rw [digits, hrest]
      rfl
  | plain unquoted unescaped printable =>
      exact basicBlock_plain (fun _ hc => absurd hc unquoted) unescaped printable hrest

theorem Escape.exists_cons (h : Escape c cs) : ∃ d ds, cs = d :: ds ∧ d ≠ '"' ∧ isPlain d := by
  cases h with
  | short letter => exact ⟨_, _, rfl, by decide, rfl⟩
  | coded digits => exact ⟨_, _, rfl, by decide, rfl⟩
  | plain unquoted unescaped printable => exact ⟨_, _, rfl, unquoted, printable⟩

end Between

theorem exists_escape_cons (block : Bool) (quotes : Nat) (c : Char) (cs : List Char) :
    ∃ d ds, escape block quotes (c :: cs) = d :: ds ∧
      (d = '"' → block = true ∧ quotes < 2 ∧ c = '"') ∧
      (isPlain d ∨ block = true ∧ c = '\n') := by
  by_cases hquote : c = '"'
  · subst hquote
    rw [escape]
    split
    · next h =>
        simp only [Bool.and_eq_true, decide_eq_true_eq] at h
        exact ⟨_, _, rfl, fun _ => ⟨h.1, h.2, rfl⟩, .inl rfl⟩
    · exact ⟨_, _, rfl, fun h => absurd h (by decide), .inl rfl⟩
  · by_cases hline : c = '\n'
    · subst hline
      rw [escape]
      split
      · next h => exact ⟨_, _, rfl, fun h => absurd h (by decide), .inr ⟨h, rfl⟩⟩
      · exact ⟨_, _, rfl, fun h => absurd h (by decide), .inl rfl⟩
    · obtain ⟨d, ds, heq, unquoted, printable⟩ := (escape_escapeChar hquote hline).exists_cons
      rw [escape, heq]
      · exact ⟨d, _, rfl, fun h => absurd h unquoted, .inl printable⟩
      · exact hquote
      · exact hline

/-! ## One line -/

theorem basic_escape (text rest : List Char) :
    basic (escape false 0 text ++ '"' :: rest) = some (text, rest) := by
  induction text with
  | nil => rfl
  | cons c cs ih =>
      by_cases hquote : c = '"'
      · subst hquote
        exact (Escape.short rfl).basic_append ih
      · by_cases hline : c = '\n'
        · subst hline
          exact (Escape.short rfl).basic_append ih
        · rw [escape, List.append_assoc]
          · exact (escape_escapeChar hquote hline).basic_append ih
          · exact hquote
          · exact hline

theorem raw_append {text : List Char} (h : ∀ c ∈ text, c ≠ '\'' ∧ isPlain c) (rest : List Char) :
    raw (text ++ '\'' :: rest) = some (text, rest) := by
  induction text with
  | nil => rfl
  | cons c cs ih =>
      obtain ⟨⟨unquoted, printable⟩, hothers⟩ := List.forall_mem_cons.1 h
      rw [List.cons_append, raw]
      · rw [if_pos printable, ih hothers]
        rfl
      · exact unquoted

/-! ## Blocks -/

/-- Up to two quotes at the end of a block belong to its text. -/
theorem closing_append {quote : Char} {text : List Char} (rest : List Char) (hquote : quote ≠ '\n')
    (few : text = [] ∨ text = [quote] ∨ text = [quote, quote]) :
    closing quote (text ++ '\n' :: rest) = (text, '\n' :: rest) := by
  rcases few with rfl | rfl | rfl
  · cases rest with
    | nil => simp [closing, hquote.symm]
    | cons c cs => simp [closing, hquote.symm]
  · simp [closing, hquote.symm]
  · simp [closing]

theorem escape_apart {quotes : Nat} {cs : List Char} (behind : 0 < quotes) (more : cs ≠ [])
    (early : ¬(quotes = 1 ∧ cs = ['"'])) (tail rest : List Char) :
    escape true quotes cs ++ tail ≠ '"' :: '"' :: rest := by
  cases cs with
  | nil => exact absurd rfl more
  | cons c cs =>
      intro h
      obtain ⟨d, ds, heq, hquote, -⟩ := exists_escape_cons true quotes c cs
      rw [heq] at h
      obtain ⟨-, hfirst, rfl⟩ := hquote (List.cons.inj h).1
      have hone : quotes = 1 := by omega
      subst hone
      cases cs with
      | nil => exact early ⟨rfl, rfl⟩
      | cons c cs =>
          obtain ⟨e, es, heq', hquote', -⟩ := exists_escape_cons true 2 c cs
          rw [← heq, escape, if_pos (by decide), heq'] at h
          obtain ⟨-, hsecond, -⟩ := hquote' (List.cons.inj (List.cons.inj h).2).1
          omega

theorem basicBlock_escape (quotes : Nat) (text rest : List Char) :
    basicBlock false (escape true quotes text ++ '"' :: '"' :: '"' :: '\n' :: rest) =
      some (text, '\n' :: rest) := by
  induction text generalizing quotes with
  | nil => exact congrArg some (closing_append rest (by decide) (.inl rfl))
  | cons c cs ih =>
      by_cases hquote : c = '"'
      · subst hquote
        rw [escape]
        split
        · next h =>
            simp only [Bool.true_and, decide_eq_true_eq] at h
            by_cases hend : cs = [] ∨ quotes = 0 ∧ cs = ['"']
            · rcases hend with rfl | ⟨rfl, rfl⟩
              · exact congrArg some (closing_append rest (by decide) (.inr (.inl rfl)))
              · exact congrArg some (closing_append rest (by decide) (.inr (.inr rfl)))
            · have more : cs ≠ [] := fun h => hend (.inl h)
              have early : ¬(quotes + 1 = 1 ∧ cs = ['"']) := fun h =>
                hend (.inr ⟨Nat.succ.inj h.1, h.2⟩)
              have apart := escape_apart (Nat.succ_pos quotes) more early
              exact basicBlock_plain (fun _ _ => apart _ _) (by decide) rfl (ih (quotes + 1))
        · exact (Escape.short rfl).basicBlock_append (ih 0)
      · by_cases hline : c = '\n'
        · subst hline
          rw [escape, if_pos rfl, List.append_assoc, List.cons_append, List.nil_append, basicBlock,
            if_neg Bool.false_ne_true, ih 0]
          rfl
        · rw [escape, List.append_assoc]
          · exact (escape_escapeChar hquote hline).basicBlock_append (ih 0)
          · exact hquote
          · exact hline

theorem hasTriple_of_cons {quote c : Char} {cs : List Char} (h : hasTriple quote (c :: cs) = false) :
    hasTriple quote cs = false := by
  cases cs with
  | nil => rfl
  | cons d ds =>
      cases ds with
      | nil => rfl
      | cons e es =>
          rw [hasTriple, Bool.or_eq_false_iff] at h
          exact h.2

theorem rawBlock_append {text : List Char} (single : hasTriple '\'' text = false)
    (h : ∀ c ∈ text, ¬isControl c) (rest : List Char) :
    rawBlock (text ++ '\'' :: '\'' :: '\'' :: '\n' :: rest) = some (text, '\n' :: rest) := by
  induction text with
  | nil => exact congrArg some (closing_append rest (by decide) (.inl rfl))
  | cons c cs ih =>
      obtain ⟨hcontrol, hothers⟩ := List.forall_mem_cons.1 h
      have hrest := ih (hasTriple_of_cons single) hothers
      have hone : isPlain c ∨ c = '\n' := by
        by_cases hline : c = '\n'
        · exact .inr hline
        · exact .inl (isPlain_of_not_isControl hline hcontrol)
      by_cases hend : c = '\'' ∧ (cs = [] ∨ cs = ['\''])
      · rcases hend with ⟨rfl, rfl | rfl⟩
        · exact congrArg some (closing_append rest (by decide) (.inr (.inl rfl)))
        · exact congrArg some (closing_append rest (by decide) (.inr (.inr rfl)))
      · rw [List.cons_append, rawBlock]
        · rw [if_pos hone, hrest]
          rfl
        · rintro tail rfl heq
          cases cs with
          | nil => exact hend ⟨rfl, .inl rfl⟩
          | cons d ds =>
              obtain ⟨rfl, hsecond⟩ := List.cons.inj heq
              cases ds with
              | nil => exact hend ⟨rfl, .inr rfl⟩
              | cons e es =>
                  obtain ⟨rfl, -⟩ := List.cons.inj hsecond
                  cases single
        · rintro tail rfl
          exact fun _ => hcontrol rfl

/-! ## Every style -/

theorem Style.of_fits (text : List Char) :
    (Style.of text = .raw → ∀ c ∈ text, c ≠ '\'' ∧ isPlain c) ∧
    (Style.of text = .rawBlock → hasTriple '\'' text = false ∧ ∀ c ∈ text, ¬isControl c) := by
  unfold Style.of
  dsimp only
  split
  · exact ⟨nofun, nofun⟩
  · split
    · next fits =>
        simp only [Bool.not_eq_true', Bool.or_eq_false_iff, List.contains_eq_mem,
          decide_eq_false_iff_not, List.any_eq_false] at fits
        obtain ⟨⟨unquoted, oneLine⟩, hcontrol⟩ := fits
        refine ⟨fun _ c hc => ⟨ne_of_mem_of_not_mem hc unquoted, ?_⟩, nofun⟩
        exact isPlain_of_not_isControl (ne_of_mem_of_not_mem hc oneLine) (hcontrol c hc)
    · split
      · exact ⟨nofun, nofun⟩
      · split
        · next fits =>
            simp only [Bool.not_eq_true', Bool.or_eq_false_iff, List.any_eq_false] at fits
            exact ⟨nofun, fun _ => fits.symm⟩
        · split
          · exact ⟨nofun, nofun⟩
          · exact ⟨nofun, nofun⟩

theorem dropLineEnd_of_isPlain {c : Char} (h : isPlain c) (cs : List Char) :
    dropLineEnd (c :: cs) = c :: cs := by
  rw [dropLineEnd]
  · rintro _ ⟨⟩
    cases h
  · rintro _ ⟨⟩
    cases h

/-- The line end that is put in front of a block with lines. -/
def opening (text : List Char) : List Char := if text.contains '\n' then ['\n'] else []

theorem dropLineEnd_opening {text body : List Char}
    (h : '\n' ∉ text → ∃ c cs, body = c :: cs ∧ isPlain c) :
    dropLineEnd (opening text ++ body) = body := by
  unfold opening
  by_cases hline : '\n' ∈ text
  · rw [if_pos (List.contains_iff_mem.2 hline)]
    rfl
  · obtain ⟨c, cs, rfl, printable⟩ := h hline
    rw [if_neg fun hmem => hline (List.contains_iff_mem.1 hmem)]
    exact dropLineEnd_of_isPlain printable cs

theorem string?_basic (text rest : List Char) :
    string? ('"' :: (escape false 0 text ++ '"' :: '\n' :: rest)) = some (text, '\n' :: rest) := by
  rw [string?]
  · exact basic_escape text ('\n' :: rest)
  · intro cs heq
    cases text with
    | nil => cases heq
    | cons c cs =>
        obtain ⟨d, ds, hwritten, unquoted, -⟩ := exists_escape_cons false 0 c cs
        rw [hwritten] at heq
        cases (unquoted (List.cons.inj heq).1).1

theorem string?_raw {text : List Char} (h : ∀ c ∈ text, c ≠ '\'' ∧ isPlain c) (rest : List Char) :
    string? ('\'' :: (text ++ '\'' :: '\n' :: rest)) = some (text, '\n' :: rest) := by
  rw [string?]
  · exact raw_append h ('\n' :: rest)
  · intro cs heq
    cases text with
    | nil => cases heq
    | cons c cs => exact (h c List.mem_cons_self).1 (List.cons.inj heq).1

theorem string?_basicBlock (text rest : List Char) :
    string? ('"' :: '"' :: '"' :: (opening text ++ (escape true 0 text ++
      '"' :: '"' :: '"' :: '\n' :: rest))) = some (text, '\n' :: rest) := by
  rw [string?, dropLineEnd_opening]
  · exact basicBlock_escape 0 text rest
  · intro hline
    cases text with
    | nil => exact ⟨_, _, rfl, rfl⟩
    | cons c cs =>
        have oneLine : c ≠ '\n' := fun h => hline (h ▸ List.mem_cons_self)
        obtain ⟨d, ds, hwritten, -, printable⟩ := exists_escape_cons true 0 c cs
        rw [hwritten]
        exact ⟨d, _, rfl, printable.resolve_right fun h => oneLine h.2⟩

theorem string?_rawBlock {text : List Char} (single : hasTriple '\'' text = false)
    (h : ∀ c ∈ text, ¬isControl c) (rest : List Char) :
    string? ('\'' :: '\'' :: '\'' :: (opening text ++ (text ++
      '\'' :: '\'' :: '\'' :: '\n' :: rest))) = some (text, '\n' :: rest) := by
  rw [string?, dropLineEnd_opening]
  · exact rawBlock_append single h rest
  · intro hline
    cases text with
    | nil => exact ⟨_, _, rfl, rfl⟩
    | cons c cs =>
        have oneLine : c ≠ '\n' := fun h => hline (h ▸ List.mem_cons_self)
        exact ⟨c, _, rfl, isPlain_of_not_isControl oneLine (h c List.mem_cons_self)⟩

/-- A text is read from the string that it was written as. -/
theorem string?_stringChars (text rest : List Char) :
    string? (stringChars text ++ '\n' :: rest) = some (text, '\n' :: rest) := by
  obtain ⟨hraw, hblock⟩ := Style.of_fits text
  unfold stringChars
  cases hstyle : Style.of text with
  | basic => simpa [Style.isBlock, Style.delimiter] using string?_basic text rest
  | raw => simpa [Style.isBlock, Style.delimiter] using string?_raw (hraw hstyle) rest
  | basicBlock =>
      simpa [Style.isBlock, Style.delimiter, opening] using string?_basicBlock text rest
  | rawBlock =>
      obtain ⟨single, hcontrol⟩ := hblock hstyle
      simpa [Style.isBlock, Style.delimiter, opening] using string?_rawBlock single hcontrol rest

end WifiTrust.Toml
