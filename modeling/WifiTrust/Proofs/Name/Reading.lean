import WifiTrust.Name.Parser

/-!
# What a written name says

A name is read piece by piece, and of the values that its pieces give a field the last one counts.
Where nothing is escaped, the pieces are what stands between the commas and plus signs.
-/

namespace WifiTrust.DistinguishedName

/-- The pieces of a name, also a blank one at the end. -/
def pieces (name : List Char) : List (List Char) := (cut name).1 :: (cut name).2

/-- The value that a piece gives a field. -/
def given? (f : Field) (piece : List Char) : Option (List Char) :=
  match keyValue? piece with
  | none => none
  | some (key, raw) => if Field.ofKey? key = some f then decodeValue (Text.trim raw) else none

def given (f : Field) (name : List Char) : List (List Char) := (pieces name).filterMap (given? f)

/-- Nothing in the text cuts or escapes. -/
def Plain (cs : List Char) : Prop := ∀ c ∈ cs, ¬(c = ',' ∨ c = '+') ∧ c ≠ '\\'

instance (cs : List Char) : Decidable (Plain cs) :=
  List.decidableBAll (fun c => ¬(c = ',' ∨ c = '+') ∧ c ≠ '\\') cs

section Keys

variable {b : Char} {piece : List Char}

theorem keyValue?_cons (inside : b ≠ '=') (piece : List Char) :
    keyValue? (b :: piece) = (keyValue? piece).map fun (key, raw) => (b :: key, raw) := by
  unfold keyValue?
  rw [List.dropWhile_cons_of_pos (by simpa using inside),
    List.takeWhile_cons_of_pos (by simpa using inside)]
  cases piece.dropWhile (· ≠ '=') with
  | nil => rfl
  | cons c raw => rfl

theorem keyValue?_attribute {key : List Char} (plain : '=' ∉ key) (raw : List Char) :
    keyValue? (key ++ '=' :: raw) = some (key, raw) := by
  induction key with
  | nil => rfl
  | cons c key ih =>
      have hc : c ≠ '=' := fun h => plain (h ▸ List.mem_cons_self)
      rw [List.cons_append, keyValue?_cons hc, ih fun h => plain (List.mem_cons_of_mem c h)]
      rfl

theorem keyValue?_of_not_mem (keyless : '=' ∉ piece) : keyValue? piece = none := by
  induction piece with
  | nil => rfl
  | cons c piece ih =>
      have hc : c ≠ '=' := fun h => keyless (h ▸ List.mem_cons_self)
      rw [keyValue?_cons hc, ih fun h => keyless (List.mem_cons_of_mem c h)]
      rfl

theorem given?_of_blank (f : Field) (blank : Text.trim piece = []) : given? f piece = none := by
  have hnone : '=' ∉ piece := fun h => by
    have hmem := Text.mem_trim (by decide : Text.isBlank '=' = false) h
    rw [blank] at hmem
    cases hmem
  unfold given?
  rw [keyValue?_of_not_mem hnone]

theorem ofKey?_cons_blank (blank : Text.isBlank b = true) (key : List Char) :
    Field.ofKey? (b :: key) = Field.ofKey? key := by
  unfold Field.ofKey?
  rw [Text.trim_cons_blank blank]

theorem given?_cons_blank (f : Field) (blank : Text.isBlank b = true) (piece : List Char) :
    given? f (b :: piece) = given? f piece := by
  have hb : b ≠ '=' := by
    rintro rfl
    exact absurd blank (by decide)
  unfold given?
  rw [keyValue?_cons hb]
  cases keyValue? piece with
  | none => rfl
  | some kv => simp only [Option.map_some, ofKey?_cons_blank blank]

theorem given?_attribute (f : Field) {key : List Char} (plain : '=' ∉ key) (raw : List Char) :
    given? f (key ++ '=' :: raw) =
      if Field.ofKey? key = some f then decodeValue (Text.trim raw) else none := by
  unfold given?
  rw [keyValue?_attribute plain]

end Keys

theorem unescape_of_plain {cs : List Char} (plain : Plain cs) : unescape cs = some cs := by
  induction cs with
  | nil => rfl
  | cons c cs ih =>
      have hc : c ≠ '\\' := (plain c List.mem_cons_self).2
      have hrest := ih fun d hd => plain d (List.mem_cons_of_mem c hd)
      rw [unescape.eq_4 c cs (fun h => absurd h hc) (fun _ _ h => absurd h hc), hrest]
      rfl

theorem decodeValue_of_plain {cs : List Char} (plain : Plain cs) (literal : cs.head? ≠ some '#') :
    decodeValue cs = some cs := by
  unfold decodeValue
  split
  · exact absurd rfl literal
  · exact unescape_of_plain plain

section Parse

theorem get_of_enter {n n' : DistinguishedName} {piece : List Char}
    (entered : enter n piece = .ok n') (f : Field) :
    n'.get f = ((given? f piece).map String.ofList).getD (n.get f) := by
  unfold enter at entered
  unfold given?
  cases hpiece : keyValue? piece with
  | none =>
      rw [hpiece] at entered
      cases entered
      rfl
  | some kv =>
      obtain ⟨key, raw⟩ := kv
      rw [hpiece] at entered
      dsimp only at entered ⊢
      cases hvalue : decodeValue (Text.trim raw) with
      | none =>
          rw [hvalue] at entered
          cases entered
      | some value =>
          rw [hvalue] at entered
          dsimp only at entered
          cases hkey : Field.ofKey? key with
          | none =>
              rw [hkey] at entered
              cases entered
              simp
          | some g =>
              rw [hkey] at entered
              cases entered
              by_cases hf : f = g
              · simp [hf]
              · simp [hf, Ne.symm hf]

theorem get_of_foldlM {n n' : DistinguishedName} {ps : List (List Char)}
    (entered : ps.foldlM enter n = .ok n') (f : Field) :
    n'.get f = ((ps.filterMap (given? f)).getLast?.map String.ofList).getD (n.get f) := by
  induction ps generalizing n with
  | nil =>
      cases entered
      rfl
  | cons p ps ih =>
      rw [List.foldlM_cons] at entered
      cases hfirst : enter n p with
      | error e =>
          rw [hfirst] at entered
          cases entered
      | ok m =>
          rw [hfirst] at entered
          rw [ih entered, get_of_enter hfirst f]
          cases hp : given? f p with
          | none => simp [hp]
          | some v =>
              rw [List.filterMap_cons_some hp]
              cases hrest : ps.filterMap (given? f) with
              | nil => rfl
              | cons w ws =>
                  have hlast := List.getLast?_eq_some_getLast (List.cons_ne_nil w ws)
                  rw [List.getLast?_cons_cons, hlast]
                  rfl

theorem filterMap_parts (f : Field) (name : List Char) :
    (parts name).filterMap (given? f) = given f name := by
  unfold given pieces
  rcases parts_eq name with hall | ⟨blank, hblank, hall⟩
  · rw [hall]
  · rw [hall, List.filterMap_append]
    simp [given?_of_blank f hblank]

theorem get_of_parse {name : String} {n : DistinguishedName} (parsed : parse name = .ok n) :
    n.commonName ≠ "" ∧
      ∀ f, n.get f = ((given f name.toList).getLast?.map String.ofList).getD "" := by
  unfold parse at parsed
  cases hread : (parts name.toList).foldlM enter {} with
  | error e =>
      rw [hread] at parsed
      cases parsed
  | ok m =>
      rw [hread] at parsed
      have hm : (if m.commonName = "" then .error (.noCommonName name) else .ok m) =
        (.ok n : Except NameError DistinguishedName) := parsed
      split at hm
      · cases hm
      · next named =>
          cases hm
          refine ⟨named, fun f => ?_⟩
          have hempty : ({} : DistinguishedName).get f = "" := by cases f <;> rfl
          rw [get_of_foldlM hread f, filterMap_parts, hempty]

end Parse

section Pieces

variable {c : Char} {s : List Char}

/-- A separator ends a piece unless it is escaped. -/
theorem pieces_append (separates : c = ',' ∨ c = '+') (unescaped : '\\' ∉ s) (rest : List Char) :
    pieces (s ++ c :: rest) = pieces s ++ pieces rest := by
  unfold pieces
  induction s with
  | nil =>
      rw [List.nil_append, cut_separator separates]
      rfl
  | cons d s ih =>
      have hd : d ≠ '\\' := fun h => unescaped (h ▸ List.mem_cons_self)
      have hrest := ih fun h => unescaped (List.mem_cons_of_mem d h)
      rw [List.cons_append]
      by_cases hsep : d = ',' ∨ d = '+'
      · rw [cut_separator hsep, cut_separator hsep, hrest]
        rfl
      · obtain ⟨hhead, htail⟩ := List.cons.inj hrest
        rw [cut_other hsep hd, cut_other hsep hd, hhead, htail]
        rfl

theorem pieces_of_plain (plain : Plain s) : pieces s = [s] := by
  unfold pieces
  induction s with
  | nil => rfl
  | cons d s ih =>
      obtain ⟨hsep, hd⟩ := plain d List.mem_cons_self
      obtain ⟨hhead, htail⟩ := List.cons.inj (ih fun c hc => plain c (List.mem_cons_of_mem d hc))
      rw [cut_other hsep hd, hhead, htail]

theorem given_of_plain (f : Field) (plain : Plain s) : given f s = (given? f s).toList := by
  rw [given, pieces_of_plain plain]
  cases h : given? f s with
  | none => simp [h]
  | some v => simp [h]

theorem given_append (f : Field) (separates : c = ',' ∨ c = '+') (unescaped : '\\' ∉ s)
    (rest : List Char) : given f (s ++ c :: rest) = given f s ++ given f rest := by
  unfold given
  rw [pieces_append separates unescaped, List.filterMap_append]

end Pieces

section Joined

theorem given?_append_blank (f : Field) {b : Char} (blank : Text.isBlank b = true)
    {key : List Char} (plain : '=' ∉ key) (raw : List Char) :
    given? f (key ++ '=' :: raw ++ [b]) = given? f (key ++ '=' :: raw) := by
  rw [List.append_assoc, List.cons_append, given?_attribute f plain, given?_attribute f plain,
    Text.trim_append_blank blank]

theorem given_cons_blank (f : Field) (s : List Char) : given f (' ' :: s) = given f s := by
  unfold given pieces
  rw [cut_other (by decide) (by decide), List.filterMap_cons, List.filterMap_cons,
    given?_cons_blank f (by decide)]

theorem forall_mem_intercalate {P : Char → Prop} {sep : List Char} (hsep : ∀ c ∈ sep, P c)
    {ss : List (List Char)} (hss : ∀ s ∈ ss, ∀ c ∈ s, P c) : ∀ c ∈ sep.intercalate ss, P c := by
  induction ss with
  | nil => exact List.forall_mem_nil _
  | cons s ss ih =>
      have hrest := ih fun u hu => hss u (List.mem_cons_of_mem s hu)
      have hs := hss s List.mem_cons_self
      cases ss with
      | nil => simpa [List.intercalate] using hs
      | cons t ss =>
          rw [List.intercalate_cons_cons]
          exact List.forall_mem_append.2 ⟨List.forall_mem_append.2 ⟨hs, hsep⟩, hrest⟩

theorem given_commas (f : Field) {ss : List (List Char)} (unescaped : ∀ s ∈ ss, '\\' ∉ s) :
    given f ([',', ' '].intercalate ss) = ss.flatMap (given f) := by
  induction ss with
  | nil => rfl
  | cons s ss ih =>
      have hrest := ih fun u hu => unescaped u (List.mem_cons_of_mem s hu)
      have hs := unescaped s List.mem_cons_self
      cases ss with
      | nil => simp [List.intercalate]
      | cons t ss =>
          have htext : [',', ' '].intercalate (s :: t :: ss) =
              s ++ ',' :: ' ' :: [',', ' '].intercalate (t :: ss) := by
            simp [List.intercalate_cons_cons]
          rw [htext, given_append f (.inl rfl) hs, given_cons_blank, hrest]
          rfl

/-- An attribute in a written name: its key and its value stand around an equals sign. -/
def Attributive (s : List Char) : Prop := ∃ key raw, s = key ++ '=' :: raw ∧ '=' ∉ key

theorem given_pluses (f : Field) {xs : List (List Char)} (plain : ∀ x ∈ xs, Plain x)
    (attributive : ∀ x ∈ xs, Attributive x) :
    given f ([' ', '+', ' '].intercalate xs) = xs.filterMap (given? f) := by
  induction xs with
  | nil => rfl
  | cons x xs ih =>
      have hrest := ih (fun u hu => plain u (List.mem_cons_of_mem x hu))
        fun u hu => attributive u (List.mem_cons_of_mem x hu)
      have hx := plain x List.mem_cons_self
      have hcons : (x :: xs).filterMap (given? f) =
          (given? f x).toList ++ xs.filterMap (given? f) := by
        rw [List.filterMap_cons]
        cases given? f x with
        | none => rfl
        | some v => rfl
      rw [hcons]
      cases xs with
      | nil => simpa [List.intercalate] using given_of_plain f hx
      | cons y xs =>
          obtain ⟨key, raw, rfl, hkey⟩ := attributive x List.mem_cons_self
          have hblank : Plain (key ++ '=' :: raw ++ [' ']) := by
            intro c hc
            rcases List.mem_append.1 hc with hc | hc
            · exact hx c hc
            · rw [List.mem_singleton.1 hc]
              decide
          have htext : [' ', '+', ' '].intercalate ((key ++ '=' :: raw) :: y :: xs) =
              (key ++ '=' :: raw ++ [' ']) ++
                '+' :: ' ' :: [' ', '+', ' '].intercalate (y :: xs) := by
            simp [List.intercalate_cons_cons]
          rw [htext, given_append f (.inr rfl) fun h => (hblank _ h).2 rfl, given_of_plain f hblank,
            given?_append_blank f (by decide) hkey, given_cons_blank, hrest]

end Joined

end WifiTrust.DistinguishedName

namespace WifiTrust

open DistinguishedName

/-- A text without the characters that have a meaning in a written name. -/
def IsKey (cs : List Char) : Prop := ∀ c ∈ cs, c ≠ '=' ∧ ¬(c = ',' ∨ c = '+') ∧ c ≠ '\\'

instance (cs : List Char) : Decidable (IsKey cs) :=
  List.decidableBAll (fun c => c ≠ '=' ∧ ¬(c = ',' ∨ c = '+') ∧ c ≠ '\\') cs

namespace IsKey

theorem append {cs ds : List Char} (hcs : IsKey cs) (hds : IsKey ds) : IsKey (cs ++ ds) :=
  List.forall_mem_append.2 ⟨hcs, hds⟩

theorem intercalate {sep : List Char} (hsep : IsKey sep) {ss : List (List Char)}
    (hss : ∀ s ∈ ss, IsKey s) : IsKey (sep.intercalate ss) := forall_mem_intercalate hsep hss

theorem plain {cs : List Char} (h : IsKey cs) : Plain cs := fun c hc => (h c hc).2

theorem not_mem {cs : List Char} (h : IsKey cs) : '=' ∉ cs := fun hc => (h _ hc).1 rfl

end IsKey

end WifiTrust
