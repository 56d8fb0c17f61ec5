import WifiTrust.Json.Printer
import WifiTrust.Json.Reader
import WifiTrust.Proofs.Json.Literal
import WifiTrust.Proofs.Json.Number

/-!
# Written values are read back

The texts of a value differ in the blanks between their tokens only, and the reader takes each of
them for that value. The indented text is one of them, and the text on one line is another.
-/

namespace WifiTrust.Json

/-- A value whose numbers are numerals of integers and whose literals are written texts. -/
inductive Plain : Json → Prop
  | null : Plain .null
  | bool (b : Bool) : Plain (.bool b)
  | integer (i : Int) : Plain (.number (Decimal.ofInt i))
  | text (cs : List Char) : Plain (.string (Literal.encode cs))
  | array {items : List Json} (plain : ∀ j ∈ items, Plain j) : Plain (.array items)
  | object {members : List (List Char × Json)}
      (keys : ∀ m ∈ members, ∃ cs, m.1 = Literal.encode cs) (plain : ∀ m ∈ members, Plain m.2) :
      Plain (.object members)

def Spaces (ws : List Char) : Prop := ∀ c ∈ ws, isSpace c = true

theorem skip_of_head {c : Char} (h : isSpace c = false) (cs : List Char) :
    skip (c :: cs) = c :: cs := List.dropWhile_cons_of_neg (by simp [h])

theorem skip_append {ws : List Char} (h : Spaces ws) (cs : List Char) :
    skip (ws ++ cs) = skip cs := List.dropWhile_append_of_pos h

theorem skip_to_head {ws : List Char} (h : Spaces ws) {c : Char} (hc : isSpace c = false)
    (cs : List Char) : skip (ws ++ c :: cs) = c :: cs := by
  rw [skip_append h, skip_of_head hc]

inductive Part where
  | value (j : Json)
  | items (js : List Json)
  | members (ms : List (List Char × Json))

/-- The texts of a part. Blanks may stand in front of items, members and values of members, and in
front of closing brackets. -/
inductive Layout : Part → List Char → Prop
  | null : Layout (.value .null) ['n', 'u', 'l', 'l']
  | yes : Layout (.value (.bool true)) ['t', 'r', 'u', 'e']
  | no : Layout (.value (.bool false)) ['f', 'a', 'l', 's', 'e']
  | number (i : Int) : Layout (.value (.number (Decimal.ofInt i))) (Decimal.ofInt i)
  | string (cs : List Char) :
      Layout (.value (.string (Literal.encode cs))) (quoted (Literal.encode cs))
  | noItems : Layout (.value (.array [])) ['[', ']']
  | array {js : List Json} {cs ws : List Char} (items : Layout (.items js) cs)
      (spaces : Spaces ws) : Layout (.value (.array js)) ('[' :: (cs ++ (ws ++ [']'])))
  | noMembers : Layout (.value (.object [])) ['\x7b', '\x7d']
  | object {ms : List (List Char × Json)} {cs ws : List Char} (members : Layout (.members ms) cs)
      (spaces : Spaces ws) : Layout (.value (.object ms)) ('\x7b' :: (cs ++ (ws ++ ['\x7d'])))
  | item {j : Json} {ws cs : List Char} (spaces : Spaces ws) (first : Layout (.value j) cs) :
      Layout (.items [j]) (ws ++ cs)
  | items {j : Json} {js : List Json} {ws cs cs' : List Char} (spaces : Spaces ws)
      (first : Layout (.value j) cs) (others : Layout (.items js) cs') :
      Layout (.items (j :: js)) (ws ++ (cs ++ ',' :: cs'))
  | member {key : List Char} {j : Json} {ws gap cs : List Char} (spaces : Spaces ws)
      (spaces' : Spaces gap) (first : Layout (.value j) cs) :
      Layout (.members [(Literal.encode key, j)])
        (ws ++ (quoted (Literal.encode key) ++ ':' :: (gap ++ cs)))
  | members {key : List Char} {j : Json} {ms : List (List Char × Json)} {ws gap cs cs' : List Char}
      (spaces : Spaces ws) (spaces' : Spaces gap) (first : Layout (.value j) cs)
      (others : Layout (.members ms) cs') :
      Layout (.members ((Literal.encode key, j) :: ms))
        (ws ++ (quoted (Literal.encode key) ++ ':' :: (gap ++ (cs ++ ',' :: cs'))))

theorem Layout.head {j : Json} {cs : List Char} (h : Layout (.value j) cs) :
    ∃ c tail, cs = c :: tail ∧ isSpace c = false ∧ c ≠ ']' := by
  cases h with
  | number i =>
      obtain ⟨c, tail, hcs, hc⟩ := Decimal.exists_cons_ofInt i
      have hspace : isSpace c = false := by
        simp [isSpace, hc ' ' (by decide) (by decide), hc '\n' (by decide) (by decide),
          hc '\t' (by decide) (by decide), hc '\r' (by decide) (by decide)]
      exact ⟨c, tail, hcs, hspace, hc ']' (by decide) (by decide)⟩
  | null | yes | no | string | noItems | array | noMembers | object =>
      exact ⟨_, _, rfl, by decide, by decide⟩

theorem Layout.skip_value {j : Json} {cs : List Char} (h : Layout (.value j) cs) {ws : List Char}
    (spaces : Spaces ws) (rest : List Char) : skip (ws ++ (cs ++ rest)) = cs ++ rest := by
  obtain ⟨c, tail, rfl, hc, -⟩ := h.head
  exact skip_to_head spaces hc (tail ++ rest)

theorem Layout.items_head {js : List Json} {cs : List Char} (h : Layout (.items js) cs)
    (rest : List Char) :
    ∃ c tail, skip (cs ++ rest) = c :: tail ∧ isSpace c = false ∧ c ≠ ']' := by
  have hfirst {j : Json} {ws cs : List Char} (spaces : Spaces ws) (first : Layout (.value j) cs)
      (rest : List Char) :
      ∃ c tail, skip (ws ++ (cs ++ rest)) = c :: tail ∧ isSpace c = false ∧ c ≠ ']' := by
    obtain ⟨c, tail, rfl, hc, hbracket⟩ := first.head
    exact ⟨c, tail ++ rest, skip_to_head spaces hc _, hc, hbracket⟩
  cases h with
  | item spaces first =>
      rw [List.append_assoc]
      exact hfirst spaces first rest
  | items spaces first =>
      rw [List.append_assoc, List.append_assoc]
      exact hfirst spaces first _

theorem Layout.members_head {ms : List (List Char × Json)} {cs : List Char}
    (h : Layout (.members ms) cs) (rest : List Char) : ∃ tail, skip (cs ++ rest) = '"' :: tail := by
  cases h with
  | member spaces =>
      rw [List.append_assoc]
      exact ⟨_, skip_to_head spaces (by decide) _⟩
  | members spaces =>
      rw [List.append_assoc]
      exact ⟨_, skip_to_head spaces (by decide) _⟩

theorem stops_cons {c : Char} (h : Decimal.isDigit c = false ∧ c ≠ '.' ∧ c ≠ 'e' ∧ c ≠ 'E')
    (rest : List Char) : Stops (c :: rest) := by
  rintro _ ⟨⟩
  exact h

theorem stops_append {ws rest : List Char} (spaces : Spaces ws) (stops : Stops rest) :
    Stops (ws ++ rest) := by
  cases ws with
  | nil => exact stops
  | cons c ws =>
      have hc : isSpace c = true := spaces c List.mem_cons_self
      simp only [isSpace, Bool.or_eq_true, beq_iff_eq] at hc
      rcases hc with ((rfl | rfl) | rfl) | rfl
      · exact stops_cons (by decide) _
      · exact stops_cons (by decide) _
      · exact stops_cons (by decide) _
      · exact stops_cons (by decide) _

section Productions

variable {text rest : List Char} (fuel : Nat)

theorem value_of_number (i : Int) (htext : skip text = Decimal.ofInt i ++ rest)
    (stops : Stops rest) :
    value (fuel + 1) text = some (.number (Decimal.ofInt i), rest) := by
  have hspelling := numberSpelling_ofInt stops i
  obtain ⟨c, cs, hcs, hc⟩ := Decimal.exists_cons_ofInt i
  have hhead {d : Char} {later : List Char} (heq : c :: (cs ++ rest) = d :: later) : c = d :=
    (List.cons.inj heq).1
  rw [value, htext]
  rw [hcs, List.cons_append] at hspelling ⊢
  split
  · next heq => exact absurd (hhead heq) (hc 'n' (by decide) (by decide))
  · next heq => exact absurd (hhead heq) (hc 't' (by decide) (by decide))
  · next heq => exact absurd (hhead heq) (hc 'f' (by decide) (by decide))
  · next heq => exact absurd (hhead heq) (hc '"' (by decide) (by decide))
  · next heq => exact absurd (hhead heq) (hc '[' (by decide) (by decide))
  · next heq => exact absurd (hhead heq) (hc '\x7b' (by decide) (by decide))
  · rw [hspelling]
    rfl

theorem quoted_append (literal rest : List Char) :
    quoted literal ++ rest = '"' :: (literal ++ '"' :: rest) := by
  rw [quoted, List.append_assoc]
  rfl

theorem skip_quoted (literal rest : List Char) :
    skip (quoted literal ++ rest) = quoted literal ++ rest := by
  rw [quoted_append]
  exact skip_of_head (by decide) _

theorem value_of_string (cs : List Char) (htext : skip text = quoted (Literal.encode cs) ++ rest) :
    value (fuel + 1) text = some (.string (Literal.encode cs), rest) := by
  rw [value, htext, quoted_append]
  exact congrArg (Option.map _) (Literal.literal_encode cs rest)

variable {inside tail : List Char} {c : Char}

theorem value_of_items {js : List Json} (htext : skip text = '[' :: inside)
    (hinside : skip inside = c :: tail) (hbracket : c ≠ ']')
    (hitems : items fuel (c :: tail) = some (js, rest)) :
    value (fuel + 1) text = some (.array js, rest) := by
  rw [value, htext]
  simp only [hinside]
  split
  · next heq => exact absurd (List.cons.inj heq).1 hbracket
  · rw [hitems]
    rfl

theorem value_of_members {ms : List (List Char × Json)} (htext : skip text = '\x7b' :: inside)
    (hinside : skip inside = c :: tail) (hbrace : c ≠ '\x7d')
    (hmembers : members fuel (c :: tail) = some (ms, rest)) :
    value (fuel + 1) text = some (.object ms, rest) := by
  rw [value, htext]
  simp only [hinside]
  split
  · next heq => exact absurd (List.cons.inj heq).1 hbrace
  · rw [hmembers]
    rfl

variable {key after later : List Char} {j : Json}

theorem members_of_last (htext : skip text = quoted (Literal.encode key) ++ ':' :: after)
    (hvalue : value fuel after = some (j, later)) (hlater : skip later = '\x7d' :: rest) :
    members (fuel + 1) text = some ([(Literal.encode key, j)], rest) := by
  have hcolon : skip (':' :: after) = ':' :: after := skip_of_head (by decide) after
  rw [members, htext, quoted_append]
  simp only [Literal.literal_encode, hcolon, hvalue, hlater]

theorem members_of_first {ms : List (List Char × Json)}
    (htext : skip text = quoted (Literal.encode key) ++ ':' :: after)
    (hvalue : value fuel after = some (j, later)) (hlater : skip later = ',' :: tail)
    (hmembers : members fuel tail = some (ms, rest)) :
    members (fuel + 1) text = some ((Literal.encode key, j) :: ms, rest) := by
  have hcolon : skip (':' :: after) = ':' :: after := skip_of_head (by decide) after
  rw [members, htext, quoted_append]
  simp only [Literal.literal_encode, hcolon, hvalue, hlater, hmembers, Option.map_some]

end Productions

/-- What a part is read as. The fuel is bounded by the length of the text. -/
def Read : Part → List Char → Prop
  | .value j, cs => ∀ fuel text rest, skip text = cs ++ rest → Stops rest → cs.length < fuel →
      value fuel text = some (j, rest)
  | .items js, cs => ∀ fuel text ws rest, Spaces ws → skip text = skip (cs ++ (ws ++ ']' :: rest)) →
      cs.length + 1 < fuel → items fuel text = some (js, rest)
  | .members ms, cs => ∀ fuel text ws rest, Spaces ws →
      skip text = skip (cs ++ (ws ++ '\x7d' :: rest)) → cs.length + 1 < fuel →
      members fuel text = some (ms, rest)

theorem Layout.read {part : Part} {cs : List Char} (h : Layout part cs) : Read part cs := by
  have hbracket (rest : List Char) : Stops (']' :: rest) := stops_cons (by decide) rest
  have hbrace (rest : List Char) : Stops ('\x7d' :: rest) := stops_cons (by decide) rest
  have hcomma (rest : List Char) : Stops (',' :: rest) := stops_cons (by decide) rest
  induction h with
  | null | yes | no | noItems | noMembers =>
      rintro (_ | fuel) text rest htext _ hfuel
      · exact absurd hfuel (Nat.not_lt_zero _)
      · rw [value, htext]
        rfl
  | number i =>
      rintro (_ | fuel) text rest htext stops hfuel
      · exact absurd hfuel (Nat.not_lt_zero _)
      · exact value_of_number fuel i htext stops
  | string cs =>
      rintro (_ | fuel) text rest htext _ hfuel
      · exact absurd hfuel (Nat.not_lt_zero _)
      · exact value_of_string fuel cs htext
  | @array js cs ws items spaces ih =>
      rintro (_ | fuel) text rest htext _ hfuel
      · exact absurd hfuel (Nat.not_lt_zero _)
      · obtain ⟨c, tail, hhead, hc, hopen⟩ := items.items_head (ws ++ ']' :: rest)
        have hlength : cs.length + 1 < fuel := by
          simp only [List.length_cons, List.length_append, List.length_nil] at hfuel
          omega
        have hitems : Json.items fuel (c :: tail) = some (js, rest) := by
          apply ih fuel _ ws rest spaces _ hlength
          rw [hhead, skip_of_head hc]
        apply value_of_items fuel _ hhead hopen hitems
        rw [htext, List.cons_append, List.append_assoc, List.append_assoc]
        rfl
  | @object ms cs ws members spaces ih =>
      rintro (_ | fuel) text rest htext _ hfuel
      · exact absurd hfuel (Nat.not_lt_zero _)
      · obtain ⟨tail, hhead⟩ := members.members_head (ws ++ '\x7d' :: rest)
        have hlength : cs.length + 1 < fuel := by
          simp only [List.length_cons, List.length_append, List.length_nil] at hfuel
          omega
        have hmembers : Json.members fuel ('"' :: tail) = some (ms, rest) := by
          apply ih fuel _ ws rest spaces _ hlength
          rw [hhead]
          exact skip_of_head (by decide) tail
        apply value_of_members fuel _ hhead (by decide) hmembers
        rw [htext, List.cons_append, List.append_assoc, List.append_assoc]
        rfl
  | @item j ws' cs spaces' first ih =>
      rintro (_ | fuel) text ws rest spaces htext hfuel
      · exact absurd hfuel (Nat.not_lt_zero _)
      · have hlength : cs.length < fuel := by
          rw [List.length_append] at hfuel
          omega
        have hvalue : value fuel text = some (j, ws ++ ']' :: rest) := by
          apply ih fuel text _ _ (stops_append spaces (hbracket rest)) hlength
          rw [htext, List.append_assoc, first.skip_value spaces']
        have hclose : skip (ws ++ ']' :: rest) = ']' :: rest :=
          skip_to_head spaces (by decide) rest
        rw [Json.items, hvalue]
        simp only [hclose]
  | @items j js ws' cs cs' spaces' first _ ih ihs =>
      rintro (_ | fuel) text ws rest spaces htext hfuel
      · exact absurd hfuel (Nat.not_lt_zero _)
      · have hlength : cs.length < fuel ∧ cs'.length + 1 < fuel := by
          simp only [List.length_append, List.length_cons] at hfuel
          omega
        have hvalue : value fuel text = some (j, ',' :: (cs' ++ (ws ++ ']' :: rest))) := by
          apply ih fuel text _ _ (hcomma _) hlength.1
          rw [htext, List.append_assoc, List.append_assoc, first.skip_value spaces']
          rfl
        have hitems : Json.items fuel (cs' ++ (ws ++ ']' :: rest)) = some (js, rest) :=
          ihs fuel _ ws rest spaces rfl hlength.2
        rw [Json.items, hvalue]
        simp only [skip_of_head (c := ',') (by decide), hitems, Option.map_some]
  | @member key j ws' gap cs spaces' spaces'' first ih =>
      rintro (_ | fuel) text ws rest spaces htext hfuel
      · exact absurd hfuel (Nat.not_lt_zero _)
      · have hlength : cs.length < fuel := by
          simp only [quoted, List.length_append, List.length_cons, List.length_nil] at hfuel
          omega
        have hvalue : value fuel (gap ++ (cs ++ (ws ++ '\x7d' :: rest))) =
            some (j, ws ++ '\x7d' :: rest) :=
          ih fuel _ _ (first.skip_value spaces'' _) (stops_append spaces (hbrace rest)) hlength
        have hclose : skip (ws ++ '\x7d' :: rest) = '\x7d' :: rest :=
          skip_to_head spaces (by decide) rest
        apply members_of_last fuel _ hvalue hclose
        rw [htext, List.append_assoc, skip_append spaces', List.append_assoc, skip_quoted]
        simp only [List.cons_append, List.append_assoc]
  | @members key j ms ws' gap cs cs' spaces' spaces'' first _ ih ihs =>
      rintro (_ | fuel) text ws rest spaces htext hfuel
      · exact absurd hfuel (Nat.not_lt_zero _)
      · have hlength : cs.length < fuel ∧ cs'.length + 1 < fuel := by
          simp only [quoted, List.length_append, List.length_cons, List.length_nil] at hfuel
          omega
        have hvalue : value fuel (gap ++ (cs ++ ',' :: (cs' ++ (ws ++ '\x7d' :: rest)))) =
            some (j, ',' :: (cs' ++ (ws ++ '\x7d' :: rest))) :=
          ih fuel _ _ (first.skip_value spaces'' _) (hcomma _) hlength.1
        have hmembers : Json.members fuel (cs' ++ (ws ++ '\x7d' :: rest)) = some (ms, rest) :=
          ihs fuel _ ws rest spaces rfl hlength.2
        apply members_of_first fuel _ hvalue (skip_of_head (by decide) _) hmembers
        rw [htext, List.append_assoc, skip_append spaces', List.append_assoc, skip_quoted]
        simp only [List.cons_append, List.append_assoc]

theorem parse_of_layout {j : Json} {cs : List Char} (h : Layout (.value j) cs) :
    parse (String.ofList cs) = some j := by
  have hskip : skip cs = cs ++ [] := by
    obtain ⟨c, tail, rfl, hc, -⟩ := h.head
    rw [List.append_nil]
    exact skip_of_head hc tail
  have hstops : Stops [] := by
    rintro c ⟨⟩
  have hvalue : value (cs.length + 1) cs = some (j, []) :=
    h.read (cs.length + 1) cs [] hskip hstops (Nat.lt_succ_self _)
  unfold parse
  rw [String.toList_ofList, hvalue]
  rfl

section Printed

variable {js : List Json} {ms : List (List Char × Json)} {ws gap : List Char}
  {text : Json → List Char} (spaces : Spaces ws)

include spaces

theorem layout_items {print : List Json → List Char} (last : ∀ j, print [j] = ws ++ text j)
    (first : ∀ j js, js ≠ [] → print (j :: js) = ws ++ (text j ++ ',' :: print js))
    (hne : js ≠ []) (h : ∀ j ∈ js, Layout (.value j) (text j)) :
    Layout (.items js) (print js) := by
  induction js with
  | nil => exact absurd rfl hne
  | cons j js ih =>
      obtain ⟨hfirst, hothers⟩ := List.forall_mem_cons.1 h
      cases js with
      | nil =>
          rw [last]
          exact .item spaces hfirst
      | cons j' js =>
          have hne' : j' :: js ≠ [] := List.cons_ne_nil j' js
          rw [first j _ hne']
          exact .items spaces hfirst (ih hne' hothers)

theorem layout_members {print : List (List Char × Json) → List Char} (spaces' : Spaces gap)
    (last : ∀ key j, print [(key, j)] = ws ++ (quoted key ++ ':' :: (gap ++ text j)))
    (first : ∀ key j ms, ms ≠ [] → print ((key, j) :: ms) =
      ws ++ (quoted key ++ ':' :: (gap ++ (text j ++ ',' :: print ms))))
    (hne : ms ≠ []) (keys : ∀ m ∈ ms, ∃ cs, m.1 = Literal.encode cs)
    (h : ∀ m ∈ ms, Layout (.value m.2) (text m.2)) : Layout (.members ms) (print ms) := by
  induction ms with
  | nil => exact absurd rfl hne
  | cons m ms ih =>
      obtain ⟨hfirst, hothers⟩ := List.forall_mem_cons.1 h
      obtain ⟨⟨key, hkey⟩, hkeys⟩ := List.forall_mem_cons.1 keys
      obtain ⟨name, j⟩ := m
      dsimp only at hkey hfirst
      subst hkey
      cases ms with
      | nil =>
          rw [last]
          exact .member spaces spaces' hfirst
      | cons m' ms =>
          have hne' : m' :: ms ≠ [] := List.cons_ne_nil m' ms
          rw [first _ j _ hne']
          exact .members spaces spaces' hfirst (ih hne' hkeys hothers)

end Printed

theorem spaces_nil : Spaces [] := List.forall_mem_nil _

theorem spaces_newLine (level : Nat) : Spaces (newLine level) := by
  intro c hc
  rcases List.mem_cons.1 hc with rfl | hc
  · rfl
  · rw [List.eq_of_mem_replicate hc]
    rfl

inductive Style where
  | compact
  | pretty

def write : Style → Json → String
  | .compact => compact
  | .pretty => pretty

section Layouts

variable {j : Json} (h : Plain j)

include h

theorem Plain.layout_pretty (level : Nat) : Layout (.value j) (prettyChars level j) := by
  have hgap : Spaces [' '] := by
    intro c hc
    rw [List.mem_singleton.1 hc]
    rfl
  induction h generalizing level with
  | null => exact .null
  | bool b =>
      cases b
      · exact .no
      · exact .yes
  | integer i => exact .number i
  | text cs => exact .string cs
  | @array items _ ih =>
      cases items with
      | nil => exact .noItems
      | cons j js =>
          rw [prettyChars, List.append_assoc]
          refine .array ?_ (spaces_newLine level)
          refine layout_items (spaces_newLine (level + 1)) (fun i => ?_) (fun i is hne => ?_)
            (List.cons_ne_nil j js) fun i hi => ih i hi (level + 1)
          · rw [prettyItems]
          · rw [prettyItems, List.append_assoc]
            exact hne
  | @object members keys _ ih =>
      cases members with
      | nil => exact .noMembers
      | cons m ms =>
          rw [prettyChars, List.append_assoc]
          refine .object ?_ (spaces_newLine level)
          refine layout_members (spaces_newLine (level + 1)) hgap (fun key i => ?_)
            (fun key i is hne => ?_) (List.cons_ne_nil m ms) keys fun i hi => ih i hi (level + 1)
          · rw [prettyMembers, List.append_assoc]
            rfl
          · rw [prettyMembers, List.append_assoc, List.append_assoc]
            · rfl
            · exact hne

theorem Plain.layout_compact : Layout (.value j) (compactChars j) := by
  induction h with
  | null => exact .null
  | bool b =>
      cases b
      · exact .no
      · exact .yes
  | integer i => exact .number i
  | text cs => exact .string cs
  | @array items _ ih =>
      cases items with
      | nil => exact .noItems
      | cons j js =>
          rw [compactChars]
          refine .array ?_ spaces_nil
          refine layout_items spaces_nil (fun i => ?_) (fun i is hne => ?_)
            (List.cons_ne_nil j js) ih
          · rw [compactItems, List.nil_append]
          · rw [compactItems, List.nil_append]
            exact hne
  | @object members keys _ ih =>
      cases members with
      | nil => exact .noMembers
      | cons m ms =>
          rw [compactChars]
          refine .object ?_ spaces_nil
          refine layout_members spaces_nil spaces_nil (fun key i => ?_) (fun key i is hne => ?_)
            (List.cons_ne_nil m ms) keys ih
          · rw [compactMembers]
            rfl
          · rw [compactMembers, List.append_assoc]
            · rfl
            · exact hne

/-- The text of a value in either layout is read as that value. -/
theorem Plain.parse_write (style : Style) : parse (j.write style) = some j := by
  cases style with
  | compact => exact parse_of_layout h.layout_compact
  | pretty => exact parse_of_layout (h.layout_pretty 0)

end Layouts

end WifiTrust.Json
