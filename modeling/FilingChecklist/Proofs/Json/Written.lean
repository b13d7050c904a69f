import FilingChecklist.Json.Token
import FilingChecklist.Json.Writer
import FilingChecklist.Proofs.Decimal.Written

/-!
The text of a value determines the value. A value's text tells where it ends, given only that no
number goes on after it, so what stands after a value can be told apart from the value, item by item
and field by field.
-/

namespace FilingChecklist.Json

open Decimal (isNumeric)

/-- How a character stands between quotes: as it is, behind a backslash as a letter, or by its two
last hexadecimal digits. -/
inductive Escape (c : Char) : List Char → Prop
  | plain (hquote : c ≠ '\x22') (hbackslash : c ≠ '\\') : Escape c [c]
  | letter {name : Char} (h : Token.shortEscape? name = some c) : Escape c ['\\', name]
  | code {high low : Char} (hhigh : Text.hexDigit? high = some (c.toNat / 16))
      (hlow : Text.hexDigit? low = some (c.toNat % 16)) : Escape c ['\\', 'u', '0', '0', high, low]

theorem hexDigit?_hexDigit {n : Nat} (h : n < 16) : Text.hexDigit? (Text.hexDigit n) = some n := by
  decide +revert

theorem escape_form (c : Char) : Escape c (escape c) := by
  simp only [escape, beq_iff_eq]
  split_ifs with hquote hbackslash h h h h h hcontrol
  rotate_right 2
  · exact .code (hexDigit?_hexDigit (by omega)) (hexDigit?_hexDigit (Nat.mod_lt _ (by decide)))
  · exact .plain hquote hbackslash
  all_goals
    subst_vars
    exact .letter rfl

theorem Escape.append_inj {c d : Char} {cs ds rest rest' : List Char} (hc : Escape c cs)
    (hd : Escape d ds) (h : cs ++ rest = ds ++ rest') : c = d ∧ rest = rest' := by
  have hcode : Token.shortEscape? 'u' = none := by decide
  cases hc with
  | plain _ hbackslash =>
      cases hd with
      | plain _ _ => simpa using h
      | letter _ => exact absurd (List.head_eq_of_cons_eq h) hbackslash
      | code _ _ => exact absurd (List.head_eq_of_cons_eq h) hbackslash
  | letter hc =>
      cases hd with
      | plain _ hbackslash => exact absurd (List.head_eq_of_cons_eq h).symm hbackslash
      | letter hd =>
          simp only [List.cons_append, List.nil_append, List.cons.injEq, true_and] at h
          obtain ⟨rfl, hrest⟩ := h
          exact ⟨Option.some.inj (hc.symm.trans hd), hrest⟩
      | code _ _ =>
          simp only [List.cons_append, List.cons.injEq, true_and] at h
          rw [h.1, hcode] at hc
          cases hc
  | code hhigh hlow =>
      cases hd with
      | plain _ hbackslash => exact absurd (List.head_eq_of_cons_eq h).symm hbackslash
      | letter hd =>
          simp only [List.cons_append, List.cons.injEq, true_and] at h
          rw [← h.1, hcode] at hd
          cases hd
      | code hhigh' hlow' =>
          simp only [List.cons_append, List.nil_append, List.cons.injEq, true_and] at h
          obtain ⟨rfl, rfl, hrest⟩ := h
          have hupper := Option.some.inj (hhigh.symm.trans hhigh')
          have hlower := Option.some.inj (hlow.symm.trans hlow')
          exact ⟨Char.toNat_inj.mp (by omega), hrest⟩

theorem Escape.head_ne_quote {c : Char} {cs rest rest' : List Char} (hc : Escape c cs) :
    cs ++ rest ≠ '\x22' :: rest' := by
  cases hc with
  | plain hquote _ => simp [hquote]
  | letter _ => simp
  | code _ _ => simp

theorem escapes_append_inj {s t rest rest' : List Char}
    (h : s.flatMap escape ++ '\x22' :: rest = t.flatMap escape ++ '\x22' :: rest') :
    s = t ∧ rest = rest' := by
  induction s generalizing t with
  | nil =>
      cases t with
      | nil => exact ⟨rfl, List.tail_eq_of_cons_eq h⟩
      | cons d t =>
          rw [List.flatMap_cons, List.append_assoc] at h
          exact absurd h.symm (escape_form d).head_ne_quote
  | cons c s ih =>
      rw [List.flatMap_cons, List.append_assoc] at h
      cases t with
      | nil => exact absurd h (escape_form c).head_ne_quote
      | cons d t =>
          rw [List.flatMap_cons, List.append_assoc] at h
          obtain ⟨rfl, htail⟩ := (escape_form c).append_inj (escape_form d) h
          obtain ⟨rfl, hrest⟩ := ih htail
          exact ⟨rfl, hrest⟩

theorem quote_append_inj {s t : String} {rest rest' : List Char}
    (h : (quote s).toList ++ rest = (quote t).toList ++ rest') : s = t ∧ rest = rest' := by
  simp only [quote, String.toList_ofList, List.cons_append, List.append_assoc, List.nil_append,
    List.cons.injEq, true_and] at h
  obtain ⟨htext, hrest⟩ := escapes_append_inj h
  exact ⟨String.toList_inj.mp htext, hrest⟩

/-- No number goes on at the start of the text. -/
def Stops (rest : List Char) : Prop :=
  ∀ c ∈ rest.head?, isNumeric c = false

/-- Neither a number nor a list of items goes on at the start of the text. -/
def Ends (rest : List Char) : Prop :=
  ∀ c ∈ rest.head?, isNumeric c = false ∧ c ≠ ','

theorem Ends.stops {rest : List Char} (h : Ends rest) : Stops rest :=
  fun c hc => (h c hc).1

theorem Ends.ne_comma {rest rest' : List Char} (h : Ends rest) : rest ≠ ',' :: rest' := by
  rintro rfl
  exact (h ',' rfl).2 rfl

theorem stops_comma {rest : List Char} : Stops (',' :: rest) := by
  simp [Stops]
  decide

theorem Number.text_append_inj {m n : Number} {rest rest' : List Char} (hrest : Stops rest)
    (hrest' : Stops rest') (h : m.text.toList ++ rest = n.text.toList ++ rest') :
    m = n ∧ rest = rest' := by
  have hspan {n : Number} {rest : List Char} (hrest : Stops rest) :
      (n.text.toList ++ rest).takeWhile isNumeric = n.text.toList := by
    rw [List.takeWhile_append_of_pos n.text_isNumeric]
    cases rest with
    | nil => simp
    | cons c rest => simp [hrest c rfl]
  have htext : m.text.toList = n.text.toList := by
    rw [← hspan hrest, h, hspan hrest']
  rw [htext] at h
  exact ⟨text_injective (String.toList_inj.mp htext), List.append_cancel_left h⟩

/-- The character that the text of a value starts with, unless the value is a number. -/
def opener? : Json → Option Char
  | .null => some 'n'
  | .bool true => some 't'
  | .bool false => some 'f'
  | .number _ => none
  | .string _ => some '\x22'
  | .array _ => some '['
  | .object _ => some '\x7b'

/-- Values of one kind: both null, one truth value, or both numbers, texts, arrays or objects. -/
inductive SameKind : Json → Json → Prop
  | null : SameKind .null .null
  | bool (b : Bool) : SameKind (.bool b) (.bool b)
  | number (m n : Number) : SameKind (.number m) (.number n)
  | string (s t : String) : SameKind (.string s) (.string t)
  | array (items others : List Json) : SameKind (.array items) (.array others)
  | object (fields others : List (String × Json)) : SameKind (.object fields) (.object others)

theorem sameKind_of_opener?_eq {v w : Json} (h : opener? v = opener? w) : SameKind v w := by
  rcases v with _ | ⟨_ | _⟩ | _ | _ | _ | _ <;> rcases w with _ | ⟨_ | _⟩ | _ | _ | _ | _ <;>
    first | constructor | simp [opener?] at h

theorem opener?_ne_bracket (v : Json) : opener? v ≠ some ']' := by
  rcases v with _ | ⟨_ | _⟩ | _ | _ | _ | _ <;> simp [opener?]

variable {layout : Layout} {depth : Nat}

theorem head?_write_append (layout : Layout) (depth : Nat) (v : Json) (rest : List Char) :
    ∃ c, ((write layout depth v).toList ++ rest).head? = some c ∧
      opener? v = if isNumeric c then none else some c := by
  rcases v with _ | b | n | s | items | fields
  · exact ⟨'n', by simp [write], by decide⟩
  · cases b with
    | false => exact ⟨'f', by simp [write], by decide⟩
    | true => exact ⟨'t', by simp [write], by decide⟩
  · obtain ⟨c, cs, htext⟩ :=
      List.exists_cons_of_ne_nil (mt String.toList_eq_nil_iff.mp n.text_ne_empty)
    have hc : isNumeric c = true := n.text_isNumeric c (by rw [htext]; exact .head _)
    exact ⟨c, by rw [write, htext]; rfl, by rw [hc]; rfl⟩
  · exact ⟨'\x22', by simp [write, quote], rfl⟩
  · refine ⟨'[', ?_, rfl⟩
    cases items <;> simp [write]
  · refine ⟨'\x7b', ?_, rfl⟩
    rcases fields with _ | ⟨⟨name, v⟩, fields⟩ <;> simp [write]

theorem sameKind_of_write {v w : Json} {rest rest' : List Char}
    (h : (write layout depth v).toList ++ rest = (write layout depth w).toList ++ rest') :
    SameKind v w := by
  obtain ⟨c, hc, hv⟩ := head?_write_append layout depth v rest
  obtain ⟨d, hd, hw⟩ := head?_write_append layout depth w rest'
  rw [h, hd] at hc
  obtain rfl := Option.some.inj hc
  exact sameKind_of_opener?_eq (hv.trans hw.symm)

theorem gap_append_cons {c : Char} {rest rest' : List Char}
    (h : (layout.gap depth).toList ++ rest = c :: rest') : c = '\n' ∨ rest = c :: rest' := by
  cases layout with
  | compact => exact .inr (by simpa [Layout.gap] using h)
  | indented =>
      rw [Layout.gap, String.toList_ofList] at h
      exact .inl (List.head_eq_of_cons_eq h).symm

theorem ends_gap {close : Char} (hnumeric : isNumeric close = false) (hcomma : close ≠ ',')
    (rest : List Char) : Ends ((layout.gap depth).toList ++ close :: rest) := by
  intro c hc
  obtain ⟨rest', htext⟩ := List.head?_eq_some_iff.mp hc
  rcases gap_append_cons htext with rfl | hclose
  · decide
  · obtain rfl := List.head_eq_of_cons_eq hclose
    exact ⟨hnumeric, hcomma⟩

theorem gap_write_ne_bracket {v : Json} {rest rest' : List Char} :
    (layout.gap depth).toList ++ ((write layout depth v).toList ++ rest) ≠ ']' :: rest' := by
  intro h
  rcases gap_append_cons h with hline | h
  · cases hline
  · obtain ⟨c, hc, hv⟩ := head?_write_append layout depth v rest
    rw [h] at hc
    obtain rfl := Option.some.inj hc
    exact opener?_ne_bracket v hv

theorem gap_quote_ne_brace {name : String} {rest rest' : List Char} :
    (layout.gap depth).toList ++ ((quote name).toList ++ rest) ≠ '\x7d' :: rest' := by
  intro h
  rcases gap_append_cons h with hline | h
  · cases hline
  · rw [quote, String.toList_ofList] at h
    cases List.head_eq_of_cons_eq h

theorem write_array_nil (rest : List Char) :
    (write layout depth (.array [])).toList ++ rest = '[' :: ']' :: rest := by
  simp [write]

theorem write_object_nil (rest : List Char) :
    (write layout depth (.object [])).toList ++ rest = '\x7b' :: '\x7d' :: rest := by
  simp [write]

theorem write_array_cons (item : Json) (items : List Json) (rest : List Char) :
    (write layout depth (.array (item :: items))).toList ++ rest =
      '[' :: ((layout.gap (depth + 1)).toList ++ ((write layout (depth + 1) item).toList ++
        ((writeItems layout depth items).toList ++
          ((layout.gap depth).toList ++ ']' :: rest)))) := by
  simp [write]

theorem write_object_cons (name : String) (v : Json) (fields : List (String × Json))
    (rest : List Char) :
    (write layout depth (.object ((name, v) :: fields))).toList ++ rest =
      '\x7b' :: ((layout.gap (depth + 1)).toList ++ ((quote name).toList ++ (layout.colon.toList ++
        ((write layout (depth + 1) v).toList ++ ((writeFields layout depth fields).toList ++
          ((layout.gap depth).toList ++ '\x7d' :: rest)))))) := by
  simp [write]

theorem writeItems_cons (item : Json) (items : List Json) (rest : List Char) :
    (writeItems layout depth (item :: items)).toList ++ rest =
      ',' :: ((layout.gap (depth + 1)).toList ++ ((write layout (depth + 1) item).toList ++
        ((writeItems layout depth items).toList ++ rest))) := by
  simp [writeItems]

theorem writeFields_cons (name : String) (v : Json) (fields : List (String × Json))
    (rest : List Char) :
    (writeFields layout depth ((name, v) :: fields)).toList ++ rest =
      ',' :: ((layout.gap (depth + 1)).toList ++ ((quote name).toList ++ (layout.colon.toList ++
        ((write layout (depth + 1) v).toList ++
          ((writeFields layout depth fields).toList ++ rest))))) := by
  simp [writeFields]

theorem stops_writeItems (items : List Json) {rest : List Char} (h : Ends rest) :
    Stops ((writeItems layout depth items).toList ++ rest) := by
  cases items with
  | nil => exact h.stops
  | cons item items =>
      rw [writeItems_cons]
      exact stops_comma

theorem stops_writeFields (fields : List (String × Json)) {rest : List Char} (h : Ends rest) :
    Stops ((writeFields layout depth fields).toList ++ rest) := by
  rcases fields with _ | ⟨⟨name, v⟩, fields⟩
  · exact h.stops
  · rw [writeFields_cons]
    exact stops_comma

theorem ends_array (rest : List Char) : Ends ((layout.gap depth).toList ++ ']' :: rest) :=
  ends_gap (by decide) (by decide) rest

theorem ends_object (rest : List Char) : Ends ((layout.gap depth).toList ++ '\x7d' :: rest) :=
  ends_gap (by decide) (by decide) rest

mutual

/-- The text of a value tells where it ends. -/
theorem write_append_inj (layout : Layout) (depth : Nat) :
    (v w : Json) → ∀ {rest rest' : List Char}, Stops rest → Stops rest' →
      (write layout depth v).toList ++ rest = (write layout depth w).toList ++ rest' →
        v = w ∧ rest = rest'
  | .null, w => by
      intro _ _ h
      cases sameKind_of_write h
      exact ⟨rfl, List.append_cancel_left h⟩
  | .bool b, w => by
      intro _ _ h
      cases sameKind_of_write h
      exact ⟨rfl, List.append_cancel_left h⟩
  | .number m, w => by
      intro hrest hrest' h
      cases sameKind_of_write h
      rw [write, write] at h
      obtain ⟨rfl, hrest⟩ := Number.text_append_inj hrest hrest' h
      exact ⟨rfl, hrest⟩
  | .string s, w => by
      intro _ _ h
      cases sameKind_of_write h
      rw [write, write] at h
      obtain ⟨rfl, hrest⟩ := quote_append_inj h
      exact ⟨rfl, hrest⟩
  | .array [], w => by
      intro _ _ h
      cases sameKind_of_write h with
      | array _ others =>
          cases others with
          | nil => exact ⟨rfl, List.append_cancel_left h⟩
          | cons other others =>
              rw [write_array_nil, write_array_cons] at h
              exact absurd (List.tail_eq_of_cons_eq h).symm gap_write_ne_bracket
  | .array (item :: items), w => by
      intro _ _ h
      cases sameKind_of_write h with
      | array _ others =>
          cases others with
          | nil =>
              rw [write_array_nil, write_array_cons] at h
              exact absurd (List.tail_eq_of_cons_eq h) gap_write_ne_bracket
          | cons other others =>
              rw [write_array_cons, write_array_cons] at h
              obtain ⟨rfl, hitems⟩ := write_append_inj layout (depth + 1) item other
                (stops_writeItems items (ends_array _))
                (stops_writeItems others (ends_array _))
                (List.append_cancel_left (List.tail_eq_of_cons_eq h))
              obtain ⟨rfl, hclose⟩ := writeItems_append_inj layout depth items others
                (ends_array _) (ends_array _) hitems
              exact ⟨rfl, List.tail_eq_of_cons_eq (List.append_cancel_left hclose)⟩
  | .object [], w => by
      intro _ _ h
      cases sameKind_of_write h with
      | object _ others =>
          rcases others with _ | ⟨⟨other, w⟩, others⟩
          · exact ⟨rfl, List.append_cancel_left h⟩
          · rw [write_object_nil, write_object_cons] at h
            exact absurd (List.tail_eq_of_cons_eq h).symm gap_quote_ne_brace
  | .object ((name, v) :: fields), w => by
      intro _ _ h
      cases sameKind_of_write h with
      | object _ others =>
          rcases others with _ | ⟨⟨other, w⟩, others⟩
          · rw [write_object_nil, write_object_cons] at h
            exact absurd (List.tail_eq_of_cons_eq h) gap_quote_ne_brace
          · rw [write_object_cons, write_object_cons] at h
            obtain ⟨rfl, hvalue⟩ :=
              quote_append_inj (List.append_cancel_left (List.tail_eq_of_cons_eq h))
            obtain ⟨rfl, hfields⟩ := write_append_inj layout (depth + 1) v w
              (stops_writeFields fields (ends_object _))
              (stops_writeFields others (ends_object _)) (List.append_cancel_left hvalue)
            obtain ⟨rfl, hclose⟩ := writeFields_append_inj layout depth fields others
              (ends_object _) (ends_object _) hfields
            exact ⟨rfl, List.tail_eq_of_cons_eq (List.append_cancel_left hclose)⟩

theorem writeItems_append_inj (layout : Layout) (depth : Nat) :
    (items others : List Json) → ∀ {rest rest' : List Char}, Ends rest → Ends rest' →
      (writeItems layout depth items).toList ++ rest =
        (writeItems layout depth others).toList ++ rest' → items = others ∧ rest = rest'
  | [], [] => fun _ _ h => ⟨rfl, h⟩
  | [], other :: others => by
      intro hrest _ h
      rw [writeItems_cons] at h
      exact absurd h hrest.ne_comma
  | item :: items, [] => by
      intro _ hrest' h
      rw [writeItems_cons] at h
      exact absurd h.symm hrest'.ne_comma
  | item :: items, other :: others => by
      intro hrest hrest' h
      rw [writeItems_cons, writeItems_cons] at h
      obtain ⟨rfl, hitems⟩ := write_append_inj layout (depth + 1) item other
        (stops_writeItems items hrest) (stops_writeItems others hrest')
        (List.append_cancel_left (List.tail_eq_of_cons_eq h))
      obtain ⟨rfl, hrest⟩ := writeItems_append_inj layout depth items others hrest hrest' hitems
      exact ⟨rfl, hrest⟩

theorem writeFields_append_inj (layout : Layout) (depth : Nat) :
    (fields others : List (String × Json)) → ∀ {rest rest' : List Char}, Ends rest → Ends rest' →
      (writeFields layout depth fields).toList ++ rest =
        (writeFields layout depth others).toList ++ rest' → fields = others ∧ rest = rest'
  | [], [] => fun _ _ h => ⟨rfl, h⟩
  | [], (other, w) :: others => by
      intro hrest _ h
      rw [writeFields_cons] at h
      exact absurd h hrest.ne_comma
  | (name, v) :: fields, [] => by
      intro _ hrest' h
      rw [writeFields_cons] at h
      exact absurd h.symm hrest'.ne_comma
  | (name, v) :: fields, (other, w) :: others => by
      intro hrest hrest' h
      rw [writeFields_cons, writeFields_cons] at h
      obtain ⟨rfl, hvalue⟩ :=
        quote_append_inj (List.append_cancel_left (List.tail_eq_of_cons_eq h))
      obtain ⟨rfl, hfields⟩ := write_append_inj layout (depth + 1) v w
        (stops_writeFields fields hrest) (stops_writeFields others hrest')
        (List.append_cancel_left hvalue)
      obtain ⟨rfl, hrest⟩ := writeFields_append_inj layout depth fields others hrest hrest' hfields
      exact ⟨rfl, hrest⟩

end

theorem write_injective (layout : Layout) (depth : Nat) :
    Function.Injective (write layout depth) := by
  intro v w h
  have hend : Stops [] := fun c hc => absurd hc (by simp)
  have hchars : (write layout depth v).toList ++ [] = (write layout depth w).toList ++ [] := by
    rw [h]
  exact (write_append_inj layout depth v w hend hend hchars).1

end FilingChecklist.Json
