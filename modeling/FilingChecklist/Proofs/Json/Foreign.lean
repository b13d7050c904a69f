import FilingChecklist.Proofs.Json.Padding

/-!
Texts that are no data. In a text that reads as data, a character that is neither white space, quote
nor mark and that stands in no bare scalar stands in quotes, so there is a quote before it and one
behind it.
-/

namespace FilingChecklist.Json

namespace Token

def Scan.isQuoted : Scan → Bool
  | .quoted _ _ => true
  | _ => false

theorem isQuoted_stepBetween {c : Char} (hc : (c == '\x22') = false) (tokens : List Token) :
    (stepBetween tokens c).scan.isQuoted = false := by
  simp only [stepBetween, hc]
  split
  · rfl
  · cases mark? c <;> rfl

theorem isQuoted_of_step {p q : Progress} {c : Char} (hc : (c == '\x22') = false)
    (hp : p.scan.isQuoted = false) (h : step p c = some q) : q.scan.isQuoted = false := by
  obtain ⟨scan, tokens⟩ := p
  cases scan with
  | between =>
      cases h
      exact isQuoted_stepBetween hc tokens
  | bare seen =>
      cases hends : endsBare c with
      | true =>
          rw [step_bare_of_endsBare hends] at h
          obtain ⟨closed, -, rfl⟩ := Option.map_eq_some_iff.mp h
          exact isQuoted_stepBetween hc closed
      | false =>
          rw [step_bare hends] at h
          cases h
          rfl
  | quoted seen escaped => cases hp

theorem isQuoted_of_run {cs : List Char} (hcs : '\x22' ∉ cs) {p q : Progress}
    (hp : p.scan.isQuoted = false) (h : cs.foldlM step p = some q) :
    q.scan.isQuoted = false := by
  induction cs generalizing p with
  | nil =>
      cases h
      exact hp
  | cons c cs ih =>
      simp only [List.mem_cons, not_or] at hcs
      rw [List.foldlM_cons] at h
      obtain ⟨next, hnext, hrest⟩ := Option.bind_eq_some_iff.mp h
      exact ih hcs.2 (isQuoted_of_step (beq_eq_false_iff_ne.mpr (Ne.symm hcs.1)) hp hnext) hrest

theorem finish_of_quoted {cs : List Char} (hcs : '\x22' ∉ cs) (seen : List Char) (escaped : Bool)
    (tokens : List Token) :
    (cs.foldlM step ⟨.quoted seen escaped, tokens⟩).bind finish = none := by
  induction cs generalizing seen escaped with
  | nil => rfl
  | cons c cs ih =>
      simp only [List.mem_cons, not_or] at hcs
      obtain ⟨next, hnext⟩ :=
        step_quoted (beq_eq_false_iff_ne.mpr (Ne.symm hcs.1)) seen escaped tokens
      rw [List.foldlM_cons, hnext]
      exact ih hcs.2 (c :: seen) next

theorem ofText?_of_foreign {front back : List Char} {c : Char} (hc : IsForeign c)
    (hends : endsBare c = false) (hquote : '\x22' ∉ front ∨ '\x22' ∉ back) :
    ofText? (front ++ c :: back) = none := by
  rw [ofText?, List.foldlM_append]
  cases hp : front.foldlM step ⟨.between, []⟩ with
  | none => rfl
  | some p =>
      obtain ⟨scan, tokens⟩ := p
      rw [Option.bind_eq_bind, Option.bind_some, List.foldlM_cons]
      cases scan with
      | between =>
          rw [step_between, stepBetween_of_not_endsBare hends]
          exact finish_of_foreign back (List.mem_singleton_self c) hc tokens
      | bare seen =>
          rw [step_bare hends]
          exact finish_of_foreign back List.mem_cons_self hc tokens
      | quoted seen escaped =>
          have hback : '\x22' ∉ back := by
            rcases hquote with hfront | hback
            · have hplain := isQuoted_of_run hfront rfl hp
              cases hplain
            · exact hback
          have hne : '\x22' ∉ c :: back := by
            rw [List.mem_cons, not_or]
            refine ⟨?_, hback⟩
            rintro rfl
            cases hends
          exact finish_of_quoted hne seen escaped tokens

end Token

/-- A text does not read as data if a foreign character stands in it with no quote before it or with
no quote behind it. -/
theorem ofText?_eq_none_of_foreign {s : String} {front back : List Char} {c : Char}
    (hs : s.toList = front ++ c :: back) (hc : Token.IsForeign c) (hends : Token.endsBare c = false)
    (hquote : '\x22' ∉ front ∨ '\x22' ∉ back) : ofText? s = none := by
  rw [ofText?, readWithin?, hs, Token.ofText?_of_foreign hc hends hquote]
  rfl

end FilingChecklist.Json
