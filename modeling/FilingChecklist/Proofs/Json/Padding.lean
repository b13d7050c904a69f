import FilingChecklist.Proofs.Json.Bare

namespace FilingChecklist.Json

open Text (isBlank trim trimStart trimmed)

namespace Token

theorem isForeign_of_isBlank {c : Char} (hc : isBlank c = true) : IsForeign c := by
  apply isForeign_of_not_isNumeric
  · cases hnumeric : Decimal.isNumeric c with
    | false => rfl
    | true => rw [Decimal.isBlank_of_isNumeric hnumeric] at hc; cases hc
  · intro hletter
    have hletters : wordLetters.any isBlank = false := by decide
    exact List.any_eq_false.mp hletters c hletter hc

theorem step_quoted {c : Char} (hc : (c == '\x22') = false) (seen : List Char) (escaped : Bool)
    (tokens : List Token) :
    ∃ next, step ⟨.quoted seen escaped, tokens⟩ c = some ⟨.quoted (c :: seen) next, tokens⟩ := by
  cases escaped with
  | true => exact ⟨false, rfl⟩
  | false => exact ⟨c == '\\', by simp [step, hc]⟩

theorem isSpace_of_endsBare {c : Char} (hc : isBlank c = true) (hends : endsBare c = true) :
    isSpace c = true := by
  rcases endsBare_cases hends with hspace | hmark
  · exact hspace
  · have hmarks : ['\x22', '[', ']', '\x7b', '\x7d', ',', ':'].any isBlank = false := by
      decide
    exact absurd hc (List.any_eq_false.mp hmarks c hmark)

theorem stepBetween_of_isBlank (tokens : List Token) {c : Char} (hc : isBlank c = true) :
    stepBetween tokens c = ⟨.between, tokens⟩ ∨ stepBetween tokens c = ⟨.bare [c], tokens⟩ := by
  cases hends : endsBare c with
  | true => exact .inl (by simp [stepBetween, isSpace_of_endsBare hc hends])
  | false => exact .inr (stepBetween_of_not_endsBare hends tokens)

theorem ofText?_of_cons_isBlank {cs : List Char} {c : Char} (hc : isBlank c = true)
    {tokens : List Token} (h : ofText? (c :: cs) = some tokens) : ofText? cs = some tokens := by
  change (cs.foldlM step (stepBetween [] c)).bind finish = some tokens at h
  rcases stepBetween_of_isBlank [] hc with hpassed | hbare
  · rw [hpassed] at h
    exact h
  · rw [hbare, finish_of_foreign cs (List.mem_singleton_self c) (isForeign_of_isBlank hc)] at h
    cases h

theorem finish_stepBetween {c : Char} (hc : isBlank c = true) {before tokens : List Token}
    (h : finish (stepBetween before c) = some tokens) : before.reverse = tokens := by
  rcases stepBetween_of_isBlank before hc with hpassed | hbare
  · rw [hpassed] at h
    exact Option.some.inj h
  · rw [hbare] at h
    change (closeBare? [c] before).map List.reverse = some tokens at h
    rw [closeBare?_of_foreign (List.mem_singleton_self c) (isForeign_of_isBlank hc)] at h
    cases h

/-- White space after a text completes nothing that is not complete without it. -/
theorem finish_of_step_isBlank {p : Progress} {c : Char} (hc : isBlank c = true)
    {tokens : List Token} (h : (step p c).bind finish = some tokens) :
    finish p = some tokens := by
  obtain ⟨scan, before⟩ := p
  cases scan with
  | between => exact congrArg some (finish_stepBetween hc h)
  | bare seen =>
      cases hends : endsBare c with
      | true =>
          rw [step_bare_of_endsBare hends] at h
          obtain ⟨last, hlast, hfinish⟩ := Option.bind_eq_some_iff.mp h
          obtain ⟨completed, hclose, rfl⟩ := Option.map_eq_some_iff.mp hlast
          change (closeBare? seen before).map List.reverse = some tokens
          rw [hclose]
          exact congrArg some (finish_stepBetween hc hfinish)
      | false =>
          rw [step_bare hends] at h
          change (closeBare? (c :: seen) before).map List.reverse = some tokens at h
          rw [closeBare?_of_foreign List.mem_cons_self (isForeign_of_isBlank hc)] at h
          cases h
  | quoted seen escaped =>
      have hquote : (c == '\x22') = false := by
        apply beq_eq_false_iff_ne.mpr
        rintro rfl
        exact absurd hc (by decide)
      obtain ⟨next, hnext⟩ := step_quoted hquote seen escaped before
      rw [hnext] at h
      cases h

theorem ofText?_of_append_isBlank {cs : List Char} {c : Char} (hc : isBlank c = true)
    {tokens : List Token} (h : ofText? (cs ++ [c]) = some tokens) : ofText? cs = some tokens := by
  rw [ofText?, List.foldlM_append] at h
  obtain ⟨last, hread, hfinish⟩ := Option.bind_eq_some_iff.mp h
  obtain ⟨p, hp, hstep⟩ := Option.bind_eq_some_iff.mp hread
  have hlast : step p c = some last := by simpa using hstep
  rw [ofText?, hp]
  apply finish_of_step_isBlank hc
  rw [hlast]
  exact hfinish

theorem ofText?_trimStart {cs : List Char} {tokens : List Token} (h : ofText? cs = some tokens) :
    ofText? (trimStart cs) = some tokens := by
  induction cs with
  | nil => exact h
  | cons c cs ih =>
      rw [trimStart, List.dropWhile_cons]
      split
      · next hc => exact ih (ofText?_of_cons_isBlank hc h)
      · exact h

theorem ofText?_reverse_trimStart {rev : List Char} {tokens : List Token}
    (h : ofText? rev.reverse = some tokens) :
    ofText? (trimStart rev).reverse = some tokens := by
  induction rev with
  | nil => exact h
  | cons c rev ih =>
      rw [trimStart, List.dropWhile_cons]
      split
      · next hc =>
          rw [List.reverse_cons] at h
          exact ih (ofText?_of_append_isBlank hc h)
      · exact h

theorem ofText?_trim {cs : List Char} {tokens : List Token} (h : ofText? cs = some tokens) :
    ofText? (trim cs) = some tokens := by
  apply ofText?_reverse_trimStart
  rw [List.reverse_reverse]
  exact ofText?_trimStart h

end Token

/-- A text that reads as data still does so, and as the same data, when it is trimmed. -/
theorem ofText?_trimmed {s : String} {v : Json} (h : ofText? s = some v) :
    ofText? (trimmed s) = some v := by
  obtain ⟨tokens, htokens, hread⟩ := Option.bind_eq_some_iff.mp h
  rw [ofText?, Text.toList_trimmed]
  exact Option.bind_eq_some_iff.mpr ⟨tokens, Token.ofText?_trim htokens, hread⟩

end FilingChecklist.Json
