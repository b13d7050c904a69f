import FilingChecklist.Json.Reader
import FilingChecklist.Proofs.Decimal.Characters

namespace FilingChecklist.Json

open Decimal (isNumeric)
open Text (asciiLower)

theorem isNumeric_of_ofText? {cs : List Char} {n : Number} (h : Number.ofText? cs = some n) :
    ∀ c ∈ cs, isNumeric c = true := by
  obtain ⟨parts, hparts, -⟩ := Option.bind_eq_some_iff.mp h
  exact Decimal.isNumeric_of_split? hparts

theorem bareScalar?_cases {cs : List Char} {v : Json} (h : Token.bareScalar? cs = some v) :
    (cs = ['n', 'u', 'l', 'l'] ∧ v = .null) ∨ (cs = ['t', 'r', 'u', 'e'] ∧ v = .bool true) ∨
      (cs = ['f', 'a', 'l', 's', 'e'] ∧ v = .bool false) ∨ ∀ c ∈ cs, isNumeric c = true := by
  rw [Token.bareScalar?] at h
  split at h
  · next hword => exact .inl ⟨eq_of_beq hword, (Option.some.inj h).symm⟩
  · split at h
    · next hword => exact .inr (.inl ⟨eq_of_beq hword, (Option.some.inj h).symm⟩)
    · split at h
      · next hword => exact .inr (.inr (.inl ⟨eq_of_beq hword, (Option.some.inj h).symm⟩))
      · obtain ⟨n, hn, -⟩ := Option.map_eq_some_iff.mp h
        exact .inr (.inr (.inr (isNumeric_of_ofText? hn)))

namespace Token

theorem step_between (tokens : List Token) (c : Char) :
    step ⟨.between, tokens⟩ c = some (stepBetween tokens c) := rfl

theorem step_bare_of_endsBare {c : Char} (hc : endsBare c = true) (seen : List Char)
    (tokens : List Token) :
    step ⟨.bare seen, tokens⟩ c = (closeBare? seen tokens).map (stepBetween · c) := by
  simp [step, hc]

theorem step_bare {c : Char} (hc : endsBare c = false) (seen : List Char) (tokens : List Token) :
    step ⟨.bare seen, tokens⟩ c = some ⟨.bare (c :: seen), tokens⟩ := by
  simp [step, hc]

theorem stepBetween_of_not_endsBare {c : Char} (hc : endsBare c = false) (tokens : List Token) :
    stepBetween tokens c = ⟨.bare [c], tokens⟩ := by
  simp only [endsBare, Bool.or_eq_false_iff, Option.isSome_eq_false_iff,
    Option.isNone_iff_eq_none] at hc
  obtain ⟨⟨hspace, hquote⟩, hmark⟩ := hc
  simp [stepBetween, hspace, hquote, hmark]

theorem foldlM_bare {cs : List Char} (hcs : ∀ c ∈ cs, endsBare c = false) (seen : List Char)
    (tokens : List Token) :
    cs.foldlM step ⟨.bare seen, tokens⟩ = some ⟨.bare (cs.reverse ++ seen), tokens⟩ := by
  induction cs generalizing seen with
  | nil => rfl
  | cons c cs ih =>
      obtain ⟨hc, hcs⟩ := List.forall_mem_cons.mp hcs
      rw [List.foldlM_cons, step_bare hc]
      change cs.foldlM step ⟨.bare (c :: seen), tokens⟩ = _
      rw [ih hcs, List.reverse_cons, List.append_assoc]
      rfl

theorem ofText?_bare {c : Char} {cs : List Char} (hc : endsBare c = false)
    (hcs : ∀ d ∈ cs, endsBare d = false) :
    ofText? (c :: cs) = (bareScalar? (c :: cs)).map fun v => [.scalar v] := by
  rw [ofText?, List.foldlM_cons, step_between, stepBetween_of_not_endsBare hc]
  change (cs.foldlM step ⟨.bare [c], []⟩).bind finish = _
  rw [foldlM_bare hcs]
  change (closeBare? (cs.reverse ++ [c]) []).map List.reverse = _
  rw [closeBare?, ← List.reverse_cons, List.reverse_reverse, Option.map_map]
  rfl

theorem endsBare_cases {c : Char} (hc : endsBare c = true) :
    isSpace c = true ∨ c ∈ ['\x22', '[', ']', '\x7b', '\x7d', ',', ':'] := by
  simp only [endsBare, Bool.or_eq_true, beq_iff_eq] at hc
  rcases hc with (hspace | rfl) | hmark
  · exact .inl hspace
  · exact .inr (by decide)
  · right
    by_cases hmem : c ∈ ['[', ']', '\x7b', '\x7d', ',', ':']
    · exact List.mem_cons_of_mem _ hmem
    · simp only [List.mem_cons, List.not_mem_nil, or_false, not_or] at hmem
      simp [mark?, hmem] at hmark

theorem toLower_of_endsBare {c : Char} (hc : endsBare c = true) : c.toLower = c := by
  rcases endsBare_cases hc with hspace | hmem
  · simp only [isSpace, Bool.or_eq_true, beq_iff_eq] at hspace
    rcases hspace with ((rfl | rfl) | rfl) | rfl <;> decide
  · have hmarks : ['\x22', '[', ']', '\x7b', '\x7d', ',', ':'].all (fun d => d.toLower == d) := by
      decide
    exact eq_of_beq (List.all_eq_true.mp hmarks c hmem)

/-- A character that stands in no bare scalar. -/
def IsForeign (c : Char) : Prop :=
  ∀ cs, c ∈ cs → bareScalar? cs = none

/-- The letters of the three words of the format. -/
def wordLetters : List Char :=
  ['n', 'u', 'l', 't', 'r', 'e', 'f', 'a', 's']

theorem isForeign_of_not_isNumeric {c : Char} (hnumeric : isNumeric c = false)
    (hletter : c ∉ wordLetters) : IsForeign c := by
  intro cs hmem
  cases hv : bareScalar? cs with
  | none => rfl
  | some v =>
      have hword {word : List Char} (hletters : word.all wordLetters.contains = true)
          (hmem : c ∈ word) : c ∈ wordLetters :=
        List.contains_iff_mem.mp (List.all_eq_true.mp hletters c hmem)
      rcases bareScalar?_cases hv with ⟨rfl, -⟩ | ⟨rfl, -⟩ | ⟨rfl, -⟩ | hchars
      · exact absurd (hword (by decide) hmem) hletter
      · exact absurd (hword (by decide) hmem) hletter
      · exact absurd (hword (by decide) hmem) hletter
      · rw [hchars c hmem] at hnumeric
        cases hnumeric

theorem closeBare?_of_foreign {seen : List Char} {c : Char} (hmem : c ∈ seen) (hc : IsForeign c)
    (tokens : List Token) : closeBare? seen tokens = none := by
  rw [closeBare?, hc _ (List.mem_reverse.mpr hmem)]
  rfl

/-- A scanner that has met a foreign character in a bare scalar reaches no end. -/
theorem finish_of_foreign (rest : List Char) {seen : List Char} {c : Char} (hmem : c ∈ seen)
    (hc : IsForeign c) (tokens : List Token) :
    (rest.foldlM step ⟨.bare seen, tokens⟩).bind finish = none := by
  induction rest generalizing seen with
  | nil =>
      change (closeBare? seen tokens).map List.reverse = none
      rw [closeBare?_of_foreign hmem hc, Option.map_none]
  | cons d rest ih =>
      rw [List.foldlM_cons]
      cases hd : endsBare d with
      | true =>
          rw [step_bare_of_endsBare hd, closeBare?_of_foreign hmem hc]
          rfl
      | false =>
          rw [step_bare hd]
          exact ih (List.mem_cons_of_mem d hmem)

end Token

theorem ofText?_bare {s : String} (hne : s.toList ≠ [])
    (hs : ∀ c ∈ s.toList, Token.endsBare c = false) :
    ofText? s = Token.bareScalar? s.toList := by
  obtain ⟨c, cs, hcs⟩ := List.exists_cons_of_ne_nil hne
  rw [hcs] at hs ⊢
  obtain ⟨hc, hrest⟩ := List.forall_mem_cons.mp hs
  rw [ofText?, readWithin?, hcs, Token.ofText?_bare hc hrest]
  cases Token.bareScalar? (c :: cs) <;> rfl

/-- A text that differs from a word at most in its capital letters reads only as what the word
stands for. -/
theorem ofText?_of_asciiLower {s word : String} {v : Json} (hword : asciiLower s = word)
    (hbare : word.toList.any Token.endsBare = false)
    (hletter : word.toList.all isNumeric = false) (h : ofText? s = some v) :
    (word = "null" ∧ v = .null) ∨ (word = "true" ∧ v = .bool true) ∨
      (word = "false" ∧ v = .bool false) := by
  have hchars : word.toList = s.toList.map Char.toLower := by
    rw [← hword, Text.toList_asciiLower]
  rw [hchars] at hbare hletter
  obtain ⟨_, hmem, hletter⟩ := List.all_eq_false.mp hletter
  obtain ⟨c, hc, rfl⟩ := List.mem_map.mp hmem
  have hs : ∀ d ∈ s.toList, Token.endsBare d = false := by
    intro d hd
    have hlower := List.any_eq_false.mp hbare d.toLower (List.mem_map_of_mem hd)
    cases hends : Token.endsBare d with
    | false => rfl
    | true => exact absurd hends (by rwa [Token.toLower_of_endsBare hends] at hlower)
  rw [ofText?_bare (List.ne_nil_of_mem hc) hs] at h
  have hread (cs : List Char) (hcs : s.toList = cs) :
      word = String.ofList (cs.map Char.toLower) := by
    rw [← hcs, ← hchars, String.ofList_toList]
  rcases bareScalar?_cases h with ⟨hcs, hv⟩ | ⟨hcs, hv⟩ | ⟨hcs, hv⟩ | hnumeric
  · exact .inl ⟨hread _ hcs, hv⟩
  · exact .inr (.inl ⟨hread _ hcs, hv⟩)
  · exact .inr (.inr ⟨hread _ hcs, hv⟩)
  · exact absurd (Decimal.isNumeric_toLower (hnumeric c hc)) hletter

end FilingChecklist.Json
