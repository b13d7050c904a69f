import FilingChecklist.Text.LowerCase

/-!
Parts of a text in small letters. Every character but the capital sigma has the same small form
wherever it stands, so a part of a text has in the text the small form that it has on its own
exactly if each capital sigma in it ends a word in both or in neither.
-/

namespace FilingChecklist.Text

/-- Whether a capital sigma between these texts ends a word. -/
def endsWord (before after : List Char) : Bool :=
  meetsCased before.reverse && !meetsCased after

/-- Each capital sigma of `part` ends a word between the first two texts exactly if it does so
between the other two. -/
def SameSigmas (part before after before' after' : List Char) : Prop :=
  ∀ front back, part = front ++ 'Σ' :: back →
    endsWord (before ++ front) (back ++ after) = endsWord (before' ++ front) (back ++ after')

/-- Each capital sigma of `part` ends a word there exactly if it does so in the text around it. -/
def KeepsSigmas (before part after : List Char) : Prop :=
  SameSigmas part [] [] before after

theorem lowerBetween_of_ne {c : Char} (hc : c ≠ 'Σ') (before after before' after' : List Char) :
    lowerBetween before c after = lowerBetween before' c after' := by
  simp only [lowerBetween, hc, if_false]

theorem length_lowerBetween (c : Char) (before after before' after' : List Char) :
    (lowerBetween before c after).length = (lowerBetween before' c after').length := by
  by_cases hc : c = 'Σ'
  · subst hc
    rfl
  · rw [lowerBetween_of_ne hc]

variable {part before after before' after' : List Char}

theorem lowerBetween_eq_iff {c : Char} :
    lowerBetween before.reverse c after = lowerBetween before'.reverse c after' ↔
      (c = 'Σ' → endsWord before after = endsWord before' after') := by
  by_cases hc : c = 'Σ'
  · subst hc
    change [if endsWord before after then 'ς' else 'σ'] =
      [if endsWord before' after' then 'ς' else 'σ'] ↔ _
    cases endsWord before after <;> cases endsWord before' after' <;> decide
  · constructor
    · intro _ hsigma
      exact absurd hsigma hc
    · intro _
      exact lowerBetween_of_ne hc _ _ _ _

/-- The small form of `part` between the text before it, nearest character first, and the text after
it. -/
def lowerWithin (before part after : List Char) : List Char :=
  match part with
  | [] => []
  | c :: rest => lowerBetween before c (rest ++ after) ++ lowerWithin (c :: before) rest after

theorem lowerAfter_append (before part after : List Char) :
    lowerAfter before (part ++ after) =
      lowerWithin before part after ++ lowerAfter (part.reverse ++ before) after := by
  induction part generalizing before with
  | nil => rfl
  | cons c rest ih =>
      rw [List.cons_append, lowerAfter, lowerWithin, ih, List.append_assoc, List.reverse_cons,
        List.append_assoc, List.singleton_append]

theorem lower_eq_lowerWithin (part : List Char) : lower part = lowerWithin [] part [] := by
  have h := lowerAfter_append [] part []
  rwa [List.append_nil, lowerAfter, List.append_nil] at h

theorem lower_append (before part after : List Char) :
    lower (before ++ part ++ after) =
      lowerWithin [] before (part ++ after) ++ lowerWithin before.reverse part after ++
        lowerAfter (before ++ part).reverse after := by
  rw [lower, List.append_assoc, lowerAfter_append, lowerAfter_append, List.append_nil,
    List.append_assoc, List.reverse_append]

theorem sameSigmas_cons_iff {c : Char} {rest : List Char} :
    SameSigmas (c :: rest) before after before' after' ↔
      (c = 'Σ' → endsWord before (rest ++ after) = endsWord before' (rest ++ after')) ∧
      SameSigmas rest (before ++ [c]) after (before' ++ [c]) after' := by
  constructor
  · intro h
    refine ⟨?_, ?_⟩
    · rintro rfl
      simpa using h [] rest rfl
    · rintro front back rfl
      simpa using h (c :: front) back rfl
  · rintro ⟨hfirst, hrest⟩ front back heq
    cases front with
    | nil =>
        obtain ⟨rfl, rfl⟩ := List.cons.inj heq
        simpa using hfirst rfl
    | cons d front =>
        obtain ⟨rfl, rfl⟩ := List.cons.inj heq
        simpa using hrest front back rfl

/-- A part has the same small form in two places exactly if its sigmas do not tell them apart. -/
theorem lowerWithin_eq_iff :
    lowerWithin before.reverse part after = lowerWithin before'.reverse part after' ↔
      SameSigmas part before after before' after' := by
  induction part generalizing before before' with
  | nil => simp [lowerWithin, SameSigmas]
  | cons c rest ih =>
      have hreverse (text : List Char) : c :: text.reverse = (text ++ [c]).reverse := by simp
      rw [lowerWithin, lowerWithin, sameSigmas_cons_iff, ← lowerBetween_eq_iff, hreverse, hreverse,
        ← ih]
      constructor
      · exact fun h => List.append_inj h (length_lowerBetween c _ _ _ _)
      · rintro ⟨hfirst, hrest⟩
        rw [hfirst, hrest]

theorem lowerWithin_eq_lower_iff :
    lowerWithin before.reverse part after = lower part ↔ KeepsSigmas before part after := by
  rw [lower_eq_lowerWithin, eq_comm]
  exact @lowerWithin_eq_iff part [] [] before after

/-- A part of a text that keeps its sigmas is found in it in small letters. -/
theorem occursIn_lower (h : KeepsSigmas before part after) :
    occursIn (lower part) (lower (before ++ part ++ after)) = true := by
  rw [lower_append, lowerWithin_eq_lower_iff.mpr h]
  exact occursIn_iff.mpr ⟨_, _, rfl⟩

theorem meetsCased_append (h : meetsCased after = false) (text : List Char) :
    meetsCased (text ++ after) = meetsCased text := by
  simp only [meetsCased, List.dropWhile_append] at h ⊢
  cases htext : text.dropWhile isCaseIgnorable with
  | nil => simpa using h
  | cons c rest => rfl

theorem keepsSigmas_of_meetsCased (hbefore : meetsCased before.reverse = false)
    (hafter : meetsCased after = false) : KeepsSigmas before part after := by
  intro front back _
  rw [List.nil_append, List.append_nil, endsWord, endsWord, List.reverse_append,
    meetsCased_append hbefore, meetsCased_append hafter]

theorem keepsSigmas_of_not_mem (h : 'Σ' ∉ part) : KeepsSigmas before part after := by
  rintro front back rfl
  exact absurd (by simp) h

end FilingChecklist.Text
