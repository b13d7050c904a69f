import FilingChecklist.Text.Blank
import FilingChecklist.Text.Parts

/-!
Texts joined by a separator, with white space around any of them. Cutting such a text at the
separator and trimming the parts gives the joined texts back. Trimming the whole text before only
takes away the white space in front of the first text and behind the last one.
-/

namespace FilingChecklist.Text

variable {separator : Char} {before after cs rest : List Char}

theorem trimStart_append (h : ∀ c ∈ before, isBlank c = true) (cs : List Char) :
    trimStart (before ++ cs) = trimStart cs :=
  List.dropWhile_append_of_pos h

theorem trimEnd_append (cs : List Char) (h : ∀ c ∈ after, isBlank c = true) :
    trimEnd (cs ++ after) = trimEnd cs := by
  rw [trimEnd, List.reverse_append, trimStart_append (by simpa using h), trimEnd]

theorem trimStart_append_cons (front : List Char) {c : Char} (hc : isBlank c = false)
    (back : List Char) : trimStart (front ++ c :: back) = trimStart front ++ c :: back := by
  rw [trimStart, trimStart, List.dropWhile_append]
  split
  · next hfront => simp [List.isEmpty_iff.mp hfront, hc]
  · rfl

theorem trimEnd_append_cons (front : List Char) {c : Char} (hc : isBlank c = false)
    (back : List Char) : trimEnd (front ++ c :: back) = front ++ c :: trimEnd back := by
  rw [trimEnd, trimEnd, List.reverse_append, List.reverse_cons, List.append_assoc,
    List.singleton_append, trimStart_append_cons _ hc]
  simp

theorem head?_trim (cs : List Char) : (trim cs).head? = (trimStart cs).head? := by
  rw [trim]
  cases hstart : trimStart cs with
  | nil => rfl
  | cons c rest =>
      rw [trimEnd_cons (isBlank_head_trimStart hstart), List.head?_cons, List.head?_cons]

/-- A text that is not blank and has no white space at its ends. -/
structure IsTrimmed (cs : List Char) : Prop where
  ne_nil : cs ≠ []
  trim_eq : trim cs = cs

instance : Decidable (IsTrimmed cs) :=
  decidable_of_iff (cs ≠ [] ∧ trim cs = cs)
    ⟨fun h => ⟨h.1, h.2⟩, fun h => ⟨h.ne_nil, h.trim_eq⟩⟩

theorem isTrimmed_of_trimmed {s : String} (h : trimmed s = s) (hne : s ≠ "") :
    IsTrimmed s.toList where
  ne_nil hnil := hne (String.toList_eq_nil_iff.mp hnil)
  trim_eq := by rw [← toList_trimmed, h]

namespace IsTrimmed

theorem trimStart_append (h : IsTrimmed cs) (rest : List Char) :
    trimStart (cs ++ rest) = cs ++ rest := by
  obtain ⟨c, tail, rfl⟩ := List.exists_cons_of_ne_nil h.ne_nil
  have hc : isBlank c = false := isBlank_head_trim (by rw [h.trim_eq]; rfl)
  exact trimStart_append_cons [] hc (tail ++ rest)

theorem trimEnd_append (h : IsTrimmed cs) (front : List Char) :
    trimEnd (front ++ cs) = front ++ cs := by
  obtain ⟨init, c, rfl⟩ : ∃ init c, cs = init ++ [c] :=
    ⟨_, _, (List.dropLast_concat_getLast h.ne_nil).symm⟩
  have hc : isBlank c = false := isBlank_getLast_trim (by rw [h.trim_eq]; simp)
  rw [← List.append_assoc, trimEnd_append_cons _ hc]
  rfl

theorem append_append {front back : List Char} (hfront : IsTrimmed front) (middle : List Char)
    (hback : IsTrimmed back) : IsTrimmed (front ++ middle ++ back) where
  ne_nil := by simp [hfront.ne_nil]
  trim_eq := by
    rw [trim, List.append_assoc, hfront.trimStart_append, ← List.append_assoc, hback.trimEnd_append]

theorem trim_append (h : IsTrimmed cs) (hbefore : ∀ c ∈ before, isBlank c = true) :
    trim (before ++ cs) = cs := by
  rw [trim, Text.trimStart_append hbefore]
  exact h.trim_eq

end IsTrimmed

/-- A text with white space around it. -/
inductive Padded (cs : List Char) : List Char → Prop
  | intro {before after : List Char} (hbefore : ∀ c ∈ before, isBlank c = true)
      (hafter : ∀ c ∈ after, isBlank c = true) : Padded cs (before ++ cs ++ after)

/-- Texts, each with white space around it, and the separator between any two. -/
inductive Joined (separator : Char) : List (List Char) → List Char → Prop
  | single {cs padded : List Char} (h : Padded cs padded) : Joined separator [cs] padded
  | cons {cs padded rest : List Char} {items : List (List Char)} (h : Padded cs padded)
      (hrest : Joined separator items rest) :
      Joined separator (cs :: items) (padded ++ separator :: rest)

theorem padded_trim (cs : List Char) : Padded (trim cs) cs := by
  obtain ⟨before, hbefore, hblank⟩ := exists_trimStart cs
  obtain ⟨after, hafter, hblank'⟩ := exists_trimStart (trimStart cs).reverse
  have hstart : trimStart cs = trim cs ++ after.reverse := by
    rw [trim, trimEnd, ← List.reverse_append, ← hafter, List.reverse_reverse]
  have hpadded : Padded (trim cs) (before ++ trim cs ++ after.reverse) :=
    .intro hblank (by simpa using hblank')
  rwa [List.append_assoc, ← hstart, ← hbefore] at hpadded

theorem mem_trim_of_mem {c : Char} (hc : isBlank c = false) (h : c ∈ cs) : c ∈ trim cs := by
  have hpadded := padded_trim cs
  generalize trim cs = inner at hpadded
  obtain ⟨hbefore, hafter⟩ := hpadded
  have hblank {text : List Char} (htext : ∀ d ∈ text, isBlank d = true) : c ∉ text := by
    intro hmem
    rw [htext c hmem] at hc
    cases hc
  simpa [hblank hbefore, hblank hafter] using h

namespace Padded

variable {padded : List Char}

theorem trim_eq (h : Padded cs padded) : trim padded = trim cs := by
  obtain @⟨before, after, hbefore, hafter⟩ := h
  have happend : Text.trimStart (cs ++ after) = if (Text.trimStart cs).isEmpty then
      Text.trimStart after else Text.trimStart cs ++ after := List.dropWhile_append
  rw [trim, List.append_assoc, Text.trimStart_append hbefore, trim, happend]
  split
  · next hblank => rw [List.isEmpty_iff.mp hblank, trimStart_eq_nil_iff.mpr hafter]
  · rw [Text.trimEnd_append _ hafter]

theorem trimStart (h : Padded cs padded) (hcs : IsTrimmed cs) :
    ∃ after, Padded cs (cs ++ after) ∧
      ∀ rest, Text.trimStart (padded ++ rest) = cs ++ after ++ rest := by
  obtain @⟨before, after, hbefore, hafter⟩ := h
  refine ⟨after, @Padded.intro cs [] after nofun hafter, ?_⟩
  intro rest
  rw [List.append_assoc, List.append_assoc, Text.trimStart_append hbefore,
    hcs.trimStart_append, List.append_assoc]

theorem trimEnd (h : Padded cs padded) (hcs : IsTrimmed cs) : Padded cs (Text.trimEnd padded) := by
  obtain @⟨before, after, hbefore, hafter⟩ := h
  rw [Text.trimEnd_append _ hafter, hcs.trimEnd_append, ← List.append_nil (before ++ cs)]
  exact .intro hbefore nofun

theorem not_mem (h : Padded cs padded) (hseparator : isBlank separator = false)
    (hcs : separator ∉ cs) : separator ∉ padded := by
  obtain ⟨hbefore, hafter⟩ := h
  have hblank {text : List Char} (htext : ∀ c ∈ text, isBlank c = true) : separator ∉ text := by
    intro hmem
    rw [htext separator hmem] at hseparator
    cases hseparator
  simp [hblank hbefore, hblank hafter, hcs]

end Padded

namespace Joined

variable {items : List (List Char)}

theorem ne_nil (h : Joined separator items cs) : items ≠ [] := by
  cases h <;> exact List.cons_ne_nil _ _

theorem trimStart {item : List Char} (h : Joined separator (item :: items) cs)
    (hitem : IsTrimmed item) :
    Joined separator (item :: items) (Text.trimStart cs) ∧
      (Text.trimStart cs).head? = item.head? := by
  obtain ⟨c, tail, rfl⟩ := List.exists_cons_of_ne_nil hitem.ne_nil
  cases h with
  | single hpadded =>
      obtain ⟨after, htrimmed, hstart⟩ := hpadded.trimStart hitem
      have hcs := hstart []
      rw [List.append_nil, List.append_nil] at hcs
      rw [hcs]
      exact ⟨.single htrimmed, rfl⟩
  | cons hpadded hrest =>
      obtain ⟨after, htrimmed, hstart⟩ := hpadded.trimStart hitem
      rw [hstart]
      exact ⟨.cons htrimmed hrest, rfl⟩

theorem trimEnd (h : Joined separator items cs) (hseparator : isBlank separator = false)
    (hitems : ∀ item ∈ items, IsTrimmed item) : Joined separator items (Text.trimEnd cs) := by
  induction h with
  | single hpadded => exact .single (hpadded.trimEnd (hitems _ (List.mem_singleton_self _)))
  | cons hpadded _ ih =>
      rw [trimEnd_append_cons _ hseparator]
      exact .cons hpadded (ih fun item hitem => hitems item (List.mem_cons_of_mem _ hitem))

/-- Trimming the whole keeps what is joined, and begins it with the first text. -/
theorem trim (h : Joined separator items cs) (hseparator : isBlank separator = false)
    (hitems : ∀ item ∈ items, IsTrimmed item) :
    Joined separator items (Text.trim cs) ∧ (Text.trim cs).head? = items.head?.bind List.head? := by
  obtain ⟨item, others, rfl⟩ := List.exists_cons_of_ne_nil h.ne_nil
  obtain ⟨hstart, hhead⟩ := h.trimStart (hitems item List.mem_cons_self)
  refine ⟨hstart.trimEnd hseparator hitems, ?_⟩
  rw [head?_trim, hhead]
  rfl

end Joined

theorem parts_of_not_mem (h : separator ∉ cs) : parts separator cs = [cs] := by
  induction cs with
  | nil => rfl
  | cons c cs ih =>
      simp only [List.mem_cons, not_or] at h
      have hc : (c == separator) = false := beq_eq_false_iff_ne.mpr (Ne.symm h.1)
      rw [parts, ih h.2, hc]
      rfl

theorem parts_append_cons (h : separator ∉ cs) (rest : List Char) :
    parts separator (cs ++ separator :: rest) = cs :: parts separator rest := by
  induction cs with
  | nil => simp [parts]
  | cons c cs ih =>
      simp only [List.mem_cons, not_or] at h
      have hc : (c == separator) = false := beq_eq_false_iff_ne.mpr (Ne.symm h.1)
      rw [List.cons_append, parts, ih h.2, hc]
      rfl

theorem Joined.map_trim_parts {items : List (List Char)} (h : Joined separator items cs)
    (hseparator : isBlank separator = false) (hitems : ∀ item ∈ items, separator ∉ item) :
    (parts separator cs).map Text.trim = items.map Text.trim := by
  induction h with
  | single hpadded =>
      have hitem := hitems _ (List.mem_singleton_self _)
      rw [parts_of_not_mem (hpadded.not_mem hseparator hitem), List.map_singleton,
        List.map_singleton, hpadded.trim_eq]
  | cons hpadded _ ih =>
      obtain ⟨hitem, hothers⟩ := List.forall_mem_cons.mp hitems
      rw [parts_append_cons (hpadded.not_mem hseparator hitem), List.map_cons, List.map_cons,
        hpadded.trim_eq, ih hothers]

end FilingChecklist.Text
