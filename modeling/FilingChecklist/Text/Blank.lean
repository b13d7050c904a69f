namespace FilingChecklist.Text

/-- The code points with the property White_Space. -/
def blankRanges : List (Nat × Nat) :=
  [(0x9, 0xd), (0x20, 0x20), (0x85, 0x85), (0xa0, 0xa0), (0x1680, 0x1680), (0x2000, 0x200a),
    (0x2028, 0x2029), (0x202f, 0x202f), (0x205f, 0x205f), (0x3000, 0x3000)]

def inRanges (ranges : List (Nat × Nat)) (c : Char) : Bool :=
  ranges.any fun range => range.1 ≤ c.toNat && c.toNat ≤ range.2

def isBlank (c : Char) : Bool :=
  inRanges blankRanges c

def isQuote (c : Char) : Bool :=
  c == '\x22' || c == '\x27'

def trimStart (cs : List Char) : List Char :=
  cs.dropWhile isBlank

def trimEnd (cs : List Char) : List Char :=
  (trimStart cs.reverse).reverse

/-- The text without the white space at its two ends. -/
def trim (cs : List Char) : List Char :=
  trimEnd (trimStart cs)

def trimmed (s : String) : String :=
  String.ofList (trim s.toList)

/-- Small letters for the capitals A to Z; all other characters stay. -/
def asciiLower (s : String) : String :=
  String.ofList (s.toList.map Char.toLower)

@[simp] theorem toList_trimmed (s : String) : (trimmed s).toList = trim s.toList := by
  simp [trimmed]

@[simp] theorem toList_asciiLower (s : String) :
    (asciiLower s).toList = s.toList.map Char.toLower := by
  simp [asciiLower]

theorem isBlank_of_isQuote {c : Char} (h : isQuote c = true) : isBlank c = false := by
  simp only [isQuote, Bool.or_eq_true, beq_iff_eq] at h
  rcases h with rfl | rfl <;> decide

theorem trimStart_eq_nil_iff {cs : List Char} :
    trimStart cs = [] ↔ ∀ c ∈ cs, isBlank c := by
  induction cs with
  | nil => simp [trimStart]
  | cons c cs ih =>
      unfold trimStart at ih ⊢
      rw [List.dropWhile_cons]
      by_cases hc : isBlank c = true
      · simp [hc, ih]
      · simp [hc]

theorem isBlank_head_trimStart {cs rest : List Char} {c : Char}
    (h : trimStart cs = c :: rest) : isBlank c = false := by
  induction cs with
  | nil => simp [trimStart] at h
  | cons d cs ih =>
      unfold trimStart at ih h
      rw [List.dropWhile_cons] at h
      by_cases hd : isBlank d = true
      · exact ih (by simpa [hd] using h)
      · simp [hd] at h
        simpa [← h.1] using hd

theorem trimStart_eq_self {cs : List Char}
    (h : ∀ c ∈ cs.head?, isBlank c = false) : trimStart cs = cs := by
  cases cs with
  | nil => rfl
  | cons c cs => simp [trimStart, h c rfl]

@[simp] theorem trimStart_trimStart (cs : List Char) :
    trimStart (trimStart cs) = trimStart cs := by
  apply trimStart_eq_self
  intro c hc
  obtain ⟨rest, hrest⟩ := List.head?_eq_some_iff.mp hc
  exact isBlank_head_trimStart hrest

theorem exists_trimStart (cs : List Char) :
    ∃ before, cs = before ++ trimStart cs ∧ ∀ c ∈ before, isBlank c = true :=
  ⟨cs.takeWhile isBlank, List.takeWhile_append_dropWhile.symm,
    fun c hc => List.all_eq_true.mp List.all_takeWhile c hc⟩

theorem trim_trimStart (cs : List Char) : trim (trimStart cs) = trim cs := by
  rw [trim, trimStart_trimStart, trim]

theorem trimStart_append_singleton (xs : List Char) {c : Char} (hc : isBlank c = false) :
    trimStart (xs ++ [c]) = trimStart xs ++ [c] := by
  induction xs with
  | nil => simp [trimStart, hc]
  | cons x xs ih =>
      unfold trimStart at ih ⊢
      by_cases hx : isBlank x = true
      · simpa [hx] using ih
      · simp [hx]

theorem trimEnd_cons {c : Char} (hc : isBlank c = false) (cs : List Char) :
    trimEnd (c :: cs) = c :: trimEnd cs := by
  simp [trimEnd, trimStart_append_singleton _ hc]

/-- A text trims to nothing exactly when all of it is white space. -/
theorem trim_eq_nil_iff {cs : List Char} : trim cs = [] ↔ ∀ c ∈ cs, isBlank c := by
  constructor
  · intro h
    have hrev : trimStart (trimStart cs).reverse = [] := by
      simpa [trim, trimEnd] using h
    rw [trimStart_eq_nil_iff] at hrev
    cases hs : trimStart cs with
    | nil => exact trimStart_eq_nil_iff.mp hs
    | cons c rest =>
        have hc := isBlank_head_trimStart hs
        simp [hrev c (by simp [hs])] at hc
  · intro h
    rw [trim, trimStart_eq_nil_iff.mpr h]
    rfl

theorem trim_eq_self {cs : List Char} (hhead : ∀ c ∈ cs.head?, isBlank c = false)
    (hlast : ∀ c ∈ cs.getLast?, isBlank c = false) : trim cs = cs := by
  rw [trim, trimStart_eq_self hhead, trimEnd, trimStart_eq_self, List.reverse_reverse]
  simpa [List.head?_reverse] using hlast

theorem trim_of_forall_filled {cs : List Char} (h : ∀ c ∈ cs, isBlank c = false) : trim cs = cs :=
  trim_eq_self (fun c hc => h c (List.mem_of_mem_head? hc))
    fun c hc => h c (List.mem_of_mem_getLast? hc)

theorem isBlank_head_trim {cs : List Char} {c : Char} (h : c ∈ (trim cs).head?) :
    isBlank c = false := by
  cases hs : trimStart cs with
  | nil =>
      rw [trim, hs] at h
      simp [trimEnd, trimStart] at h
  | cons d rest =>
      have hd := isBlank_head_trimStart hs
      rw [trim, hs, trimEnd_cons hd] at h
      simp only [List.head?_cons, Option.mem_some_iff] at h
      exact h ▸ hd

theorem isBlank_getLast_trim {cs : List Char} {c : Char} (h : c ∈ (trim cs).getLast?) :
    isBlank c = false := by
  rw [trim, trimEnd, List.getLast?_reverse] at h
  obtain ⟨rest, hrest⟩ := List.head?_eq_some_iff.mp h
  exact isBlank_head_trimStart hrest

@[simp] theorem trim_trim (cs : List Char) : trim (trim cs) = trim cs :=
  trim_eq_self (fun _ h => isBlank_head_trim h) (fun _ h => isBlank_getLast_trim h)

@[simp] theorem trimmed_trimmed (s : String) : trimmed (trimmed s) = trimmed s := by
  simp [trimmed]

theorem toLower_cases (c : Char) :
    c.toLower = c ∨ 65 ≤ c.toNat ∧ c.toNat ≤ 90 ∧ c.toLower.toNat = c.toNat + 32 := by
  by_cases h : c.val ≥ 'A'.val ∧ c.val ≤ 'Z'.val
  · have hlow : 65 ≤ c.toNat := UInt32.le_iff_toNat_le.mp h.1
    have hhigh : c.toNat ≤ 90 := UInt32.le_iff_toNat_le.mp h.2
    refine .inr ⟨hlow, hhigh, ?_⟩
    have hlower : c.toLower = ⟨c.val + ('a'.val - 'A'.val), _⟩ := dif_pos h
    have hval : (c.val + ('a'.val - 'A'.val)).toNat = c.toNat + 32 := by
      rw [UInt32.toNat_add]
      change (c.toNat + 32) % 2 ^ 32 = c.toNat + 32
      omega
    rw [hlower]
    exact hval
  · exact .inl (dif_neg h)

theorem isBlank_of_ascii {c : Char} (hlow : 33 ≤ c.toNat) (hhigh : c.toNat ≤ 127) :
    isBlank c = false := by
  simp only [isBlank, inRanges, blankRanges, List.any_cons, List.any_nil, Bool.or_false,
    Bool.or_eq_false_iff, Bool.and_eq_false_iff, decide_eq_false_iff_not]
  omega

theorem isBlank_toLower (c : Char) : isBlank c.toLower = isBlank c := by
  rcases toLower_cases c with h | ⟨hlow, hhigh, h⟩
  · rw [h]
  · rw [isBlank_of_ascii (by omega) (by omega), isBlank_of_ascii (by omega) (by omega)]

theorem trimStart_map {f : Char → Char} (hf : ∀ c, isBlank (f c) = isBlank c) (cs : List Char) :
    trimStart (cs.map f) = (trimStart cs).map f := by
  rw [trimStart, List.dropWhile_map, trimStart, show isBlank ∘ f = isBlank from funext hf]

theorem trim_map {f : Char → Char} (hf : ∀ c, isBlank (f c) = isBlank c) (cs : List Char) :
    trim (cs.map f) = (trim cs).map f := by
  simp only [trim, trimEnd, trimStart_map hf, ← List.map_reverse]

theorem trimmed_asciiLower (s : String) : trimmed (asciiLower s) = asciiLower (trimmed s) := by
  simp [trimmed, asciiLower, trim_map isBlank_toLower]

@[simp] theorem asciiLower_asciiLower (s : String) : asciiLower (asciiLower s) = asciiLower s := by
  have hlower (c : Char) : c.toLower.toLower = c.toLower := by
    rcases toLower_cases c.toLower with h | ⟨hlow, hhigh, -⟩
    · exact h
    · rcases toLower_cases c with h | ⟨hcapital, -, h⟩
      · rw [h, h]
      · omega
  simp only [asciiLower, String.toList_ofList, List.map_map, Function.comp_def, hlower]

end FilingChecklist.Text
