import FilingChecklist.Proofs.Text.Joining
import FilingChecklist.Rule.Path

/-!
The grammar of attribute paths. A path is a row of dots, of brackets and of runs of other
characters; a run is a key unless it is blank, and brackets hold a key in quotes or a position.
-/

namespace FilingChecklist.Path

open Text (isBlank isBlank_of_isQuote isQuote trim trimStart)

/-- Digits, at least one, that write a position of 64 bits. -/
structure Digits (digits : List Char) (position : Nat) : Prop where
  ne_nil : digits ≠ []
  isDigit : ∀ c ∈ digits, c.isDigit = true
  ofDigits_eq : Decimal.ofDigits digits = position
  lt : position < 0x10000000000000000

/-- A position is written with or without a plus sign. -/
inductive Numeral : List Char → Nat → Prop
  | unsigned {digits : List Char} {position : Nat} (h : Digits digits position) :
      Numeral digits position
  | signed {digits : List Char} {position : Nat} (h : Digits digits position) :
      Numeral ('+' :: digits) position

/-- Brackets and the segment they write. Between quotes every character but the quote itself stands
for itself; without quotes the text up to the closing bracket is a position. -/
inductive Group : List Char → Segment → Prop
  | quoted {before body after : List Char} {quote : Char} (hquote : isQuote quote = true)
      (hbefore : ∀ c ∈ before, isBlank c = true) (hbody : quote ∉ body)
      (hafter : ∀ c ∈ after, isBlank c = true) :
      Group ('[' :: before ++ quote :: body ++ quote :: after ++ [']'])
        (.key (String.ofList body))
  | bare {raw : List Char} {position : Nat} (hclose : ']' ∉ raw)
      (hhead : ∀ c ∈ (trimStart raw).head?, isQuote c = false)
      (hposition : Numeral (trim raw) position) : Group ('[' :: raw ++ [']']) (.index position)

/-- Neither a dot nor a bracket. -/
def isPlain (c : Char) : Bool :=
  c != '.' && c != '[' && c != ']'

/-- A run of plain characters that the rest of the path does not continue. -/
structure Run (run rest : List Char) : Prop where
  ne_nil : run ≠ []
  plain : ∀ c ∈ run, isPlain c = true
  maximal : ∀ c ∈ rest.head?, isPlain c = false

/-- Paths and the segments they write. -/
inductive Written : List Char → List Segment → Prop
  | nil : Written [] []
  | dot {rest : List Char} {segments : List Segment} (hrest : Written rest segments) :
      Written ('.' :: rest) segments
  | group {cs rest : List Char} {segment : Segment} {segments : List Segment}
      (hgroup : Group cs segment) (hrest : Written rest segments) :
      Written (cs ++ rest) (segment :: segments)
  | blank {run rest : List Char} {segments : List Segment} (hrun : Run run rest)
      (hblank : ∀ c ∈ run, isBlank c = true) (hrest : Written rest segments) :
      Written (run ++ rest) segments
  | name {run rest : List Char} {segments : List Segment} (hrun : Run run rest)
      (hname : ∃ c ∈ run, isBlank c = false) (hrest : Written rest segments) :
      Written (run ++ rest) (.key (String.ofList (trim run)) :: segments)

theorem digits_iff {digits : List Char} {position : Nat} :
    Digits digits position ↔
      (if !digits.isEmpty && digits.all Char.isDigit then
        if Decimal.ofDigits digits < 0x10000000000000000 then some (Decimal.ofDigits digits)
        else none
      else none) = some position := by
  simp only [Option.ite_none_right_eq_some, Bool.and_eq_true, Bool.not_eq_true',
    List.isEmpty_eq_false_iff, List.all_eq_true, Option.some.injEq]
  constructor
  · rintro ⟨hne, hdigits, rfl, hlt⟩
    exact ⟨⟨hne, hdigits⟩, hlt, rfl⟩
  · rintro ⟨⟨hne, hdigits⟩, hlt, rfl⟩
    exact ⟨hne, hdigits, rfl, hlt⟩

theorem numeral_plus_iff {digits : List Char} {position : Nat} :
    Numeral ('+' :: digits) position ↔ Digits digits position := by
  constructor
  · rintro (h | h)
    · have hplus := h.isDigit '+' List.mem_cons_self
      cases hplus
    · exact h
  · exact .signed

theorem numeral_iff_of_head {cs : List Char} {position : Nat} (hhead : ∀ rest, cs ≠ '+' :: rest) :
    Numeral cs position ↔ Digits cs position := by
  constructor
  · rintro (h | h)
    · exact h
    · exact absurd rfl (hhead _)
  · exact .unsigned

theorem index?_eq_some_iff {cs : List Char} {position : Nat} :
    index? cs = some position ↔ Numeral cs position := by
  rw [index?.eq_def]
  split
  · next digits => rw [numeral_plus_iff, digits_iff]
  · next hhead =>
      rw [numeral_iff_of_head (fun rest hcs => hhead rest hcs), digits_iff]

variable {rest cs : List Char} {segments : List Segment}

theorem scan_closing_append {after : List Char} (hafter : ∀ c ∈ after, isBlank c = true)
    (body rest : List Char) :
    scan (.closing body) (after ++ ']' :: rest) =
      (scan (.plain []) rest).map (.key (String.ofList body.reverse) :: ·) := by
  induction after with
  | nil => simp [scan_closing_cons, show isBlank ']' = false by decide]
  | cons c after ih =>
      obtain ⟨hc, hafter⟩ := List.forall_mem_cons.mp hafter
      rw [List.cons_append, scan_closing_cons, if_pos hc, ih hafter]

theorem exists_of_scan_closing {body : List Char} (h : scan (.closing body) cs = some segments) :
    ∃ after rest, cs = after ++ ']' :: rest ∧ ∀ c ∈ after, isBlank c = true := by
  induction cs with
  | nil => cases h
  | cons c cs ih =>
      rw [scan_closing_cons] at h
      split at h
      · next hc =>
          obtain ⟨after, rest, rfl, hafter⟩ := ih h
          exact ⟨c :: after, rest, rfl, List.forall_mem_cons.mpr ⟨hc, hafter⟩⟩
      · split at h
        · next hclose => exact ⟨[], cs, by rw [beq_iff_eq.mp hclose]; rfl, nofun⟩
        · cases h

theorem scan_quoted_append {quote : Char} {more : List Char} (hmore : quote ∉ more)
    (body rest : List Char) :
    scan (.quoted quote body) (more ++ quote :: rest) =
      scan (.closing (more.reverse ++ body)) rest := by
  induction more generalizing body with
  | nil => simp [scan_quoted_cons]
  | cons c more ih =>
      simp only [List.mem_cons, not_or] at hmore
      have hc : ¬ (c == quote) = true := by simpa using Ne.symm hmore.1
      rw [List.cons_append, scan_quoted_cons, if_neg hc, ih hmore.2, List.reverse_cons,
        List.append_assoc]
      rfl

theorem mem_of_scan_quoted {quote : Char} {body : List Char}
    (h : scan (.quoted quote body) cs = some segments) : quote ∈ cs := by
  induction cs generalizing body with
  | nil => cases h
  | cons c cs ih =>
      rw [scan_quoted_cons] at h
      split at h
      · next hc => exact List.mem_cons.mpr (.inl (beq_iff_eq.mp hc).symm)
      · exact List.mem_cons_of_mem c (ih h)

theorem scan_bare_append {more : List Char} (hmore : ']' ∉ more) (raw rest : List Char) :
    scan (.bare raw) (more ++ ']' :: rest) =
      (bareSegment? (more.reverse ++ raw)).bind fun segment =>
        (scan (.plain []) rest).map (segment :: ·) := by
  induction more generalizing raw with
  | nil => simp [scan_bare_cons]
  | cons c more ih =>
      simp only [List.mem_cons, not_or] at hmore
      have hc : ¬ (c == ']') = true := by simpa using Ne.symm hmore.1
      rw [List.cons_append, scan_bare_cons, if_neg hc, ih hmore.2, List.reverse_cons,
        List.append_assoc]
      rfl

theorem mem_of_scan_bare {raw : List Char} (h : scan (.bare raw) cs = some segments) :
    ']' ∈ cs := by
  induction cs generalizing raw with
  | nil => cases h
  | cons c cs ih =>
      rw [scan_bare_cons] at h
      split at h
      · next hc => exact List.mem_cons.mpr (.inl (beq_iff_eq.mp hc).symm)
      · exact List.mem_cons_of_mem c (ih h)

theorem scan_opened_append {before : List Char} (hbefore : ∀ c ∈ before, isBlank c = true)
    (cs : List Char) : scan .opened (before ++ cs) = scan .opened cs := by
  induction before with
  | nil => rfl
  | cons c before ih =>
      obtain ⟨hc, hbefore⟩ := List.forall_mem_cons.mp hbefore
      rw [List.cons_append, scan_opened_cons, if_pos hc, ih hbefore]

theorem scan_opened_quote {quote : Char} (hquote : isQuote quote = true) (cs : List Char) :
    scan .opened (quote :: cs) = scan (.quoted quote []) cs := by
  rw [scan_opened_cons, if_neg (by simp [isBlank_of_isQuote hquote]), if_pos hquote]

theorem scan_opened_bare {c : Char} (hblank : isBlank c = false) (hquote : isQuote c = false)
    (hclose : c ≠ ']') (cs : List Char) : scan .opened (c :: cs) = scan (.bare []) (c :: cs) := by
  have hc : ¬ (c == ']') = true := by simpa using hclose
  rw [scan_opened_cons, if_neg (by simp [hblank]), if_neg (by simp [hquote]), if_neg hc,
    scan_bare_cons, if_neg hc]

theorem plainSegments_nil : plainSegments [] = [] := rfl

theorem scan_bracket (cs : List Char) : scan (.plain []) ('[' :: cs) = scan .opened cs := by
  simp [scan_plain_cons, plainSegments_nil]

theorem scan_opened_number {raw : List Char} (hclose : ']' ∉ raw)
    (hhead : ∀ c ∈ (trimStart raw).head?, isQuote c = false) (rest : List Char) :
    scan .opened (raw ++ ']' :: rest) =
      (index? (trim raw)).bind fun position =>
        (scan (.plain []) rest).map (.index position :: ·) := by
  obtain ⟨before, hraw, hbefore⟩ := Text.exists_trimStart raw
  rw [hraw, List.mem_append, not_or] at hclose
  rw [hraw, List.append_assoc, scan_opened_append hbefore, ← hraw, ← Text.trim_trimStart]
  cases hstart : trimStart raw with
  | nil => rfl
  | cons c number =>
      rw [hstart] at hhead hclose
      have hc : c ≠ ']' := fun heq => hclose.2 (heq ▸ List.mem_cons_self)
      rw [List.cons_append, scan_opened_bare (Text.isBlank_head_trimStart hstart) (hhead c rfl) hc,
        ← List.cons_append, scan_bare_append hclose.2, List.append_nil, bareSegment?,
        List.reverse_reverse, Option.bind_map]
      rfl

theorem Group.scan_append {segment : Segment} (h : Group cs segment) (rest : List Char) :
    scan (.plain []) (cs ++ rest) = (scan (.plain []) rest).map (segment :: ·) := by
  cases h with
  | @quoted before body after quote hquote hbefore hbody hafter =>
      have hcs : '[' :: before ++ quote :: body ++ quote :: after ++ [']'] ++ rest =
          '[' :: (before ++ quote :: (body ++ quote :: (after ++ ']' :: rest))) := by simp
      rw [hcs, scan_bracket, scan_opened_append hbefore, scan_opened_quote hquote,
        scan_quoted_append hbody, scan_closing_append hafter, List.append_nil, List.reverse_reverse]
  | @bare raw position hclose hhead hposition =>
      have hcs : '[' :: raw ++ [']'] ++ rest = '[' :: (raw ++ ']' :: rest) := by simp
      rw [hcs, scan_bracket, scan_opened_number hclose hhead, index?_eq_some_iff.mpr hposition]
      rfl

/-- After an opening bracket, a scan that succeeds has met the rest of the brackets. -/
theorem exists_group_of_scan (h : scan .opened cs = some segments) :
    ∃ brackets segment rest, '[' :: cs = brackets ++ rest ∧ Group brackets segment := by
  obtain ⟨before, hcs, hbefore⟩ := Text.exists_trimStart cs
  cases hstart : trimStart cs with
  | nil =>
      rw [hcs, scan_opened_append hbefore, hstart] at h
      cases h
  | cons c following =>
      have hblank : isBlank c = false := Text.isBlank_head_trimStart hstart
      cases hquote : isQuote c with
      | true =>
          rw [hstart] at hcs
          rw [hcs, scan_opened_append hbefore, scan_opened_quote hquote] at h
          obtain ⟨body, tail, rfl, hbody⟩ := List.eq_append_cons_of_mem (mem_of_scan_quoted h)
          rw [scan_quoted_append hbody] at h
          obtain ⟨after, rest, rfl, hafter⟩ := exists_of_scan_closing h
          exact ⟨_, _, rest, by simp [hcs], .quoted hquote hbefore hbody hafter⟩
      | false =>
          have hmem : ']' ∈ cs := by
            by_cases hclose : c = ']'
            · rw [hcs, hstart, hclose]
              simp
            · rw [hcs, scan_opened_append hbefore, hstart,
                scan_opened_bare hblank hquote hclose] at h
              rw [hcs, hstart]
              exact List.mem_append_right _ (mem_of_scan_bare h)
          obtain ⟨raw, rest, rfl, hclose⟩ := List.eq_append_cons_of_mem hmem
          have hhead : ∀ d ∈ (trimStart raw).head?, isQuote d = false := by
            intro d hd
            rw [Text.trimStart_append_cons _ (by decide)] at hstart
            obtain ⟨tail, htail⟩ := List.head?_eq_some_iff.mp hd
            rw [htail, List.cons_append] at hstart
            rw [(List.cons.inj hstart).1, hquote]
          rw [scan_opened_number hclose hhead] at h
          obtain ⟨position, hposition, -⟩ := Option.bind_eq_some_iff.mp h
          exact ⟨_, _, rest, by simp, .bare hclose hhead (index?_eq_some_iff.mp hposition)⟩

theorem scan_plain_append {run : List Char} (hrun : ∀ c ∈ run, isPlain c = true)
    (before rest : List Char) :
    scan (.plain before) (run ++ rest) = scan (.plain (run.reverse ++ before)) rest := by
  induction run generalizing before with
  | nil => rfl
  | cons c run ih =>
      obtain ⟨hc, hrun⟩ := List.forall_mem_cons.mp hrun
      simp only [isPlain, Bool.and_eq_true, bne_iff_ne] at hc
      obtain ⟨⟨hdot, hopen⟩, hclose⟩ := hc
      rw [List.cons_append, scan_plain_cons]
      simp only [beq_iff_eq, hdot, hopen, hclose, if_false]
      rw [ih hrun, List.reverse_cons, List.append_assoc]
      rfl

theorem scan_plain_of_head (before : List Char) (hrest : ∀ c ∈ rest.head?, isPlain c = false) :
    scan (.plain before) rest =
      (scan (.plain []) rest).map (plainSegments before.reverse ++ ·) := by
  cases rest with
  | nil => simp [scan_plain_nil, plainSegments_nil]
  | cons c rest =>
      have hc : c = '.' ∨ c = '[' ∨ c = ']' := by
        have hplain := hrest c rfl
        simp only [isPlain] at hplain
        grind
      rcases hc with rfl | rfl | rfl
      · simp [scan_plain_cons, plainSegments_nil]
      · simp [scan_plain_cons, plainSegments_nil]
      · rfl

theorem Run.scan_append {run : List Char} (h : Run run rest) :
    scan (.plain []) (run ++ rest) = (scan (.plain []) rest).map (plainSegments run ++ ·) := by
  rw [scan_plain_append h.plain, scan_plain_of_head _ h.maximal, List.append_nil,
    List.reverse_reverse]

theorem scan_dot (cs : List Char) : scan (.plain []) ('.' :: cs) = scan (.plain []) cs := by
  simp [scan_plain_cons, plainSegments_nil]

theorem plainSegments_of_blank {run : List Char} (h : ∀ c ∈ run, isBlank c = true) :
    plainSegments run = [] := by
  rw [plainSegments, Text.trim_eq_nil_iff.mpr h]
  rfl

theorem plainSegments_of_name {run : List Char} (h : ∃ c ∈ run, isBlank c = false) :
    plainSegments run = [.key (String.ofList (trim run))] := by
  have hname : trim run ≠ [] := by
    intro hnil
    obtain ⟨c, hc, hfilled⟩ := h
    rw [Text.trim_eq_nil_iff.mp hnil c hc] at hfilled
    cases hfilled
  simp [plainSegments, hname]

theorem scan_of_written (h : Written cs segments) : scan (.plain []) cs = some segments := by
  induction h with
  | nil => rfl
  | dot _ ih => rw [scan_dot, ih]
  | group hgroup _ ih => rw [hgroup.scan_append, ih, Option.map_some]
  | blank hrun hblank _ ih =>
      rw [hrun.scan_append, ih, Option.map_some, plainSegments_of_blank hblank, List.nil_append]
  | name hrun hname _ ih =>
      rw [hrun.scan_append, ih, Option.map_some, plainSegments_of_name hname, List.singleton_append]

theorem exists_run {c : Char} (hc : isPlain c = true) (cs : List Char) :
    ∃ run rest, c :: cs = run ++ rest ∧ Run run rest := by
  refine ⟨(c :: cs).takeWhile isPlain, (c :: cs).dropWhile isPlain,
    List.takeWhile_append_dropWhile.symm, ?_, ?_, ?_⟩
  · simp [hc]
  · exact fun d hd => List.all_eq_true.mp List.all_takeWhile d hd
  · intro d hd
    have hstop := List.head?_dropWhile_not isPlain (c :: cs)
    rwa [Option.mem_def.mp hd] at hstop

theorem length_lt_of_append {front back whole : List Char} (hne : front ≠ [])
    (h : whole = front ++ back) : back.length < whole.length := by
  have hpos := List.length_pos_iff.mpr hne
  rw [h, List.length_append]
  omega

theorem Group.ne_nil {segment : Segment} (h : Group cs segment) : cs ≠ [] := by
  cases h <;> simp

theorem written_of_scan {cs : List Char} {segments : List Segment}
    (h : scan (.plain []) cs = some segments) : Written cs segments := by
  cases cs with
  | nil =>
      cases h
      exact .nil
  | cons c cs =>
      by_cases hdot : c = '.'
      · subst hdot
        rw [scan_dot] at h
        exact .dot (written_of_scan h)
      by_cases hopen : c = '['
      · subst hopen
        have hopened := h
        rw [scan_bracket] at hopened
        obtain ⟨brackets, segment, rest, hcs, hgroup⟩ := exists_group_of_scan hopened
        rw [hcs, hgroup.scan_append] at h
        obtain ⟨others, hrest, rfl⟩ := Option.map_eq_some_iff.mp h
        have hshorter := length_lt_of_append hgroup.ne_nil hcs
        rw [hcs]
        exact .group hgroup (written_of_scan hrest)
      by_cases hclose : c = ']'
      · subst hclose
        cases h
      have hplain : isPlain c = true := by simp [isPlain, hdot, hopen, hclose]
      obtain ⟨run, rest, hcs, hrun⟩ := exists_run hplain cs
      rw [hcs, hrun.scan_append] at h
      obtain ⟨others, hrest, rfl⟩ := Option.map_eq_some_iff.mp h
      have hshorter := length_lt_of_append hrun.ne_nil hcs
      have hwritten := written_of_scan hrest
      rw [hcs]
      by_cases hblank : ∀ d ∈ run, isBlank d = true
      · rw [plainSegments_of_blank hblank]
        exact .blank hrun hblank hwritten
      · have hname : ∃ d ∈ run, isBlank d = false := by simpa using hblank
        rw [plainSegments_of_name hname]
        exact .name hrun hname hwritten
termination_by cs.length

/-- A path has segments exactly if the grammar writes it, and then it has those that the grammar
writes. -/
theorem segments?_eq_some_iff {path : String} {segments : List Segment} :
    segments? path = some segments ↔ Written path.toList segments :=
  ⟨written_of_scan, scan_of_written⟩

end FilingChecklist.Path
