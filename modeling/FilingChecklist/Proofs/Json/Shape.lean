import FilingChecklist.Proofs.Json.Bare

/-!
Lists, objects and single values as texts of the exchange format. The first character tells which of
them a text is: the scanner turns it into the first token, and the machine never loses sight of the
value with which it began.
-/

namespace FilingChecklist.Json

inductive Shape
  | list
  | object
  | single
  deriving DecidableEq

def shape : Json → Shape
  | .array _ => .list
  | .object _ => .object
  | _ => .single

namespace Token

def shape : Token → Shape
  | .openArray => .list
  | .openObject => .object
  | .scalar v => v.shape
  | _ => .single

/-- The shape of a text that begins with this character. -/
def shapeOf (c : Char) : Shape :=
  if c == '[' then .list else if c == '\x7b' then .object else .single

theorem shape_mark? (c : Char) : ((mark? c).map shape).getD .single = shapeOf c := by
  by_cases hlist : c = '['
  · subst hlist
    rfl
  · by_cases hobject : c = '\x7b'
    · subst hobject
      rfl
    · simp only [mark?, shapeOf, beq_iff_eq, hlist, hobject, if_false]
      repeat' split
      all_goals rfl

theorem shape_of_bareScalar? {cs : List Char} {v : Json} (h : bareScalar? cs = some v) :
    v.shape = .single := by
  simp only [bareScalar?] at h
  repeat' split at h
  · cases h; rfl
  · cases h; rfl
  · cases h; rfl
  · obtain ⟨n, -, rfl⟩ := Option.map_eq_some_iff.mp h
    rfl

theorem closeBare?_eq_some {seen : List Char} {tokens closed : List Token}
    (h : closeBare? seen tokens = some closed) :
    ∃ v, v.shape = .single ∧ closed = .scalar v :: tokens := by
  obtain ⟨v, hv, rfl⟩ := Option.map_eq_some_iff.mp h
  exact ⟨v, shape_of_bareScalar? hv, rfl⟩

theorem suffix_stepBetween (tokens : List Token) (c : Char) :
    tokens <:+ (stepBetween tokens c).tokens := by
  rw [stepBetween]
  split
  · exact List.suffix_refl tokens
  · split
    · exact List.suffix_refl tokens
    · split
      · exact List.suffix_cons _ tokens
      · exact List.suffix_refl tokens

theorem suffix_of_step {p q : Progress} {c : Char} (h : step p c = some q) :
    p.tokens <:+ q.tokens := by
  obtain ⟨scan, tokens⟩ := p
  cases scan with
  | between =>
      cases h
      exact suffix_stepBetween tokens c
  | bare seen =>
      cases hc : endsBare c with
      | true =>
          rw [step_bare_of_endsBare hc] at h
          obtain ⟨closed, hclosed, rfl⟩ := Option.map_eq_some_iff.mp h
          obtain ⟨v, -, rfl⟩ := closeBare?_eq_some hclosed
          exact (List.suffix_cons _ tokens).trans (suffix_stepBetween _ c)
      | false =>
          rw [step_bare hc] at h
          cases h
          exact List.suffix_refl tokens
  | quoted seen escaped =>
      cases escaped with
      | true =>
          cases h
          exact List.suffix_refl tokens
      | false =>
          simp only [step] at h
          split at h
          · obtain ⟨s, -, rfl⟩ := Option.map_eq_some_iff.mp h
            exact List.suffix_cons _ tokens
          · cases h
            exact List.suffix_refl tokens

/-- The first token has this shape, or it is not complete yet and will be a scalar. -/
def Begins (first : Shape) (p : Progress) : Prop :=
  (∃ token, p.tokens.getLast? = some token ∧ token.shape = first) ∨
    p.tokens = [] ∧ p.scan ≠ .between ∧ first = .single

variable {first : Shape}

theorem begins_stepBetween {c : Char} (hc : isSpace c = false) :
    Begins (shapeOf c) (stepBetween [] c) := by
  have hshape := shape_mark? c
  simp only [stepBetween, hc, Bool.false_eq_true, if_false]
  split
  · next hquote =>
      rw [eq_of_beq hquote]
      exact .inr ⟨rfl, by simp, rfl⟩
  · cases hmark : mark? c with
    | some mark =>
        rw [hmark] at hshape
        exact .inl ⟨mark, rfl, hshape⟩
    | none =>
        rw [hmark] at hshape
        exact .inr ⟨rfl, by simp, hshape.symm⟩

theorem begins_of_suffix {v : Json} (hv : v.shape = .single) {p : Progress}
    (hp : [.scalar v] <:+ p.tokens) : Begins .single p := by
  obtain ⟨later, hlater⟩ := hp
  exact .inl ⟨.scalar v, by rw [← hlater, List.getLast?_concat], hv⟩

theorem Begins.step {p q : Progress} {c : Char} (hp : Begins first p)
    (h : Token.step p c = some q) : Begins first q := by
  rcases hp with ⟨token, htoken, hshape⟩ | ⟨htokens, hscan, rfl⟩
  · obtain ⟨later, hlater⟩ := suffix_of_step h
    exact .inl ⟨token, by rw [← hlater, List.getLast?_append, htoken]; rfl, hshape⟩
  · obtain ⟨scan, tokens⟩ := p
    cases htokens
    cases scan with
    | between => exact absurd rfl hscan
    | bare seen =>
        cases hc : endsBare c with
        | true =>
            rw [step_bare_of_endsBare hc] at h
            obtain ⟨closed, hclosed, rfl⟩ := Option.map_eq_some_iff.mp h
            obtain ⟨v, hv, rfl⟩ := closeBare?_eq_some hclosed
            exact begins_of_suffix hv (suffix_stepBetween [.scalar v] c)
        | false =>
            rw [step_bare hc] at h
            cases h
            exact .inr ⟨rfl, by simp, rfl⟩
    | quoted seen escaped =>
        cases escaped with
        | true =>
            cases h
            exact .inr ⟨rfl, by simp, rfl⟩
        | false =>
            simp only [Token.step] at h
            split at h
            · obtain ⟨s, -, rfl⟩ := Option.map_eq_some_iff.mp h
              exact .inl ⟨_, rfl, rfl⟩
            · cases h
              exact .inr ⟨rfl, by simp, rfl⟩

theorem Begins.run {cs : List Char} {p q : Progress} (hp : Begins first p)
    (h : cs.foldlM Token.step p = some q) : Begins first q := by
  induction cs generalizing p with
  | nil =>
      cases h
      exact hp
  | cons c cs ih =>
      rw [List.foldlM_cons] at h
      obtain ⟨next, hnext, hrest⟩ := Option.bind_eq_some_iff.mp h
      exact ih (hp.step hnext) hrest

theorem Begins.finish {p : Progress} {tokens : List Token} (hp : Begins first p)
    (h : Token.finish p = some tokens) :
    ∃ token rest, tokens = token :: rest ∧ token.shape = first := by
  have hhead : ∃ token, tokens.head? = some token ∧ token.shape = first := by
    obtain ⟨scan, before⟩ := p
    cases scan with
    | between =>
        cases h
        rcases hp with ⟨token, htoken, hshape⟩ | ⟨-, hscan, -⟩
        · exact ⟨token, by rwa [List.head?_reverse], hshape⟩
        · exact absurd rfl hscan
    | bare seen =>
        obtain ⟨closed, hclosed, rfl⟩ := Option.map_eq_some_iff.mp h
        obtain ⟨v, hv, rfl⟩ := closeBare?_eq_some hclosed
        rw [List.head?_reverse, List.getLast?_cons]
        rcases hp with ⟨token, htoken, hshape⟩ | ⟨hbefore, -, rfl⟩
        · change before.getLast? = some token at htoken
          exact ⟨token, by rw [htoken]; rfl, hshape⟩
        · change before = [] at hbefore
          exact ⟨.scalar v, by rw [hbefore]; rfl, hv⟩
    | quoted seen escaped => cases h
  obtain ⟨token, htoken, hshape⟩ := hhead
  obtain ⟨rest, hrest⟩ := List.head?_eq_some_iff.mp htoken
  exact ⟨token, rest, hrest, hshape⟩

theorem ofText?_cons {c : Char} (hc : isSpace c = false) {cs : List Char} {tokens : List Token}
    (h : ofText? (c :: cs) = some tokens) :
    ∃ token rest, tokens = token :: rest ∧ token.shape = shapeOf c := by
  obtain ⟨last, hlast, hfinish⟩ := Option.bind_eq_some_iff.mp h
  exact ((begins_stepBetween hc).run hlast).finish hfinish

end Token

def Frame.shape : Frame → Shape
  | .array _ => .list
  | .object _ _ => .object

namespace Reading

/-- The shape of what is open outermost, or of `inner` if nothing is open around it. -/
def outermost (stack : List Frame) (inner : Shape) : Shape :=
  match stack with
  | [] => inner
  | frame :: stack => outermost stack frame.shape

def shape : Reading → Shape
  | .value stack => outermost stack .single
  | .item stack => outermost stack .list
  | .field stack _ _ => outermost stack .object
  | .colon stack _ _ => outermost stack .object
  | .complete stack v => outermost stack v.shape

/-- The machine is inside a value or behind one. -/
def IsBegun (reading : Reading) : Prop :=
  reading ≠ .value []

variable {limit : Nat} {stack : List Frame} {token : Token} {reading next : Reading}

theorem shape_begin (h : begin limit stack token = some next) :
    next.IsBegun ∧ next.shape = outermost stack token.shape := by
  cases token with
  | scalar v =>
      cases h
      exact ⟨nofun, rfl⟩
  | openArray =>
      obtain ⟨-, hnext⟩ := Option.ite_none_right_eq_some.mp h
      cases hnext
      exact ⟨nofun, rfl⟩
  | openObject =>
      obtain ⟨-, hnext⟩ := Option.ite_none_right_eq_some.mp h
      cases hnext
      exact ⟨nofun, rfl⟩
  | _ => cases h

theorem shape_resume {v : Json} (h : resume v stack token = some next) :
    next.IsBegun ∧ next.shape = outermost stack v.shape := by
  cases stack with
  | nil => cases h
  | cons frame stack =>
      cases frame with
      | array items =>
          cases token with
          | comma =>
              cases h
              exact ⟨nofun, rfl⟩
          | closeArray =>
              cases h
              exact ⟨nofun, rfl⟩
          | _ => cases h
      | object fields name =>
          cases token with
          | comma =>
              cases h
              exact ⟨nofun, rfl⟩
          | closeObject =>
              cases h
              exact ⟨nofun, rfl⟩
          | _ => cases h

theorem shape_step (hreading : reading.IsBegun) (h : step limit reading token = some next) :
    next.IsBegun ∧ next.shape = reading.shape := by
  cases reading with
  | value stack =>
      cases stack with
      | nil => exact absurd rfl hreading
      | cons frame stack => exact shape_begin h
  | item stack =>
      cases token with
      | closeArray =>
          cases h
          exact ⟨nofun, rfl⟩
      | scalar v => exact @shape_begin limit (.array [] :: stack) (.scalar v) next h
      | openArray => exact @shape_begin limit (.array [] :: stack) .openArray next h
      | openObject => exact @shape_begin limit (.array [] :: stack) .openObject next h
      | _ => cases h
  | field stack fields first =>
      cases token with
      | closeObject =>
          cases first with
          | true =>
              cases h
              exact ⟨nofun, rfl⟩
          | false => cases h
      | scalar v =>
          cases v with
          | string name =>
              cases first <;> (cases h; exact ⟨nofun, rfl⟩)
          | _ => cases first <;> cases h
      | _ => cases first <;> cases h
  | colon stack fields name =>
      cases token with
      | colon =>
          cases h
          exact ⟨nofun, rfl⟩
      | _ => cases h
  | complete stack v => exact shape_resume h

theorem shape_run {tokens : List Token} (hreading : reading.IsBegun)
    (h : tokens.foldlM (step limit) reading = some next) : next.shape = reading.shape := by
  induction tokens generalizing reading with
  | nil =>
      cases h
      rfl
  | cons token tokens ih =>
      rw [List.foldlM_cons] at h
      obtain ⟨between, hbetween, hrest⟩ := Option.bind_eq_some_iff.mp h
      obtain ⟨hbegun, hshape⟩ := shape_step hreading hbetween
      exact (ih hbegun hrest).trans hshape

theorem shape_result? {v : Json} (h : reading.result? = some v) : v.shape = reading.shape := by
  cases reading with
  | complete stack w =>
      cases stack with
      | nil =>
          cases h
          rfl
      | cons frame stack => cases h
  | _ => cases h

end Reading

theorem shape_of_readWithin? {limit : Nat} {c : Char} {cs : List Char} {v : Json}
    (hc : Token.isSpace c = false) (h : readWithin? limit (c :: cs) = some v) :
    v.shape = Token.shapeOf c := by
  obtain ⟨tokens, htokens, hread⟩ := Option.bind_eq_some_iff.mp h
  obtain ⟨last, hlast, hresult⟩ := Option.bind_eq_some_iff.mp hread
  obtain ⟨token, rest, rfl, hshape⟩ := Token.ofText?_cons hc htokens
  rw [List.foldlM_cons] at hlast
  obtain ⟨begun, hbegun, hrest⟩ := Option.bind_eq_some_iff.mp hlast
  obtain ⟨hinside, hfirst⟩ := Reading.shape_begin hbegun
  calc
    v.shape = last.shape := Reading.shape_result? hresult
    _ = begun.shape := Reading.shape_run hinside hrest
    _ = token.shape := hfirst
    _ = Token.shapeOf c := hshape

/-- The first character of a text that reads as data tells whether it is a list, an object or
neither. -/
theorem shape_of_ofText? {s : String} {c : Char} {v : Json} (hhead : s.toList.head? = some c)
    (hc : Token.isSpace c = false) (h : ofText? s = some v) : v.shape = Token.shapeOf c := by
  obtain ⟨cs, hcs⟩ := List.head?_eq_some_iff.mp hhead
  rw [ofText?, hcs] at h
  exact shape_of_readWithin? hc h

end FilingChecklist.Json
