/-!
Entries under text keys, as in a catalog row or an attribute map. The entries stand in ascending
order of their keys, character by character, and each key stands once; `insert` and `erase` keep
both.
-/

namespace FilingChecklist

/-- Entries under text keys. -/
abbrev Fields (α : Type) := List (String × α)

namespace Fields

variable {α : Type}

def get? (fields : Fields α) (key : String) : Option α :=
  match fields with
  | [] => none
  | (name, value) :: rest => if name = key then some value else get? rest key

def insert (fields : Fields α) (key : String) (value : α) : Fields α :=
  match fields with
  | [] => [(key, value)]
  | (name, old) :: rest =>
      if key = name then (key, value) :: rest
      else if key < name then (key, value) :: (name, old) :: rest
      else (name, old) :: insert rest key value

def erase (fields : Fields α) (keys : List String) : Fields α :=
  fields.filter fun entry => !keys.contains entry.1

/-- The entries in key order; of two under one key the later one counts. -/
def ofList (entries : List (String × α)) : Fields α :=
  entries.foldl (fun fields entry => insert fields entry.1 entry.2) []

/-- The first of the named fields that `read` accepts. -/
def first? {β : Type} (fields : Fields α) (names : List String) (read : α → Option β) :
    Option β :=
  names.findSome? fun name => (get? fields name).bind read

/-- The keys stand in ascending order, each once. -/
def Ordered (fields : Fields α) : Prop :=
  fields.Pairwise fun left right => left.1 < right.1

@[simp] theorem get?_nil (key : String) : get? ([] : Fields α) key = none := rfl

theorem get?_cons (name key : String) (value : α) (rest : Fields α) :
    get? ((name, value) :: rest) key = if name = key then some value else get? rest key := rfl

theorem get?_insert (fields : Fields α) (key other : String) (value : α) :
    get? (insert fields key value) other =
      if key = other then some value else get? fields other := by
  induction fields with
  | nil => rfl
  | cons entry rest ih =>
      obtain ⟨name, old⟩ := entry
      rw [insert]
      split
      · next hkey =>
          subst hkey
          simp only [get?_cons]
          split <;> rfl
      · next hkey =>
          split
          · simp only [get?_cons]
          · simp only [get?_cons, ih]
            by_cases hname : name = other
            · subst hname
              simp [hkey]
            · simp [hname]

theorem get?_erase (fields : Fields α) (keys : List String) (key : String) :
    get? (erase fields keys) key = if keys.contains key then none else get? fields key := by
  induction fields with
  | nil => simp [erase]
  | cons entry rest ih =>
      obtain ⟨name, value⟩ := entry
      unfold erase at ih ⊢
      by_cases hname : keys.contains name = true
      · rw [List.filter_cons_of_neg (by simpa using hname), ih]
        by_cases hkey : keys.contains key = true
        · rw [if_pos hkey, if_pos hkey]
        · have hne : name ≠ key := fun h => hkey (h ▸ hname)
          rw [if_neg hkey, if_neg hkey, get?_cons, if_neg hne]
      · rw [List.filter_cons_of_pos (by simpa using hname), get?_cons, get?_cons, ih]
        by_cases hne : name = key
        · subst hne
          simp only [if_true]
          rw [if_neg hname]
        · rw [if_neg hne, if_neg hne]

theorem mem_insert {fields : Fields α} {key : String} {value : α} {entry : String × α}
    (h : entry ∈ insert fields key value) : entry = (key, value) ∨ entry ∈ fields := by
  induction fields with
  | nil => exact .inl (List.mem_singleton.mp h)
  | cons first rest ih =>
      obtain ⟨name, old⟩ := first
      rw [insert] at h
      split at h
      · exact (List.mem_cons.mp h).imp id (List.mem_cons_of_mem _)
      · split at h
        · exact List.mem_cons.mp h
        · rcases List.mem_cons.mp h with h | h
          · exact .inr (List.mem_cons.mpr (.inl h))
          · exact (ih h).imp id (List.mem_cons_of_mem _)

theorem Ordered.insert {fields : Fields α} (h : Ordered fields) (key : String) (value : α) :
    Ordered (fields.insert key value) := by
  induction fields with
  | nil => exact List.pairwise_singleton _ _
  | cons first rest ih =>
      obtain ⟨name, old⟩ := first
      obtain ⟨hfirst, hrest⟩ := List.pairwise_cons.mp h
      rw [Fields.insert]
      split
      · next hkey =>
          subst hkey
          exact List.pairwise_cons.mpr ⟨hfirst, hrest⟩
      · next hkey =>
          split
          · next hlt =>
              refine List.pairwise_cons.mpr ⟨?_, h⟩
              intro entry hentry
              rcases List.mem_cons.mp hentry with rfl | hentry
              · exact hlt
              · exact String.lt_trans hlt (hfirst entry hentry)
          · next hlt =>
              refine List.pairwise_cons.mpr ⟨?_, ih hrest⟩
              intro entry hentry
              rcases mem_insert hentry with rfl | hentry
              · exact Std.lt_of_le_of_ne (String.not_lt.mp hlt) (Ne.symm hkey)
              · exact hfirst entry hentry

theorem Ordered.erase {fields : Fields α} (h : Ordered fields) (keys : List String) :
    Ordered (fields.erase keys) :=
  List.Pairwise.filter _ h

theorem ordered_ofList (entries : List (String × α)) : Ordered (ofList entries) := by
  unfold ofList
  generalize hstart : ([] : Fields α) = start
  have h : Ordered start := hstart ▸ List.Pairwise.nil
  clear hstart
  induction entries generalizing start with
  | nil => exact h
  | cons entry entries ih => exact ih _ (h.insert entry.1 entry.2)

end Fields

end FilingChecklist
