/-!
Byte positions in a text. A text can be cut only at its start, at its end and between two of its
characters.
-/

namespace FilingChecklist.Text

def size (cs : List Char) : Nat :=
  (String.ofList cs).utf8ByteSize

/-- What stands before a byte position and what follows it. There is neither for a position beyond
the end of the text or inside a character. -/
def cut? : List Char → Nat → Option (List Char × List Char)
  | cs, 0 => some ([], cs)
  | [], _ + 1 => none
  | c :: cs, position + 1 =>
      if c.utf8Size ≤ position + 1 then
        (cut? cs (position + 1 - c.utf8Size)).map fun parts => (c :: parts.1, parts.2)
      else none

/-- The byte position of the first character that satisfies `p`. -/
def position? (p : Char → Bool) : List Char → Option Nat
  | [] => none
  | c :: cs => if p c then some 0 else (position? p cs).map (c.utf8Size + ·)

theorem size_cons (c : Char) (cs : List Char) : size (c :: cs) = c.utf8Size + size cs := by
  rw [size, String.ofList_cons, String.utf8ByteSize_append, String.utf8ByteSize_singleton, size]

theorem size_append (front back : List Char) : size (front ++ back) = size front + size back := by
  rw [size, String.ofList_append, String.utf8ByteSize_append, size, size]

theorem cut?_cons (c : Char) (cs : List Char) (position : Nat) :
    cut? (c :: cs) (c.utf8Size + position) =
      (cut? cs position).map fun parts => (c :: parts.1, parts.2) := by
  obtain ⟨n, hn⟩ := Nat.exists_eq_add_of_lt c.utf8Size_pos
  rw [show c.utf8Size + position = (n + position) + 1 by omega, cut?, if_pos (by omega),
    show n + position + 1 - c.utf8Size = position by omega]

theorem cut?_append (front back : List Char) :
    cut? (front ++ back) (size front) = some (front, back) := by
  induction front with
  | nil => cases back <;> rfl
  | cons c front ih => rw [List.cons_append, size_cons, cut?_cons, ih, Option.map_some]

theorem eq_append_of_cut? {cs front back : List Char} {position : Nat}
    (h : cut? cs position = some (front, back)) : cs = front ++ back ∧ position = size front := by
  induction cs generalizing front position with
  | nil =>
      cases position with
      | zero =>
          cases h
          exact ⟨rfl, rfl⟩
      | succ n => cases h
  | cons c cs ih =>
      cases position with
      | zero =>
          cases h
          exact ⟨rfl, rfl⟩
      | succ n =>
          obtain ⟨hle, hmap⟩ := Option.ite_none_right_eq_some.mp h
          obtain ⟨parts, hparts, hcons⟩ := Option.map_eq_some_iff.mp hmap
          obtain ⟨rfl, rfl⟩ := Prod.mk.inj hcons
          obtain ⟨rfl, hposition⟩ := @ih parts.1 _ hparts
          rw [size_cons]
          exact ⟨rfl, by omega⟩

/-- One can cut exactly at the positions that are valid in the string. -/
theorem isSome_cut?_iff (s : String) (position : Nat) :
    (cut? s.toList position).isSome = true ↔ String.Pos.Raw.IsValid s ⟨position⟩ := by
  rw [String.Pos.Raw.isValid_iff_exists_append]
  constructor
  · intro h
    obtain ⟨⟨front, back⟩, hcut⟩ := Option.isSome_iff_exists.mp h
    obtain ⟨hs, hposition⟩ := eq_append_of_cut? hcut
    refine ⟨String.ofList front, String.ofList back, ?_, String.Pos.Raw.ext hposition⟩
    rw [← String.ofList_append, ← hs, String.ofList_toList]
  · rintro ⟨front, back, rfl, hposition⟩
    have hsize : position = size front.toList := by
      rw [size, String.ofList_toList]
      exact congrArg String.Pos.Raw.byteIdx hposition
    rw [hsize, String.toList_append, cut?_append]
    rfl

theorem cut?_takeWhile (p : Char → Bool) (cs : List Char) :
    cut? cs (size (cs.takeWhile p)) = some (cs.takeWhile p, cs.dropWhile p) := by
  have hcut := cut?_append (cs.takeWhile p) (cs.dropWhile p)
  rwa [List.takeWhile_append_dropWhile] at hcut

theorem cut?_behind {p : Char → Bool} {cs rest : List Char} {c : Char}
    (h : cs.dropWhile p = c :: rest) :
    cut? cs (size (cs.takeWhile p) + c.utf8Size) = some (cs.takeWhile p ++ [c], rest) := by
  have hcut := cut?_append (cs.takeWhile p ++ [c]) rest
  rwa [List.append_assoc, List.singleton_append, ← h, List.takeWhile_append_dropWhile, size_append,
    size_cons] at hcut

theorem position?_of_dropWhile_nil {p : Char → Bool} {cs : List Char}
    (h : cs.dropWhile (!p ·) = []) : position? p cs = none := by
  induction cs with
  | nil => rfl
  | cons c cs ih =>
      rw [List.dropWhile_cons] at h
      split at h
      · next hc => rw [position?, if_neg (by simpa using hc), ih h, Option.map_none]
      · cases h

theorem position?_of_dropWhile_cons {p : Char → Bool} {cs rest : List Char} {c : Char}
    (h : cs.dropWhile (!p ·) = c :: rest) :
    position? p cs = some (size (cs.takeWhile (!p ·))) := by
  induction cs with
  | nil => cases h
  | cons d cs ih =>
      rw [List.dropWhile_cons] at h
      rw [List.takeWhile_cons]
      split at h
      · next hd =>
          rw [position?, if_neg (by simpa using hd), ih h, if_pos hd, size_cons, Option.map_some]
      · next hd => rw [position?, if_pos (by simpa using hd), if_neg hd]; rfl

end FilingChecklist.Text
