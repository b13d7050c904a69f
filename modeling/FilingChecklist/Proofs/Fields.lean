import Mathlib.Data.List.Nodup
import FilingChecklist.Json.Basic

namespace FilingChecklist.Fields

variable {α β : Type} {fields : Fields α} {names : List String}

def keys (fields : Fields α) : List String :=
  fields.map Prod.fst

@[simp] theorem keys_nil : keys ([] : Fields α) = [] := rfl

@[simp] theorem keys_cons (entry : String × α) (rest : Fields α) :
    keys (entry :: rest) = entry.1 :: keys rest := rfl

@[simp] theorem keys_append (fields others : Fields α) :
    keys (fields ++ others) = keys fields ++ keys others := List.map_append

theorem get?_append (fields others : Fields α) (key : String) :
    get? (fields ++ others) key = (get? fields key).or (get? others key) := by
  induction fields with
  | nil => rfl
  | cons entry rest ih =>
      rw [List.cons_append, get?_cons, get?_cons, ih]
      split <;> rfl

theorem get?_eq_none_iff {key : String} : get? fields key = none ↔ key ∉ keys fields := by
  induction fields with
  | nil => simp
  | cons entry rest ih =>
      rw [get?_cons, keys_cons, List.mem_cons, not_or, ← ih]
      split
      · next heq => simp [heq]
      · next hne => exact (and_iff_right (Ne.symm hne)).symm

theorem get?_eq_some_iff (hnodup : (keys fields).Nodup) {key : String} {value : α} :
    get? fields key = some value ↔ (key, value) ∈ fields := by
  induction fields with
  | nil => simp
  | cons entry rest ih =>
      obtain ⟨name, old⟩ := entry
      obtain ⟨hfresh, hrest⟩ := List.nodup_cons.mp hnodup
      rw [get?_cons, List.mem_cons, Prod.mk.injEq]
      split
      · next heq =>
          subst heq
          have habsent : (name, value) ∉ rest := fun h => hfresh (List.mem_map.mpr ⟨_, h, rfl⟩)
          simp [habsent, eq_comm]
      · next hne =>
          rw [ih hrest]
          simp [Ne.symm hne]

instance (fields : Fields α) : Decidable (Ordered fields) :=
  inferInstanceAs (Decidable (fields.Pairwise fun left right => left.1 < right.1))

theorem Ordered.nodup_keys (h : Ordered fields) : (keys fields).Nodup :=
  List.pairwise_map.mpr (List.Pairwise.imp (fun hlt => String.ne_of_lt hlt) h)

theorem Ordered.ext {others : Fields α} (h : Ordered fields) (h' : Ordered others)
    (hget : ∀ key, get? fields key = get? others key) : fields = others := by
  have hperm : fields.Perm others := by
    refine (List.perm_ext_iff_of_nodup h.nodup_keys.of_map h'.nodup_keys.of_map).mpr ?_
    rintro ⟨key, value⟩
    rw [← get?_eq_some_iff h.nodup_keys, ← get?_eq_some_iff h'.nodup_keys, hget]
  refine List.Perm.eq_of_pairwise ?_ h h' hperm
  intro entry other _ _ hlt hgt
  exact absurd hgt (String.lt_asymm hlt)

theorem get?_of_perm {others : Fields α} (hnodup : (keys fields).Nodup) (h : fields.Perm others)
    (key : String) : get? others key = get? fields key := by
  have hothers : (keys others).Nodup := (h.map Prod.fst).nodup_iff.mp hnodup
  apply Option.ext
  intro value
  rw [get?_eq_some_iff hnodup, get?_eq_some_iff hothers, h.mem_iff]

theorem get?_reverse {entries : List (String × α)} (hnodup : (keys entries).Nodup)
    (key : String) : get? entries.reverse key = get? entries key :=
  get?_of_perm hnodup (List.reverse_perm entries).symm key

theorem get?_foldl_insert (entries : List (String × α)) (start : Fields α) (key : String) :
    get? (entries.foldl (fun fields entry => insert fields entry.1 entry.2) start) key =
      (get? entries.reverse key).or (get? start key) := by
  induction entries generalizing start with
  | nil => rfl
  | cons entry rest ih =>
      rw [List.foldl_cons, ih, get?_insert, List.reverse_cons, get?_append, Option.or_assoc,
        get?_cons]
      split <;> rfl

theorem get?_ofList_reverse (entries : List (String × α)) (key : String) :
    get? (ofList entries) key = get? entries.reverse key := by
  rw [ofList, get?_foldl_insert, get?_nil, Option.or_none]

theorem get?_ofList {entries : List (String × α)} (hnodup : (keys entries).Nodup)
    (key : String) : get? (ofList entries) key = get? entries key := by
  rw [get?_ofList_reverse, get?_reverse hnodup]

theorem perm_ofList {entries : List (String × α)} (hnodup : (keys entries).Nodup) :
    entries.Perm (ofList entries) := by
  have hordered := (ordered_ofList entries).nodup_keys
  refine (List.perm_ext_iff_of_nodup hnodup.of_map hordered.of_map).mpr ?_
  rintro ⟨key, value⟩
  rw [← get?_eq_some_iff hnodup, ← get?_eq_some_iff hordered, get?_ofList hnodup]

theorem Ordered.ofList_eq {entries : List (String × α)} (h : Ordered entries) :
    ofList entries = entries :=
  Ordered.ext (ordered_ofList entries) h (get?_ofList h.nodup_keys)

/-- Read from the end, ordered entries give what the one with the greatest key gives. -/
theorem Ordered.findSome?_reverse_eq_some_iff (h : Ordered fields) {read : String × α → Option β}
    {b : β} :
    fields.reverse.findSome? read = some b ↔
      ∃ entry ∈ fields, read entry = some b ∧
        ∀ other ∈ fields, (read other).isSome → other.1 ≤ entry.1 := by
  rw [List.findSome?_eq_some_iff]
  constructor
  · rintro ⟨after, entry, before, hsplit, hread, hafter⟩
    rw [List.reverse_eq_append_iff, List.reverse_cons, List.append_assoc,
      List.singleton_append] at hsplit
    subst hsplit
    obtain ⟨-, -, hbefore⟩ := List.pairwise_append.mp h
    refine ⟨entry, by simp, hread, fun other hother hsome => ?_⟩
    rcases List.mem_append.mp hother with hother | hother
    · exact String.not_lt.mp (String.lt_asymm (hbefore other hother entry List.mem_cons_self))
    · rcases List.mem_cons.mp hother with rfl | hother
      · exact String.le_refl _
      · rw [hafter other (List.mem_reverse.mp hother)] at hsome
        cases hsome
  · rintro ⟨entry, hmem, hread, hgreatest⟩
    obtain ⟨before, after, rfl⟩ := List.append_of_mem hmem
    refine ⟨after.reverse, entry, before.reverse, by simp, hread, fun other hother => ?_⟩
    obtain ⟨-, hentry, -⟩ := List.pairwise_append.mp h
    have hafter := List.mem_reverse.mp hother
    have hlt := (List.pairwise_cons.mp hentry).1 other hafter
    rw [← Option.not_isSome_iff_eq_none]
    intro hsome
    have hle := hgreatest other (by simp [hafter]) hsome
    exact String.not_lt.mpr hle hlt

theorem get?_filter_of_mem {key : String} (hkey : key ∈ names) (fields : Fields α) :
    get? (fields.filter fun entry => names.contains entry.1) key = get? fields key := by
  induction fields with
  | nil => rfl
  | cons entry rest ih =>
      obtain ⟨name, value⟩ := entry
      rw [get?_cons, List.filter_cons]
      by_cases hname : name = key
      · rw [if_pos (List.contains_iff_mem.mpr (hname ▸ hkey)), get?_cons, if_pos hname,
          if_pos hname]
      · rw [if_neg hname]
        split
        · rw [get?_cons, if_neg hname, ih]
        · exact ih

theorem get?_filterMap (read : β → Option (String × α)) (items : List β) (key : String) :
    get? (items.filterMap read) key =
      items.findSome? fun item => (read item).bind fun entry =>
        if entry.1 = key then some entry.2 else none := by
  induction items with
  | nil => rfl
  | cons item items ih =>
      rw [List.filterMap_cons, List.findSome?_cons]
      cases read item with
      | none => exact ih
      | some entry =>
          rw [Option.bind_some, get?_cons, ih]
          split <;> rfl

/-- `value` stands under `name`, and it is the first usable value under one of `names`. -/
def First (fields : Fields α) (names : List String) (usable : α → Prop) (name : String)
    (value : α) : Prop :=
  ∃ before after, names = before ++ name :: after ∧ get? fields name = some value ∧
    usable value ∧
    ∀ earlier ∈ before, ∀ other, get? fields earlier = some other → ¬ usable other

theorem First.usable {usable : α → Prop} {name : String} {value : α}
    (h : First fields names usable name value) : usable value := by
  obtain ⟨_, _, _, _, husable, _⟩ := h
  exact husable

theorem First.mem {usable : α → Prop} {name : String} {value : α}
    (h : First fields names usable name value) : name ∈ names := by
  obtain ⟨_, _, rfl, _⟩ := h
  simp

theorem exists_first_iff {usable : α → Prop} :
    (∃ name value, First fields names usable name value) ↔
      ∃ name ∈ names, ∃ value, get? fields name = some value ∧ usable value := by
  constructor
  · rintro ⟨name, value, h⟩
    have hname := h.mem
    obtain ⟨_, _, _, hvalue, husable, _⟩ := h
    exact ⟨name, hname, value, hvalue, husable⟩
  · induction names with
    | nil => nofun
    | cons first names ih =>
        rintro ⟨name, hname, value, hvalue, husable⟩
        by_cases hfirst : ∃ other, get? fields first = some other ∧ usable other
        · obtain ⟨other, hother, husable⟩ := hfirst
          exact ⟨first, other, [], names, rfl, hother, husable, nofun⟩
        · have hlater : name ∈ names := by
            rcases List.mem_cons.mp hname with rfl | hlater
            · exact absurd ⟨value, hvalue, husable⟩ hfirst
            · exact hlater
          obtain ⟨found, other, before, after, rfl, hother, husable, hbefore⟩ :=
            ih ⟨name, hlater, value, hvalue, husable⟩
          refine ⟨found, other, first :: before, after, rfl, hother, husable, ?_⟩
          refine List.forall_mem_cons.mpr ⟨?_, hbefore⟩
          exact fun v hv hv' => hfirst ⟨v, hv, hv'⟩

theorem first_singleton_iff {usable : α → Prop} {only name : String} {value : α} :
    First fields [only] usable name value ↔
      name = only ∧ get? fields only = some value ∧ usable value := by
  constructor
  · rintro h
    obtain rfl := List.mem_singleton.mp h.mem
    obtain ⟨_, _, _, hvalue, husable, _⟩ := h
    exact ⟨rfl, hvalue, husable⟩
  · rintro ⟨rfl, hvalue, husable⟩
    exact ⟨[], [], rfl, hvalue, husable, nofun⟩

theorem first?_eq_some_iff {read : α → Option β} {b : β} :
    first? fields names read = some b ↔
      ∃ name value, First fields names (fun v => (read v).isSome) name value ∧
        read value = some b := by
  rw [first?, List.findSome?_eq_some_iff]
  constructor
  · rintro ⟨before, name, after, hnames, hread, hearlier⟩
    obtain ⟨value, hvalue, hb⟩ := Option.bind_eq_some_iff.mp hread
    refine ⟨name, value, ⟨before, after, hnames, hvalue, ?_, ?_⟩, hb⟩
    · exact Option.isSome_iff_exists.mpr ⟨b, hb⟩
    · intro earlier hmem other hother
      have hnone := hearlier earlier hmem
      rw [hother, Option.bind_some] at hnone
      simp [hnone]
  · rintro ⟨name, value, ⟨before, after, hnames, hvalue, -, hearlier⟩, hb⟩
    refine ⟨before, name, after, hnames, ?_, ?_⟩
    · rw [hvalue, Option.bind_some, hb]
    · intro earlier hmem
      cases hother : get? fields earlier with
      | none => rfl
      | some other => simpa using hearlier earlier hmem other hother

theorem first?_eq_none_iff {read : α → Option β} :
    first? fields names read = none ↔
      ∀ name ∈ names, ∀ value, get? fields name = some value → read value = none := by
  simp only [first?, List.findSome?_eq_none_iff, Option.bind_eq_none_iff]

theorem first?_some_eq_some_iff {value : α} :
    first? fields names some = some value ↔
      ∃ name, First fields names (fun _ => True) name value := by
  simp [first?_eq_some_iff]

theorem first?_array?_eq_some_iff {fields : Object} {items : List Json} :
    first? fields names Json.array? = some items ↔
      ∃ name, First fields names (fun v => ∃ list, v = .array list) name (.array items) := by
  simp only [first?_eq_some_iff, Option.isSome_iff_exists, Json.array?_eq_some_iff]
  constructor
  · rintro ⟨name, _, hfirst, rfl⟩
    exact ⟨name, hfirst⟩
  · rintro ⟨name, hfirst⟩
    exact ⟨name, _, hfirst, rfl⟩

theorem First.insert {usable : α → Prop} {name : String} {value other : α}
    (h : First fields names usable name value) (hother : usable other) :
    First (fields.insert name other) names usable name other := by
  obtain ⟨before, after, hnames, hvalue, husable, hearlier⟩ := h
  refine ⟨before, after, hnames, by rw [get?_insert, if_pos rfl], hother, ?_⟩
  intro earlier hmem v hv
  rw [get?_insert] at hv
  split at hv
  · next heq =>
      subst heq
      exact absurd husable (hearlier name hmem value hvalue)
  · exact hearlier earlier hmem v hv

end FilingChecklist.Fields
