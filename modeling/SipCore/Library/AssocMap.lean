/-
Finite maps with distinct keys, the shape of an ordered associative container without
its order. Every operation keeps the distinctness proof, so a map with two entries for
one key cannot be built.
-/

import Mathlib.Data.List.Nodup

namespace SipCore

structure AssocMap (κ ν : Type) where
  entries : List (κ × ν)
  distinct : (entries.map Prod.fst).Nodup

namespace AssocMap

variable {κ ν : Type} [DecidableEq κ]

def empty : AssocMap κ ν := ⟨[], List.nodup_nil⟩

def find? (map : AssocMap κ ν) (key : κ) : Option ν :=
  map.entries.lookup key

def contains (map : AssocMap κ ν) (key : κ) : Bool :=
  (map.find? key).isSome

private theorem lookup_none_iff (items : List (κ × ν)) (key : κ) :
    items.lookup key = none ↔ key ∉ items.map Prod.fst := by
  induction items with
  | nil => simp
  | cons head rest ih =>
    rw [List.lookup_cons, List.map_cons, List.mem_cons, not_or]
    by_cases same : key = head.1
    · simp [same]
    · have different : (key == head.1) = false := by simpa using same
      rw [different, ih]
      exact (and_iff_right same).symm

theorem find?_none_iff (map : AssocMap κ ν) (key : κ) :
    map.find? key = none ↔ key ∉ map.entries.map Prod.fst :=
  lookup_none_iff map.entries key

def emplace (map : AssocMap κ ν) (key : κ) (value : ν) : AssocMap κ ν :=
  if absent : map.find? key = none then
    { entries := map.entries ++ [(key, value)]
      distinct := by
        rw [List.map_append, List.nodup_append]
        refine ⟨map.distinct, by simp, ?_⟩
        intro left leftMember right rightMember same
        subst left
        have atKey : right = key := by simpa using rightMember
        subst right
        exact (map.find?_none_iff key).mp absent leftMember }
  else map

def modify (map : AssocMap κ ν) (key : κ) (change : ν → ν) : AssocMap κ ν :=
  { entries := map.entries.map
      (fun entry => if entry.1 = key then (entry.1, change entry.2) else entry)
    distinct := by
      have keys : (map.entries.map
          (fun entry => if entry.1 = key then (entry.1, change entry.2) else entry)).map Prod.fst =
          map.entries.map Prod.fst := by
        rw [List.map_map]
        apply List.map_congr_left
        intro entry _member
        simp only [Function.comp_apply]
        split <;> rfl
      rw [keys]
      exact map.distinct }

def mapValues (map : AssocMap κ ν) (change : ν → ν) : AssocMap κ ν :=
  { entries := map.entries.map (fun entry => (entry.1, change entry.2))
    distinct := by
      rw [List.map_map]
      exact map.distinct }

def erase (map : AssocMap κ ν) (key : κ) : AssocMap κ ν :=
  { entries := map.entries.filter (fun entry => entry.1 ≠ key)
    distinct := map.distinct.sublist (List.filter_sublist.map Prod.fst) }

def assign (map : AssocMap κ ν) (key : κ) (value : ν) : AssocMap κ ν :=
  (map.emplace key value).modify key (fun _ => value)

def values (map : AssocMap κ ν) : List ν :=
  map.entries.map Prod.snd

def mapEntries (map : AssocMap κ ν) (change : κ → ν → ν) : AssocMap κ ν :=
  { entries := map.entries.map (fun entry => (entry.1, change entry.1 entry.2))
    distinct := by
      rw [List.map_map]
      exact map.distinct }

def filterValues (map : AssocMap κ ν) (keep : ν → Bool) : AssocMap κ ν :=
  { entries := map.entries.filter (fun entry => keep entry.2)
    distinct := map.distinct.sublist (List.filter_sublist.map Prod.fst) }

def emplaceAll (map : AssocMap κ ν) (items : List (κ × ν)) : AssocMap κ ν :=
  items.foldl (fun current item => current.emplace item.1 item.2) map

@[simp] theorem find?_empty (key : κ) : (empty : AssocMap κ ν).find? key = none := rfl

theorem find?_emplace (map : AssocMap κ ν) (key other : κ) (value : ν) :
    (map.emplace key value).find? other =
      if other = key then some ((map.find? key).getD value) else map.find? other := by
  unfold emplace
  split
  · rename_i absent
    simp only [find?, List.lookup_append]
    by_cases same : other = key
    · subst other
      have missing : List.lookup key map.entries = none := absent
      simp [missing]
    · have different : (other == key) = false := by simpa using same
      rw [if_neg same, List.lookup_cons, different, List.lookup_nil, Option.or_none]
  · rename_i present
    by_cases same : other = key
    · subst other
      rw [if_pos rfl]
      obtain ⟨stored, found⟩ := Option.ne_none_iff_exists'.mp present
      rw [found, Option.getD_some]
    · rw [if_neg same]

private theorem lookup_map_entries (items : List (κ × ν)) (change : κ → ν → ν) (key : κ) :
    (items.map (fun entry => (entry.1, change entry.1 entry.2))).lookup key =
      (items.lookup key).map (change key) := by
  induction items with
  | nil => rfl
  | cons head rest ih =>
    rw [List.map_cons, List.lookup_cons, List.lookup_cons]
    by_cases same : key = head.1
    · subst key
      simp only [beq_self_eq_true, Option.map_some]
    · have different : (key == head.1) = false := by simpa using same
      simp only [different, ih]

theorem find?_modify (map : AssocMap κ ν) (key other : κ) (change : ν → ν) :
    (map.modify key change).find? other =
      if other = key then (map.find? key).map change else map.find? other := by
  have uniform : (fun entry : κ × ν =>
      if entry.1 = key then (entry.1, change entry.2) else entry) =
      (fun entry => (entry.1, (if entry.1 = key then change else id) entry.2)) := by
    funext entry
    split <;> rfl
  simp only [find?, modify, uniform]
  rw [lookup_map_entries map.entries (fun key' => if key' = key then change else id) other]
  by_cases same : other = key
  · subst other
    simp
  · simp [same]

@[simp] theorem find?_mapValues (map : AssocMap κ ν) (key : κ) (change : ν → ν) :
    (map.mapValues change).find? key = (map.find? key).map change :=
  lookup_map_entries map.entries (fun _ => change) key

theorem find?_mapEntries (map : AssocMap κ ν) (key : κ) (change : κ → ν → ν) :
    (map.mapEntries change).find? key = (map.find? key).map (change key) :=
  lookup_map_entries map.entries change key

private theorem mem_iff_lookup {items : List (κ × ν)} (distinct : (items.map Prod.fst).Nodup)
    (key : κ) (value : ν) : (key, value) ∈ items ↔ items.lookup key = some value := by
  induction items with
  | nil => simp
  | cons head rest ih =>
    rw [List.map_cons, List.nodup_cons] at distinct
    rw [List.mem_cons, List.lookup_cons]
    by_cases same : key = head.1
    · subst key
      rw [beq_self_eq_true]
      constructor
      · rintro (equal | later)
        · rw [← equal]
        · exact absurd (List.mem_map_of_mem later) distinct.1
      · intro found
        left
        rw [← Option.some.inj found]
    · have different : (key == head.1) = false := by simpa using same
      rw [different, ← ih distinct.2]
      constructor
      · rintro (equal | later)
        · exact absurd (congrArg Prod.fst equal) same
        · exact later
      · exact .inr

theorem mem_entries_iff (map : AssocMap κ ν) (key : κ) (value : ν) :
    (key, value) ∈ map.entries ↔ map.find? key = some value :=
  mem_iff_lookup map.distinct key value

theorem find?_filterValues (map : AssocMap κ ν) (keep : ν → Bool) (key : κ) (value : ν) :
    (map.filterValues keep).find? key = some value ↔
      map.find? key = some value ∧ keep value = true := by
  rw [← mem_entries_iff, ← mem_entries_iff]
  exact List.mem_filter

theorem find?_emplaceAll (map : AssocMap κ ν) (items : List (κ × ν)) (key : κ) :
    (map.emplaceAll items).find? key = (map.find? key).or (items.lookup key) := by
  unfold emplaceAll
  induction items generalizing map with
  | nil => exact (Option.or_none).symm
  | cons head rest ih =>
    rw [List.foldl_cons, ih, find?_emplace, List.lookup_cons]
    by_cases same : key = head.1
    · subst key
      rw [if_pos rfl, beq_self_eq_true]
      cases map.find? head.1 <;> rfl
    · have different : (key == head.1) = false := by simpa using same
      rw [if_neg same, different]

theorem find?_assign (map : AssocMap κ ν) (key other : κ) (value : ν) :
    (map.assign key value).find? other = if other = key then some value else map.find? other := by
  rw [assign, find?_modify, find?_emplace, find?_emplace]
  split <;> simp

theorem forall_assign {map : AssocMap κ ν} {key : κ} {value : ν} {property : κ → ν → Prop}
    (own : property key value)
    (others : ∀ other stored, map.find? other = some stored → property other stored) :
    ∀ other stored, (map.assign key value).find? other = some stored → property other stored := by
  intro other stored found
  rw [find?_assign] at found
  split at found
  · rename_i same
    cases found
    rw [same]
    exact own
  · exact others other stored found

theorem find?_erase (map : AssocMap κ ν) (key other : κ) :
    (map.erase key).find? other = if other = key then none else map.find? other := by
  simp only [find?, erase]
  induction map.entries with
  | nil => simp
  | cons head rest ih =>
    by_cases removed : head.1 = key
    · rw [List.filter_cons_of_neg (by simpa using removed), ih, List.lookup_cons]
      by_cases same : other = key
      · simp [same]
      · have different : (other == head.1) = false := by
          simpa [removed] using same
        simp [same, different]
    · rw [List.filter_cons_of_pos (by simpa using removed), List.lookup_cons, List.lookup_cons, ih]
      by_cases same : other = key
      · subst other
        have different : (key == head.1) = false := by
          simpa using fun equal => removed equal.symm
        simp [different]
      · simp [same]

theorem contains_emplace_of_contains {map : AssocMap κ ν} {key other : κ} {value : ν}
    (present : map.contains other = true) : (map.emplace key value).contains other = true := by
  unfold contains at present ⊢
  rw [find?_emplace]
  split
  · rfl
  · exact present

theorem contains_modify (map : AssocMap κ ν) (key other : κ) (change : ν → ν) :
    (map.modify key change).contains other = map.contains other := by
  unfold contains
  rw [find?_modify]
  split
  · rename_i same
    rw [same, Option.isSome_map]
  · rfl

theorem contains_mapValues (map : AssocMap κ ν) (key : κ) (change : ν → ν) :
    (map.mapValues change).contains key = map.contains key := by
  unfold contains
  rw [find?_mapValues, Option.isSome_map]

private theorem view_foldl {σ β : Type} (view : σ → κ → β) (body : σ → κ × ν → σ)
    (change : κ → ν → β → β)
    (sole : ∀ state entry key, view (body state entry) key =
      if key = entry.1 then change key entry.2 (view state key) else view state key)
    (items : List (κ × ν)) (distinct : (items.map Prod.fst).Nodup) (start : σ) (key : κ) :
    view (items.foldl body start) key =
      (items.lookup key).elim (view start key) (fun value => change key value (view start key)) := by
  induction items generalizing start with
  | nil => rfl
  | cons head rest ih =>
    rw [List.map_cons, List.nodup_cons] at distinct
    rw [List.foldl_cons, ih distinct.2, sole, List.lookup_cons]
    by_cases same : key = head.1
    · subst key
      have later : rest.lookup head.1 = none := (lookup_none_iff rest head.1).mpr distinct.1
      rw [later, if_pos rfl, beq_self_eq_true]
      rfl
    · have different : (key == head.1) = false := by simpa using same
      rw [if_neg same, different]

/-- A loop over the entries whose body looks at and changes the visited key alone comes
to one change for each key. -/
theorem view_foldl_entries {σ β : Type} (view : σ → κ → β) (body : σ → κ × ν → σ)
    (change : κ → ν → β → β)
    (sole : ∀ state entry key, view (body state entry) key =
      if key = entry.1 then change key entry.2 (view state key) else view state key)
    (map : AssocMap κ ν) (start : σ) (key : κ) :
    view (map.entries.foldl body start) key =
      (map.find? key).elim (view start key) (fun value => change key value (view start key)) :=
  view_foldl view body change sole map.entries map.distinct start key

end AssocMap

end SipCore
