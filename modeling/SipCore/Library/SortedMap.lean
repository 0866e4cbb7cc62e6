/-
Maps kept in the order of their keys. `upsert` is what writing through the index
operator does: the value at the key is changed in place, a missing one is created
first; `assign` replaces it. Everything else is said through the entries.
-/

import Mathlib.Data.List.Basic
import Mathlib.Order.Lattice

namespace SipCore

structure SortedMap (κ ν : Type) [LinearOrder κ] where
  entries : List (κ × ν)
  sorted : entries.Pairwise (fun left right => left.1 < right.1)

namespace SortedMap

variable {κ ν : Type} [LinearOrder κ]

def empty : SortedMap κ ν := ⟨[], List.Pairwise.nil⟩

def upsertEntries (key : κ) (created : ν) (change : ν → ν) : List (κ × ν) → List (κ × ν)
  | [] => [(key, change created)]
  | entry :: rest =>
    if key < entry.1 then (key, change created) :: entry :: rest
    else if key = entry.1 then (key, change entry.2) :: rest
    else entry :: upsertEntries key created change rest

theorem mem_upsertEntries {key : κ} {created : ν} {change : ν → ν} {entries : List (κ × ν)}
    {entry : κ × ν} (member : entry ∈ upsertEntries key created change entries) :
    entry ∈ entries ∨ entry = (key, change created) ∨
      ∃ before, (key, before) ∈ entries ∧ entry = (key, change before) := by
  induction entries with
  | nil => exact .inr (.inl (List.mem_singleton.mp member))
  | cons head rest ih =>
    unfold upsertEntries at member
    split at member
    · rcases List.mem_cons.mp member with new | old
      · exact .inr (.inl new)
      · exact .inl old
    · split at member
      · rename_i same
        rcases List.mem_cons.mp member with new | old
        · exact .inr (.inr ⟨head.2, by simp [same], new⟩)
        · exact .inl (List.mem_cons_of_mem _ old)
      · rcases List.mem_cons.mp member with first | later
        · exact .inl (first ▸ List.mem_cons_self)
        · rcases ih later with old | new | ⟨before, there, changed⟩
          · exact .inl (List.mem_cons_of_mem _ old)
          · exact .inr (.inl new)
          · exact .inr (.inr ⟨before, List.mem_cons_of_mem _ there, changed⟩)

theorem sorted_upsertEntries (key : κ) (created : ν) (change : ν → ν) {entries : List (κ × ν)}
    (sorted : entries.Pairwise (fun left right => left.1 < right.1)) :
    (upsertEntries key created change entries).Pairwise
      (fun left right => left.1 < right.1) := by
  induction entries with
  | nil => exact List.pairwise_singleton _ _
  | cons head rest ih =>
    have later := List.pairwise_cons.mp sorted
    unfold upsertEntries
    split
    · rename_i before
      refine List.pairwise_cons.mpr ⟨?_, sorted⟩
      intro entry member
      rcases List.mem_cons.mp member with same | behind
      · exact same ▸ before
      · exact lt_trans before (later.1 entry behind)
    · rename_i notBefore
      split
      · rename_i same
        refine List.pairwise_cons.mpr ⟨?_, later.2⟩
        intro entry member
        exact same ▸ later.1 entry member
      · rename_i different
        refine List.pairwise_cons.mpr ⟨?_, ih later.2⟩
        intro entry member
        have behind : head.1 < key := lt_of_le_of_ne (not_lt.mp notBefore) (Ne.symm different)
        rcases mem_upsertEntries member with old | new | ⟨_, _, changed⟩
        · exact later.1 entry old
        · exact new ▸ behind
        · exact changed ▸ behind

def upsert (map : SortedMap κ ν) (key : κ) (created : ν) (change : ν → ν) : SortedMap κ ν :=
  ⟨upsertEntries key created change map.entries, sorted_upsertEntries key created change map.sorted⟩

theorem flatMap_upsert {α : Type} (map : SortedMap κ (List α)) (key : κ) (item : α) :
    ((map.upsert key [] (· ++ [item])).entries.flatMap Prod.snd).Perm
      (item :: map.entries.flatMap Prod.snd) := by
  obtain ⟨entries, _⟩ := map
  change ((upsertEntries key [] (· ++ [item]) entries).flatMap Prod.snd).Perm _
  induction entries with
  | nil => exact .refl _
  | cons entry rest ih =>
    unfold upsertEntries
    split
    · exact .refl _
    · split
      · rw [List.flatMap_cons, List.append_assoc]
        exact List.perm_middle
      · rw [List.flatMap_cons, List.flatMap_cons]
        exact ((ih (.of_cons (by assumption))).append_left entry.2).trans
          List.perm_middle

def eraseFirst (map : SortedMap κ ν) : SortedMap κ ν :=
  ⟨map.entries.tail, map.sorted.tail⟩

theorem mem_upsert {map : SortedMap κ ν} {key : κ} {created : ν} {change : ν → ν}
    {entry : κ × ν} (member : entry ∈ (map.upsert key created change).entries) :
    entry ∈ map.entries ∨ entry = (key, change created) ∨
      ∃ before, (key, before) ∈ map.entries ∧ entry = (key, change before) :=
  mem_upsertEntries member

theorem first_lt {map : SortedMap κ ν} {first entry : κ × ν} {rest : List (κ × ν)}
    (split : map.entries = first :: rest) (member : entry ∈ rest) : first.1 < entry.1 := by
  have sorted := map.sorted
  rw [split] at sorted
  exact (List.pairwise_cons.mp sorted).1 entry member

theorem nodup_keys (map : SortedMap κ ν) : (map.entries.map Prod.fst).Nodup := by
  unfold List.Nodup
  rw [List.pairwise_map]
  exact map.sorted.imp ne_of_lt

def assign (map : SortedMap κ ν) (key : κ) (value : ν) : SortedMap κ ν :=
  map.upsert key value (fun _ => value)

theorem mem_assign {map : SortedMap κ ν} {key : κ} {value : ν} {entry : κ × ν} :
    entry ∈ (map.assign key value).entries ↔
      entry = (key, value) ∨ (entry ∈ map.entries ∧ entry.1 ≠ key) := by
  obtain ⟨entries, sorted⟩ := map
  change entry ∈ upsertEntries key value (fun _ => value) entries ↔ _
  induction entries with
  | nil => simp [upsertEntries]
  | cons head rest ih =>
    have later := List.pairwise_cons.mp sorted
    unfold upsertEntries
    split
    · rename_i before
      have other : ∀ item ∈ head :: rest, item.1 ≠ key := by
        intro item member
        rcases List.mem_cons.mp member with same | behind
        · exact same ▸ ne_of_gt before
        · exact ne_of_gt (lt_trans before (later.1 item behind))
      rw [List.mem_cons]
      exact or_congr_right ⟨fun member => ⟨member, other entry member⟩, And.left⟩
    · split
      · rename_i same
        have other : ∀ item ∈ rest, item.1 ≠ key := by
          intro item member
          exact same ▸ ne_of_gt (later.1 item member)
        rw [List.mem_cons, List.mem_cons]
        apply or_congr_right
        constructor
        · intro member
          exact ⟨.inr member, other entry member⟩
        · intro ⟨member, different⟩
          rcases member with first | behind
          · exact absurd (first ▸ same.symm) different
          · exact behind
      · rename_i different
        have own : head.1 ≠ key := Ne.symm different
        rw [List.mem_cons, List.mem_cons, ih later.2]
        constructor
        · rintro (first | new | ⟨behind, other⟩)
          · exact .inr ⟨.inl first, first ▸ own⟩
          · exact .inl new
          · exact .inr ⟨.inr behind, other⟩
        · rintro (new | ⟨first | behind, other⟩)
          · exact .inr (.inl new)
          · exact .inl first
          · exact .inr (.inr ⟨behind, other⟩)

def ofList (items : List (κ × ν)) : SortedMap κ ν :=
  items.foldl (fun map item => map.assign item.1 item.2) empty

theorem mem_foldl_assign {items : List (κ × ν)} (distinct : (items.map Prod.fst).Nodup)
    (map : SortedMap κ ν) (entry : κ × ν) :
    entry ∈ (items.foldl (fun map item => map.assign item.1 item.2) map).entries ↔
      entry ∈ items ∨ (entry ∈ map.entries ∧ entry.1 ∉ items.map Prod.fst) := by
  induction items generalizing map with
  | nil => simp
  | cons item rest ih =>
    have apart := List.nodup_cons.mp distinct
    rw [List.foldl_cons, ih apart.2, mem_assign, List.mem_cons, List.map_cons, List.mem_cons]
    constructor
    · rintro (later | ⟨new | ⟨old, other⟩, absent⟩)
      · exact .inl (.inr later)
      · exact .inl (.inl new)
      · exact .inr ⟨old, not_or.mpr ⟨other, absent⟩⟩
    · rintro ((new | later) | ⟨old, absent⟩)
      · exact .inr ⟨.inl new, by rw [new]; exact apart.1⟩
      · exact .inl later
      · exact .inr ⟨.inr ⟨old, (not_or.mp absent).1⟩, (not_or.mp absent).2⟩

theorem mem_collect {ι : Type} {items : List ι} {key : ι → κ} (distinct : (items.map key).Nodup)
    (keep : ι → Bool) (value : ι → ν) (entry : κ × ν) :
    entry ∈ (items.foldl (fun map item =>
        if keep item then map.assign (key item) (value item) else map) empty).entries ↔
      ∃ item ∈ items, keep item = true ∧ entry = (key item, value item) := by
  have listed : items.foldl (fun map item =>
      if keep item then map.assign (key item) (value item) else map) (empty : SortedMap κ ν) =
      ((items.filter keep).map (fun item => (key item, value item))).foldl
        (fun map item => map.assign item.1 item.2) empty := by
    rw [List.foldl_map, List.foldl_filter]
  have kept : (((items.filter keep).map (fun item => (key item, value item))).map Prod.fst).Nodup := by
    rw [List.map_map]
    exact distinct.sublist (List.filter_sublist.map key)
  rw [listed, mem_foldl_assign kept]
  simp only [List.mem_map, List.mem_filter, empty, List.not_mem_nil, false_and, or_false, and_assoc,
    eq_comm]

theorem mem_ofList {items : List (κ × ν)} (distinct : (items.map Prod.fst).Nodup)
    (entry : κ × ν) : entry ∈ (ofList items).entries ↔ entry ∈ items := by
  unfold ofList
  rw [mem_foldl_assign distinct]
  simp [empty]

end SortedMap

end SipCore
