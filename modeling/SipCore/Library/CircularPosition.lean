/-
Positions on a circle of `size` slots against an unbounded sequence. A writer or reader
that has passed `count` elements stands at slot `count % size`; the distance between the
two is recovered from the slots alone as long as it is smaller than the circle.
-/

import Mathlib.Data.List.Nodup
import Mathlib.Data.List.Perm.Subperm
import Mathlib.Data.Nat.ModEq

namespace SipCore.Circular

/-- The distance from slot `read` forward to slot `write`, as circular buffers
compute it without negative numbers. -/
def distance (size write read : Nat) : Nat := (write + size - read) % size

variable {size : Nat}

theorem distance_lt (positive : 0 < size) (write read : Nat) : distance size write read < size :=
  Nat.mod_lt _ positive

theorem distance_of_counts {written passed : Nat} (positive : 0 < size) (ordered : passed ≤ written) :
    distance size (written % size) (passed % size) = (written - passed) % size := by
  obtain ⟨gap, rfl⟩ := Nat.exists_eq_add_of_le ordered
  have bound := Nat.mod_lt passed positive
  have shift : ((passed + gap) % size + size - passed % size) + passed % size =
      (passed + gap) % size + size := by omega
  have modular : ((passed + gap) % size + size - passed % size) + passed % size ≡
      gap + passed % size [MOD size] := by
    rw [shift]
    calc (passed + gap) % size + size
        ≡ (passed + gap) % size [MOD size] := Nat.add_mod_right _ _
      _ ≡ passed + gap [MOD size] := Nat.mod_modEq _ _
      _ ≡ gap + passed % size [MOD size] := by
          rw [Nat.add_comm passed gap]
          exact Nat.ModEq.add_left gap (Nat.mod_modEq passed size).symm
  have cancelled := Nat.ModEq.add_right_cancel' _ modular
  rw [Nat.add_sub_cancel_left]
  exact cancelled

theorem distance_eq_sub {written passed : Nat} (positive : 0 < size) (ordered : passed ≤ written)
    (near : written < passed + size) :
    distance size (written % size) (passed % size) = written - passed := by
  rw [distance_of_counts positive ordered, Nat.mod_eq_of_lt (by omega)]

theorem slot_ne_of_near {earlier later : Nat} (before : earlier < later)
    (near : later < earlier + size) : earlier % size ≠ later % size := by
  intro same
  have divides := Nat.sub_mod_eq_zero_of_mod_eq same.symm
  rw [Nat.mod_eq_of_lt (by omega)] at divides
  omega

theorem mod_add_one_mod (count size : Nat) : (count % size + 1) % size = (count + 1) % size :=
  Nat.mod_add_mod count size 1

def lap (size start : Nat) : List Nat := (List.range size).map (fun step => (start + step) % size)

theorem nodup_lap (size start : Nat) : (lap size start).Nodup := by
  apply List.Nodup.map_on _ List.nodup_range
  intro left leftStep right rightStep same
  rw [List.mem_range] at leftStep rightStep
  rcases Nat.lt_trichotomy left right with before | equal | after
  · exact absurd same (slot_ne_of_near (by omega) (by omega))
  · exact equal
  · exact absurd same.symm (slot_ne_of_near (by omega) (by omega))

theorem mem_lap_iff {start slot : Nat} : slot ∈ lap size start ↔ slot < size := by
  have inside : lap size start ⊆ List.range size := by
    intro slot member
    obtain ⟨step, small, rfl⟩ := List.mem_map.mp member
    exact List.mem_range.mpr (Nat.mod_lt _ (Nat.zero_lt_of_lt (List.mem_range.mp small)))
  have whole : (lap size start).Perm (List.range size) := by
    apply ((nodup_lap size start).subperm inside).perm_of_length_le
    rw [lap, List.length_map]
  rw [whole.mem_iff, List.mem_range]

variable {α : Type}

/-- The circle holds the last `size` elements of the sequence, each at its slot. -/
def Holds (size : Nat) (cells : List (Option α)) (sequence : List α) : Prop :=
  cells.length = size ∧
    ∀ index, (present : index < sequence.length) → sequence.length ≤ index + size →
      cells[index % size]? = some (some sequence[index])

theorem Holds.empty (size : Nat) : Holds size (List.replicate size (none : Option α)) [] :=
  ⟨List.length_replicate, fun _ absent => by cases absent⟩

/-- Writing the next element at its slot only overwrites the one a lap older. -/
theorem Holds.push {cells : List (Option α)} {sequence : List α} (holds : Holds size cells sequence)
    (positive : 0 < size) (element : α) :
    Holds size (cells.set (sequence.length % size) (some element)) (sequence ++ [element]) := by
  obtain ⟨length, stored⟩ := holds
  refine ⟨by rw [List.length_set, length], ?_⟩
  intro index present recent
  rw [List.length_append, List.length_singleton] at present recent
  have inside : sequence.length % size < cells.length := by
    rw [length]
    exact Nat.mod_lt _ positive
  by_cases older : index < sequence.length
  · have different := slot_ne_of_near older (by omega : sequence.length < index + size)
    rw [List.getElem?_set_ne (Ne.symm different), stored index older (by omega),
      List.getElem_append_left older]
  · have newest : index = sequence.length := by omega
    subst index
    rw [List.getElem?_set_self inside]
    simp

end SipCore.Circular
