/-
Two lists compared by their lengths and by looking up every element of the first in
the second. Nothing counts how often an element was found. The comparison is that of
the lists up to order, for a fixed first list and every second one, exactly when the
first list has no element twice.
-/

import Mathlib.Data.List.Perm.Subperm

namespace SipCore.SearchEquality

variable {α : Type}

def Found (first second : List α) : Prop :=
  first.length = second.length ∧ ∀ item ∈ first, item ∈ second

theorem found_of_perm {first second : List α} (perm : first.Perm second) : Found first second :=
  ⟨perm.length_eq, fun _ member => perm.mem_iff.mp member⟩

theorem perm_of_found {first second : List α} (distinct : first.Nodup)
    (found : Found first second) : first.Perm second :=
  (distinct.subperm found.2).perm_of_length_le (Nat.le_of_eq found.1.symm)

/-- A list with an element twice is found in another one that is no rearrangement: one
of the two gives way to a new element. -/
theorem exists_found_not_perm {first : List α} (twice : ¬ first.Nodup) {fresh : α}
    (unused : fresh ∉ first) :
    ∃ second, Found first second ∧ ¬ first.Perm second ∧
      ∀ item ∈ second, item ∈ first ∨ item = fresh := by
  induction first with
  | nil => exact absurd List.nodup_nil twice
  | cons head rest ih =>
    by_cases again : head ∈ rest
    · refine ⟨fresh :: rest, ⟨rfl, ?_⟩, ?_, ?_⟩
      · intro item member
        rcases List.mem_cons.mp member with same | later
        · rw [same]
          exact List.mem_cons_of_mem fresh again
        · exact List.mem_cons_of_mem fresh later
      · intro perm
        exact unused (perm.mem_iff.mpr List.mem_cons_self)
      · intro item member
        rcases List.mem_cons.mp member with same | later
        · exact .inr same
        · exact .inl (List.mem_cons_of_mem head later)
    · have restTwice : ¬ rest.Nodup := fun distinct =>
        twice (List.nodup_cons.mpr ⟨again, distinct⟩)
      obtain ⟨second, found, notPerm, elements⟩ :=
        ih restTwice fun member => unused (List.mem_cons_of_mem head member)
      refine ⟨head :: second, ⟨congrArg Nat.succ found.1, ?_⟩, ?_, ?_⟩
      · intro item member
        rcases List.mem_cons.mp member with same | later
        · rw [same]
          exact List.mem_cons_self
        · exact List.mem_cons_of_mem head (found.2 item later)
      · intro perm
        exact notPerm (List.perm_cons head |>.mp perm)
      · intro item member
        rcases List.mem_cons.mp member with same | later
        · rw [same]
          exact .inl List.mem_cons_self
        · exact (elements item later).imp_left (List.mem_cons_of_mem head)

end SipCore.SearchEquality
