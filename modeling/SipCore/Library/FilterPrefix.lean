/-
When the elements a predicate keeps are a front segment of a list. A second walk
that counts all elements then agrees with one that counts the kept ones, and
otherwise it does not.
-/

import Mathlib.Data.List.Basic

namespace SipCore.FilterPrefix

variable {α : Type}

def InFront (keep : α → Bool) (items : List α) : Prop :=
  items.Pairwise (fun earlier later => keep later = true → keep earlier = true)

instance decidableInFront (keep : α → Bool) (items : List α) : Decidable (InFront keep items) :=
  inferInstanceAs (Decidable (List.Pairwise _ items))

theorem inFront_of_filter_nil {keep : α → Bool} {items : List α}
    (nothing : items.filter keep = []) : InFront keep items := by
  apply List.pairwise_of_forall_mem_list
  intro earlier _ later member kept
  have dropped := List.filter_eq_nil_iff.mp nothing later member
  exact absurd kept dropped

theorem take_filter_eq_iff (keep : α → Bool) (items : List α) :
    items.take (items.filter keep).length = items.filter keep ↔ InFront keep items := by
  induction items with
  | nil => exact ⟨fun _ => .nil, fun _ => rfl⟩
  | cons head rest ih =>
    cases kept : keep head with
    | true =>
      rw [List.filter_cons_of_pos kept, List.length_cons, List.take_succ_cons]
      constructor
      · intro same
        apply List.pairwise_cons.mpr
        exact ⟨fun _ _ _ => kept, ih.mp (List.cons.inj same).2⟩
      · intro inFront
        rw [ih.mpr (List.pairwise_cons.mp inFront).2]
    | false =>
      have dropped : ¬ keep head = true := by rw [kept]; exact Bool.false_ne_true
      rw [List.filter_cons_of_neg dropped]
      cases later : rest.filter keep with
      | nil =>
        constructor
        · intro _
          apply inFront_of_filter_nil
          rw [List.filter_cons_of_neg dropped, later]
        · intro _
          rfl
      | cons first others =>
        have member : first ∈ rest.filter keep := by
          rw [later]
          exact List.mem_cons_self
        obtain ⟨inRest, firstKept⟩ := List.mem_filter.mp member
        constructor
        · intro same
          have equal := (List.cons.inj same).1
          rw [equal] at kept
          rw [kept] at firstKept
          cases firstKept
        · intro inFront
          exact absurd ((List.pairwise_cons.mp inFront).1 first inRest firstKept) dropped

end SipCore.FilterPrefix
