/-
Sums that are cut to a range after every addition. As long as the numbers have one
sign, or the sum can leave the range in neither direction, cutting after every
addition is the same as cutting once at the end. With both signs and a side that
alone leaves the range, some order of the numbers gives another result.
-/

import Mathlib.Algebra.BigOperators.Group.List.Basic
import Mathlib.Algebra.Order.BigOperators.Group.List
import Mathlib.Algebra.Ring.Int.Defs
import Mathlib.Data.List.Perm.Lattice

namespace SipCore.ClampedSum

variable {α : Type} (low high : Int)

def clamp (number : Int) : Int := max low (min high number)

def fold (sum : Int) (numbers : List Int) : Int :=
  numbers.foldl (fun sum number => clamp low high (sum + number)) sum

def above (numbers : List Int) : Int := (numbers.map (max 0)).sum

def below (numbers : List Int) : Int := (numbers.map (min 0)).sum

theorem below_cons (number : Int) (rest : List Int) :
    below (number :: rest) = min 0 number + below rest := List.sum_cons

theorem above_cons (number : Int) (rest : List Int) :
    above (number :: rest) = max 0 number + above rest := List.sum_cons

variable (numbers : List Int)

theorem sum_eq_above_add_below : numbers.sum = above numbers + below numbers := by
  induction numbers with
  | nil => rfl
  | cons number rest ih =>
    rw [List.sum_cons, above_cons, below_cons]
    omega

theorem above_nonneg : 0 ≤ above numbers := by
  induction numbers with
  | nil => exact le_refl 0
  | cons number rest ih =>
    rw [above_cons]
    omega

theorem below_nonpos : below numbers ≤ 0 := by
  induction numbers with
  | nil => exact le_refl 0
  | cons number rest ih =>
    rw [below_cons]
    omega

theorem below_eq_zero_iff : below numbers = 0 ↔ ∀ number ∈ numbers, 0 ≤ number := by
  induction numbers with
  | nil => exact ⟨nofun, fun _ => rfl⟩
  | cons number rest ih =>
    have later := below_nonpos rest
    rw [below_cons, List.forall_mem_cons, ← ih]
    omega

theorem above_eq_zero_iff : above numbers = 0 ↔ ∀ number ∈ numbers, number ≤ 0 := by
  induction numbers with
  | nil => exact ⟨nofun, fun _ => rfl⟩
  | cons number rest ih =>
    have later := above_nonneg rest
    rw [above_cons, List.forall_mem_cons, ← ih]
    omega

variable {low high}

theorem clamp_cases (range : low ≤ high) (number : Int) :
    number ≤ low ∧ clamp low high number = low ∨
      high ≤ number ∧ clamp low high number = high ∨
      low ≤ number ∧ number ≤ high ∧ clamp low high number = number := by
  unfold clamp
  omega

theorem fold_of_one_sign {numbers : List Int}
    (oneSign : below numbers = 0 ∨
      above numbers = 0) {sum : Int} (atLeast : low ≤ sum) (atMost : sum ≤ high) :
    fold low high sum numbers = clamp low high (sum + numbers.sum) := by
  induction numbers generalizing sum with
  | nil =>
    change sum = clamp low high (sum + 0)
    unfold clamp
    omega
  | cons number rest ih =>
    have laterAbove := above_nonneg rest
    have laterBelow := below_nonpos rest
    have total := sum_eq_above_add_below rest
    rw [below_cons, above_cons] at oneSign
    have tail : below rest = 0 ∨ above rest = 0 := by omega
    change fold low high (clamp low high (sum + number)) rest = _
    rw [ih tail (by unfold clamp; omega) (by unfold clamp; omega), List.sum_cons]
    unfold clamp
    omega

theorem fold_of_within {numbers : List Int} {sum : Int} (atLeast : low ≤ sum + below numbers)
    (atMost : sum + above numbers ≤ high) : fold low high sum numbers = sum + numbers.sum := by
  induction numbers generalizing sum with
  | nil => exact (Int.add_zero sum).symm
  | cons number rest ih =>
    have laterAbove := above_nonneg rest
    have laterBelow := below_nonpos rest
    rw [above_cons] at atMost
    rw [below_cons] at atLeast
    have uncut : clamp low high (sum + number) = sum + number := by
      unfold clamp
      omega
    change fold low high (clamp low high (sum + number)) rest = _
    rw [ih (by omega) (by omega), List.sum_cons]
    omega

theorem fold_append (sum : Int) (first second : List Int) :
    fold low high sum (first ++ second) = fold low high (fold low high sum first) second :=
  List.foldl_append

def upFirst (value : α → Int) (items : List α) : List α × List α :=
  (items.filter fun item => 0 ≤ value item, items.filter fun item => !decide (0 ≤ value item))

variable (value : α → Int)

theorem upFirst_perm (items : List α) :
    ((upFirst value items).1 ++ (upFirst value items).2).Perm items :=
  List.filter_append_perm _ items

theorem upFirst_signs (items : List α) :
    below ((upFirst value items).1.map value) = 0 ∧
      above ((upFirst value items).2.map value) = 0 := by
  constructor
  · rw [below_eq_zero_iff]
    intro number member
    obtain ⟨item, kept, equal⟩ := List.mem_map.mp member
    rw [← equal]
    exact of_decide_eq_true (List.mem_filter.mp kept).2
  · rw [above_eq_zero_iff]
    intro number member
    obtain ⟨item, kept, equal⟩ := List.mem_map.mp member
    have sign := (List.mem_filter.mp kept).2
    rw [Bool.not_eq_true', decide_eq_false_iff_not] at sign
    omega

theorem upFirst_sums (items : List α) :
    ((upFirst value items).1.map value).sum = above (items.map value) ∧
      ((upFirst value items).2.map value).sum = below (items.map value) := by
  obtain ⟨noneDown, noneUp⟩ := upFirst_signs value items
  have order := (upFirst_perm value items).map value
  have ups : above (items.map value) =
      above ((upFirst value items).1.map value) + above ((upFirst value items).2.map value) := by
    rw [above, ← (order.map (max 0)).sum_eq, List.map_append, List.map_append, List.sum_append]
    rfl
  have downs : below (items.map value) =
      below ((upFirst value items).1.map value) + below ((upFirst value items).2.map value) := by
    rw [below, ← (order.map (min 0)).sum_eq, List.map_append, List.map_append, List.sum_append]
    rfl
  rw [sum_eq_above_add_below, sum_eq_above_add_below]
  omega

theorem fold_parts {first second : List Int}
    (firstSign : below first = 0 ∨ above first = 0)
    (secondSign : below second = 0 ∨ above second = 0) (lowSign : low < 0) (highSign : 0 < high) :
    fold low high 0 (first ++ second) =
      clamp low high (clamp low high first.sum + second.sum) := by
  rw [fold_append, fold_of_one_sign firstSign lowSign.le highSign.le, Int.zero_add]
  apply fold_of_one_sign secondSign
  · exact le_max_left _ _
  · unfold clamp
    omega

theorem uncut_of_both_orders {up down : Int} (lowSign : low < 0) (highSign : 0 < high)
    (positive : 0 ≤ up) (negative : down ≤ 0)
    (upFirst : clamp low high (clamp low high up + down) = clamp low high (up + down))
    (downFirst : clamp low high (clamp low high down + up) = clamp low high (up + down)) :
    down = 0 ∨ up = 0 ∨ up ≤ high ∧ low ≤ down := by
  have range : low ≤ high := by omega
  have upCut := clamp_cases range up
  have downCut := clamp_cases range down
  have upResult := clamp_cases range (clamp low high up + down)
  have downResult := clamp_cases range (clamp low high down + up)
  omega

/-- Every order of the items gives the sum cut once, exactly when one of the signs is
missing or no side leaves the range. -/
theorem forall_perm_fold_iff (lowSign : low < 0) (highSign : 0 < high) (value : α → Int)
    (items : List α) :
    (∀ order : List α, order.Perm items →
        fold low high 0 (order.map value) = clamp low high (items.map value).sum) ↔
      below (items.map value) = 0 ∨ above (items.map value) = 0 ∨
        above (items.map value) ≤ high ∧ low ≤ below (items.map value) := by
  have positive := above_nonneg (items.map value)
  have negative := below_nonpos (items.map value)
  constructor
  · intro everywhere
    obtain ⟨noneDown, noneUp⟩ := upFirst_signs value items
    obtain ⟨upSum, downSum⟩ := upFirst_sums value items
    have order := upFirst_perm value items
    have up := everywhere _ order
    have down := everywhere _ (List.perm_append_comm.trans order)
    rw [List.map_append, fold_parts (Or.inl noneDown) (Or.inr noneUp) lowSign highSign, upSum,
      downSum, sum_eq_above_add_below] at up
    rw [List.map_append, fold_parts (Or.inr noneUp) (Or.inl noneDown) lowSign highSign, upSum,
      downSum, sum_eq_above_add_below] at down
    exact uncut_of_both_orders lowSign highSign positive negative up down
  · intro fits order perm
    have sameAbove : above (order.map value) = above (items.map value) :=
      ((perm.map value).map (max 0)).sum_eq
    have sameBelow : below (order.map value) = below (items.map value) :=
      ((perm.map value).map (min 0)).sum_eq
    rw [← (perm.map value).sum_eq]
    rw [← sameAbove, ← sameBelow] at fits
    rcases fits with noneDown | noneUp | ⟨atMost, atLeast⟩
    · rw [fold_of_one_sign (Or.inl noneDown) lowSign.le highSign.le, Int.zero_add]
    · rw [fold_of_one_sign (Or.inr noneUp) lowSign.le highSign.le, Int.zero_add]
    · have total := sum_eq_above_add_below (order.map value)
      rw [fold_of_within (by omega) (by omega)]
      unfold clamp
      omega

end SipCore.ClampedSum
