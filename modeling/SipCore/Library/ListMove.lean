/-
Moving one element of a list to another position, as a specification and as a linked
list does it: the element is spliced behind the target if it comes from the left and
before the target if it comes from the right.
-/

import Mathlib.Data.List.InsertIdx
import Mathlib.Data.List.Nodup
import Mathlib.Data.List.Perm.Basic

namespace SipCore.ListMove

variable {α : Type} {items : List α} {start target : Nat}

def moveElement (items : List α) (start target : Nat) : List α :=
  match items[start]? with
  | none => items
  | some item => (items.eraseIdx start).insertIdx target item

def splice (items : List α) (start target : Nat) : List α :=
  match items[start]? with
  | none => items
  | some item =>
    if start < target then
      (items.take (target + 1)).eraseIdx start ++ item :: items.drop (target + 1)
    else items.take target ++ item :: (items.drop target).eraseIdx (start - target)

theorem insertIdx_append (left right : List α) (item : α) :
    (left ++ right).insertIdx left.length item = left ++ item :: right := by
  induction left with
  | nil => rfl
  | cons head later ih =>
    rw [List.cons_append, List.length_cons, List.insertIdx_succ_cons, ih, List.cons_append]

theorem splice_parts {item : α} (found : items[start]? = some item)
    (inside : target < items.length) :
    ∃ left right, splice items start target = left ++ item :: right ∧
      items.eraseIdx start = left ++ right ∧ left.length = target := by
  unfold splice
  rw [found]
  dsimp only
  split
  · have reach : (items.take (target + 1)).length = target + 1 := by
      rw [List.length_take]
      omega
    refine ⟨_, _, rfl, ?_, ?_⟩
    · rw [← List.eraseIdx_append_of_lt_length (by omega), List.take_append_drop]
    · rw [List.length_eraseIdx_of_lt (by omega)]
      omega
  · have reach : (items.take target).length = target := by
      rw [List.length_take]
      omega
    refine ⟨_, _, rfl, ?_, reach⟩
    have whole := List.eraseIdx_append_of_length_le
      (show (items.take target).length ≤ start by omega) (items.drop target)
    rw [List.take_append_drop, reach] at whole
    exact whole

theorem splice_eq_moveElement (inside : target < items.length) :
    splice items start target = moveElement items start target := by
  cases found : items[start]? with
  | none => simp [splice, moveElement, found]
  | some item =>
    obtain ⟨left, right, spliced, others, reach⟩ := splice_parts found inside
    unfold moveElement
    rw [spliced, found, others, ← reach]
    exact (insertIdx_append left right item).symm

theorem splice_perm (inside : target < items.length) : (splice items start target).Perm items := by
  cases found : items[start]? with
  | none => simp [splice, found]
  | some item =>
    obtain ⟨left, right, spliced, others, _⟩ := splice_parts found inside
    obtain ⟨bound, same⟩ := List.getElem?_eq_some_iff.mp found
    rw [spliced]
    refine List.perm_middle.trans ?_
    rw [← others, ← same]
    exact List.getElem_cons_eraseIdx_perm bound

theorem moveElement_ne (distinct : items.Nodup) (moved : start ≠ target)
    (startInside : start < items.length) (targetInside : target < items.length) :
    moveElement items start target ≠ items := by
  intro unchanged
  have found : items[start]? = some items[start] := List.getElem?_eq_getElem startInside
  have arrived : (moveElement items start target)[target]? = some items[start] := by
    obtain ⟨left, right, spliced, _, reach⟩ := splice_parts found targetInside
    rw [← splice_eq_moveElement targetInside, spliced, ← reach]
    simp
  rw [unchanged] at arrived
  obtain ⟨_, same⟩ := List.getElem?_eq_some_iff.mp arrived
  exact moved ((distinct.getElem_inj_iff).mp same).symm

end SipCore.ListMove
