/-
Rectangles on a canvas, and equal tiles that stand in centred rows. The margin before
the first tile is half of what the row leaves free, rounded towards zero, so it is
negative where the row is longer than the canvas.
-/

import Mathlib.Data.List.Perm.Basic

namespace SipCore.Tiling

structure Rect where
  x : Int
  y : Int
  w : Int
  h : Int
  deriving DecidableEq, Repr

def Inside (width height : Nat) (rect : Rect) : Prop :=
  (0 ≤ rect.x ∧ rect.x + rect.w ≤ width) ∧ 0 ≤ rect.y ∧ rect.y + rect.h ≤ height

def Apart (left right : Rect) : Prop :=
  (left.x + left.w ≤ right.x ∨ right.x + right.w ≤ left.x) ∨
    left.y + left.h ≤ right.y ∨ right.y + right.h ≤ left.y

instance (width height : Nat) (rect : Rect) : Decidable (Inside width height rect) :=
  inferInstanceAs (Decidable ((_ ∧ _) ∧ _ ∧ _))

instance (left right : Rect) : Decidable (Apart left right) :=
  inferInstanceAs (Decidable ((_ ∨ _) ∨ _ ∨ _))

theorem Apart.symm {left right : Rect} (apart : Apart left right) : Apart right left :=
  apart.imp Or.symm Or.symm

theorem not_apart_self {rect : Rect} (width : 0 < rect.w) (height : 0 < rect.h) :
    ¬ Apart rect rect := by
  intro apart
  rcases apart with (left | right) | above | below <;> omega

def Tiles (width height : Nat) (rects : List Rect) : Prop :=
  (∀ rect ∈ rects, Inside width height rect) ∧ rects.Pairwise Apart

instance (width height : Nat) (rects : List Rect) : Decidable (Tiles width height rects) :=
  inferInstanceAs (Decidable (_ ∧ _))

theorem Tiles.perm {width height : Nat} {rects others : List Rect} (perm : rects.Perm others) :
    Tiles width height rects ↔ Tiles width height others := by
  unfold Tiles
  rw [perm.pairwise_iff Apart.symm]
  constructor
  · intro tiles
    exact ⟨fun rect member => tiles.1 rect (perm.mem_iff.mpr member), tiles.2⟩
  · intro tiles
    exact ⟨fun rect member => tiles.1 rect (perm.mem_iff.mp member), tiles.2⟩

theorem tiles_singleton_iff (width height : Nat) (rect : Rect) :
    Tiles width height [rect] ↔ Inside width height rect := by
  unfold Tiles
  rw [List.forall_mem_singleton]
  exact and_iff_left (List.pairwise_singleton _ _)

def centred (total count side position : Nat) : Int :=
  position * side + ((total : Int) - count * side).tdiv 2

section Centred

variable {total count side : Nat}

section

variable (fits : count * side ≤ total)
include fits

theorem centred_eq (position : Nat) :
    centred total count side position = (position * side + (total - count * side) / 2 : Nat) := by
  have free : ((total : Int) - count * side) = (total - count * side : Nat) := by
    rw [Int.natCast_sub fits, Int.natCast_mul]
  unfold centred
  rw [free, Int.natCast_add]
  rfl

theorem centred_nonneg (position : Nat) : 0 ≤ centred total count side position := by
  rw [centred_eq fits]
  exact Int.natCast_nonneg _

theorem centred_end_le {position : Nat} (within : position < count) :
    centred total count side position + side ≤ total := by
  have room : (position + 1) * side ≤ count * side := Nat.mul_le_mul_right side within
  rw [Nat.succ_mul] at room
  rw [centred_eq fits]
  omega

theorem centred_next_iff :
    centred total count side count + side ≤ total ↔ (count + 2) * side ≤ total + 1 := by
  rw [centred_eq fits, Nat.add_mul]
  omega

end

theorem centred_alone_iff :
    (0 ≤ centred total 1 side 0 ∧ centred total 1 side 0 + side ≤ total) ↔ side ≤ total := by
  constructor
  · intro inside
    omega
  · intro fits
    have within : 1 * side ≤ total := by omega
    exact ⟨centred_nonneg within 0, centred_end_le within Nat.one_pos⟩

theorem centred_apart (total count side : Nat) {position other : Nat} (different : position ≠ other) :
    centred total count side position + side ≤ centred total count side other ∨
      centred total count side other + side ≤ centred total count side position := by
  have step {first second : Nat} (before : first < second) :
      centred total count side first + side ≤ centred total count side second := by
    have room : (first + 1) * side ≤ second * side := Nat.mul_le_mul_right side before
    rw [Nat.succ_mul] at room
    unfold centred
    omega
  rcases Nat.lt_or_gt_of_ne different with before | behind
  · exact .inl (step before)
  · exact .inr (step behind)

end Centred

/-- The tile at a row and a column, where each row is centred for its own number of
tiles. -/
def tile (width height rows side : Nat) (count : Nat → Nat) (row column : Nat) : Rect :=
  ⟨centred width (count row) side column, centred height rows side row, side, side⟩

theorem tile_apart (width height rows side : Nat) (count : Nat → Nat)
    {row column otherRow otherColumn : Nat}
    (different : row = otherRow → column ≠ otherColumn) :
    Apart (tile width height rows side count row column)
      (tile width height rows side count otherRow otherColumn) := by
  by_cases sameRow : row = otherRow
  · subst sameRow
    exact .inl (centred_apart width (count row) side (different rfl))
  · exact .inr (centred_apart height rows side sameRow)

end SipCore.Tiling
