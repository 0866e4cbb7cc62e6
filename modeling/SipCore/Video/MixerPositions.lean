/-
The frames of the video mixer, each computed from the size of the canvas, the number of
sources and an index, for the grid aspect 1. Each layout is also followed one index
further than there are sources, since the mixer may begin to count at one.
-/

import SipCore.Library.Tiling

namespace SipCore

open Tiling

inductive Layout where
  | grid
  | oneBigWithSmall
  | oneBig
  deriving DecidableEq, Repr

def minLineZoom : Nat := 6

structure GridShape where
  rows : Nat
  columns : Nat
  isVerticalAlign : Bool
  deriving DecidableEq, Repr

/-- The alignment is turned round if a single row or column is left. -/
def optimalGrid (width height n : Nat) : GridShape :=
  if width < height then
    { rows := min (2 * height / width) n
      columns := (n + 1) / min (2 * height / width) n + 1
      isVerticalAlign := (n + 1) / min (2 * height / width) n + 1 ≠ 1 }
  else
    { rows := (n - 1) / min (2 * width / height) n + 1
      columns := min (2 * width / height) n
      isVerticalAlign := (n - 1) / min (2 * width / height) n + 1 = 1 }

def GridShape.side (grid : GridShape) (width height : Nat) : Nat :=
  if grid.isVerticalAlign then width / grid.columns else height / grid.rows

def GridShape.frame (grid : GridShape) (width height n index : Nat) : Rect :=
  { x :=
      (index % grid.columns : Nat) * (grid.side width height : Int) +
        (if n % grid.columns ≠ 0 ∧ index ≥ grid.columns * (grid.rows - 1) then
          ((width : Int) - (n % grid.columns : Nat) * grid.side width height).tdiv 2
        else ((width : Int) - grid.columns * grid.side width height).tdiv 2)
    y :=
      (index / grid.columns : Nat) * (grid.side width height : Int) +
        ((height : Int) - grid.rows * grid.side width height).tdiv 2
    w := grid.side width height
    h := grid.side width height }

def previewHeight (width height n : Nat) : Nat := min (width / n) (height / minLineZoom)

def calcPositionFixed (width height n : Nat) (layout : Layout) (index : Nat) : Rect :=
  match if n = 1 then .oneBig else layout with
  | .oneBig =>
    ⟨index * ((width : Int) - 16) + 8, index * ((height : Int) - 16) + 8, width - 16, height - 16⟩
  | .oneBigWithSmall =>
    if index = 0 then
      ⟨0, previewHeight width height n, width, height - previewHeight width height n⟩
    else
      ⟨((index : Int) - 1) * previewHeight width height n +
          ((width : Int) - ((n : Int) - 1) * previewHeight width height n).tdiv 2,
        0, previewHeight width height n, previewHeight width height n⟩
  | .grid => (optimalGrid width height n).frame width height n index

theorem mul_half_le {count side length other : Nat} (few : count ≤ 2 * length / other)
    (small : side ≤ other / 2) : count * side ≤ length := by
  have first : count * side ≤ 2 * length / other * (other / 2) := Nat.mul_le_mul few small
  have second : 2 * length / other * (other / 2 * 2) ≤ 2 * length / other * other :=
    Nat.mul_le_mul_left _ (Nat.div_mul_le_self other 2)
  have third := Nat.div_mul_le_self (2 * length) other
  rw [← Nat.mul_assoc] at second
  omega

/-- What holds of every grid for two sources or more. Only a single row may be higher
than the canvas. -/
structure GridShape.Covers (grid : GridShape) (width height n : Nat) : Prop where
  columnsPos : 0 < grid.columns
  rowsPos : 0 < grid.rows
  covers : n ≤ grid.columns * grid.rows
  wideEnough : grid.columns * grid.side width height ≤ width
  highEnough : grid.rows ≠ 1 → grid.rows * grid.side width height ≤ height

theorem two_le_double_div {length other : Nat} (positive : 0 < other) (le : other ≤ length) :
    2 ≤ 2 * length / other := by
  rw [Nat.le_div_iff_mul_le positive]
  exact Nat.mul_le_mul_left 2 le

theorem div_le_half {length count : Nat} (two : 2 ≤ count) : length / count ≤ length / 2 :=
  Nat.div_le_div_left two Nat.two_pos

section Shapes

variable {width height n rows columns : Nat}

private theorem vertical_covers (columnsPos : 0 < columns) (rowsPos : 0 < rows)
    (covers : n ≤ columns * rows)
    (few : rows ≠ 1 → 2 ≤ columns ∧ rows ≤ 2 * height / width) :
    GridShape.Covers ⟨rows, columns, true⟩ width height n := by
  refine ⟨columnsPos, rowsPos, covers, Nat.mul_div_le width columns, ?_⟩
  intro several
  obtain ⟨twoColumns, fewRows⟩ := few several
  exact mul_half_le fewRows (div_le_half twoColumns)

private theorem horizontal_covers (columnsPos : 0 < columns) (twoRows : 2 ≤ rows)
    (covers : n ≤ columns * rows) (few : columns ≤ 2 * width / height) :
    GridShape.Covers ⟨rows, columns, false⟩ width height n := by
  refine ⟨columnsPos, Nat.lt_of_lt_of_le Nat.two_pos twoRows, covers, ?_, ?_⟩
  · exact mul_half_le few (div_le_half twoRows)
  · intro _
    exact Nat.mul_div_le height rows

theorem optimalGrid_covers (widthPos : 0 < width) (heightPos : 0 < height) (several : 2 ≤ n) :
    (optimalGrid width height n).Covers width height n := by
  unfold optimalGrid
  by_cases vertical : width < height
  · have ratio := two_le_double_div widthPos (Nat.le_of_lt vertical)
    have twoRows : 2 ≤ min (2 * height / width) n := Nat.le_min.mpr ⟨ratio, several⟩
    have few : min (2 * height / width) n ≤ 2 * height / width := Nat.min_le_left _ _
    have atMost : min (2 * height / width) n ≤ n := Nat.min_le_right _ _
    rw [if_pos vertical]
    generalize min (2 * height / width) n = rows at twoRows few atMost ⊢
    have rowsPos : 0 < rows := by omega
    have full : 1 ≤ (n + 1) / rows := (Nat.one_le_div_iff rowsPos).mpr (by omega)
    have covered := Nat.lt_mul_div_succ (n + 1) rowsPos
    rw [Nat.mul_comm] at covered
    rw [decide_eq_true (show (n + 1) / rows + 1 ≠ 1 by omega)]
    exact vertical_covers (Nat.succ_pos _) rowsPos (Nat.le_of_lt (Nat.lt_of_succ_lt covered))
      (fun _ => ⟨by omega, few⟩)
  · have ratio := two_le_double_div heightPos (Nat.not_lt.mp vertical)
    have twoColumns : 2 ≤ min (2 * width / height) n := Nat.le_min.mpr ⟨ratio, several⟩
    have few : min (2 * width / height) n ≤ 2 * width / height := Nat.min_le_left _ _
    rw [if_neg vertical]
    generalize min (2 * width / height) n = columns at twoColumns few ⊢
    have columnsPos : 0 < columns := by omega
    have covers : n ≤ columns * ((n - 1) / columns + 1) :=
      Nat.le_of_pred_lt (Nat.lt_mul_div_succ (n - 1) columnsPos)
    by_cases single : (n - 1) / columns + 1 = 1
    · rw [decide_eq_true single]
      exact vertical_covers columnsPos (Nat.succ_pos _) covers (fun several => absurd single several)
    · rw [decide_eq_false single]
      exact horizontal_covers columnsPos (Nat.lt_of_le_of_ne (Nat.succ_pos _) (Ne.symm single)) covers
        few

end Shapes

variable {index : Nat}

namespace GridShape

variable {grid : GridShape} {width height n : Nat}

/-- The number of tiles a row is centred for: the last one may not be full. -/
def rowCount (grid : GridShape) (n row : Nat) : Nat :=
  if n % grid.columns ≠ 0 ∧ grid.rows - 1 ≤ row then n % grid.columns else grid.columns

section

variable (shape : grid.Covers width height n)
include shape

theorem frame_eq_tile (index : Nat) :
    grid.frame width height n index =
      tile width height grid.rows (grid.side width height) (grid.rowCount n)
        (index / grid.columns) (index % grid.columns) := by
  have lastRow : grid.columns * (grid.rows - 1) ≤ index ↔
      grid.rows - 1 ≤ index / grid.columns := by
    rw [Nat.le_div_iff_mul_le shape.columnsPos, Nat.mul_comm]
  unfold frame tile centred rowCount
  simp only [ge_iff_le, lastRow]
  split <;> rfl

theorem rowCount_side_le (row : Nat) : grid.rowCount n row * grid.side width height ≤ width := by
  refine Nat.le_trans (Nat.mul_le_mul_right _ ?_) shape.wideEnough
  unfold rowCount
  split
  · exact Nat.le_of_lt (Nat.mod_lt n shape.columnsPos)
  · exact Nat.le_refl _

theorem frames_apart {other : Nat} (different : index ≠ other) :
    Apart (grid.frame width height n index) (grid.frame width height n other) := by
  rw [frame_eq_tile shape, frame_eq_tile shape]
  apply tile_apart
  intro sameRow sameColumn
  apply different
  rw [← Nat.div_add_mod index grid.columns, ← Nat.div_add_mod other grid.columns, sameRow,
    sameColumn]

private theorem cell_of_lt (within : index < n) :
    index / grid.columns < grid.rows ∧
      index % grid.columns < grid.rowCount n (index / grid.columns) := by
  have row : index / grid.columns < grid.rows := by
    rw [Nat.div_lt_iff_lt_mul shape.columnsPos, Nat.mul_comm]
    exact Nat.lt_of_lt_of_le within shape.covers
  refine ⟨row, ?_⟩
  unfold rowCount
  split
  · rename_i last
    -- the row is the one the last source stands in, and the source stands behind
    have sameRow : n / grid.columns = index / grid.columns := by
      apply Nat.le_antisymm
      · have full : n ≠ grid.columns * grid.rows := by
          intro full
          apply last.1
          rw [full, Nat.mul_mod_right]
        have below : n / grid.columns < grid.rows := by
          rw [Nat.div_lt_iff_lt_mul shape.columnsPos, Nat.mul_comm]
          exact Nat.lt_of_le_of_ne shape.covers full
        omega
      · exact Nat.div_le_div_right (Nat.le_of_lt within)
    have own := Nat.div_add_mod index grid.columns
    have whole := Nat.div_add_mod n grid.columns
    rw [sameRow] at whole
    omega
  · exact Nat.mod_lt index shape.columnsPos

theorem inside_of_lt (high : grid.rows * grid.side width height ≤ height) (within : index < n) :
    Inside width height (grid.frame width height n index) := by
  obtain ⟨row, column⟩ := cell_of_lt shape within
  rw [frame_eq_tile shape]
  exact ⟨⟨centred_nonneg (rowCount_side_le shape _) _,
      centred_end_le (rowCount_side_le shape _) column⟩,
    centred_nonneg high _, centred_end_le high row⟩

end

/-- The tile behind the last one still lies on the canvas. It begins a new row if the
rows are full, and else it follows in the last row if that is the row of the sources. -/
def NextFits (grid : GridShape) (width height n : Nat) : Prop :=
  (n = grid.columns * grid.rows →
    (grid.rows + 2) * grid.side width height ≤ height + 1) ∧
  (n % grid.columns ≠ 0 → grid.columns * (grid.rows - 1) ≤ n →
    (n % grid.columns + 2) * grid.side width height ≤ width + 1)

section

variable (shape : grid.Covers width height n)
include shape

private theorem rowCount_next_of_last (partly : n % grid.columns ≠ 0)
    (last : grid.columns * (grid.rows - 1) ≤ n) :
    grid.rowCount n (n / grid.columns) = n % grid.columns := by
  refine if_pos ⟨partly, ?_⟩
  rw [Nat.le_div_iff_mul_le shape.columnsPos, Nat.mul_comm]
  exact last

private theorem rowCount_next_of_not_last
    (other : ¬ (n % grid.columns ≠ 0 ∧ grid.columns * (grid.rows - 1) ≤ n)) :
    grid.rowCount n (n / grid.columns) = grid.columns := by
  refine if_neg ?_
  rw [Nat.le_div_iff_mul_le shape.columnsPos, Nat.mul_comm]
  exact other

theorem next_row_lt (room : n ≠ grid.columns * grid.rows) : n / grid.columns < grid.rows := by
  rw [Nat.div_lt_iff_lt_mul shape.columnsPos, Nat.mul_comm]
  exact Nat.lt_of_le_of_ne shape.covers room

theorem next_inside_iff (high : grid.rows * grid.side width height ≤ height) :
    Inside width height (grid.frame width height n n) ↔ grid.NextFits width height n := by
  have wide := rowCount_side_le shape (n / grid.columns)
  rw [frame_eq_tile shape]
  unfold tile
  constructor
  · intro inside
    constructor
    · intro full
      have row : n / grid.columns = grid.rows := by
        rw [full, Nat.mul_div_cancel_left _ shape.columnsPos]
      rw [row] at inside
      exact (centred_next_iff high).mp inside.2.2
    · intro partly last
      rw [rowCount_next_of_last shape partly last] at inside wide
      exact (centred_next_iff wide).mp inside.1.2
  · intro next
    refine ⟨⟨centred_nonneg wide _, ?_⟩, centred_nonneg high _, ?_⟩
    · by_cases last : n % grid.columns ≠ 0 ∧ grid.columns * (grid.rows - 1) ≤ n
      · rw [rowCount_next_of_last shape last.1 last.2] at wide ⊢
        exact (centred_next_iff wide).mpr (next.2 last.1 last.2)
      · rw [rowCount_next_of_not_last shape last] at wide ⊢
        exact centred_end_le wide (Nat.mod_lt n shape.columnsPos)
    · by_cases full : n = grid.columns * grid.rows
      · have row : n / grid.columns = grid.rows := by
          rw [full, Nat.mul_div_cancel_left _ shape.columnsPos]
        rw [row]
        exact (centred_next_iff high).mpr (next.1 full)
      · exact centred_end_le high (next_row_lt shape full)

theorem high_of_single_row (single : grid.rows = 1) (within : index < grid.columns)
    (inside : Inside width height (grid.frame width height n index)) :
    grid.rows * grid.side width height ≤ height := by
  rw [frame_eq_tile shape, Nat.div_eq_of_lt within] at inside
  rw [single] at inside ⊢
  rw [Nat.one_mul]
  exact centred_alone_iff.mp inside.2

theorem tiles_iff (several : 2 ≤ n) {start : Nat} (reserved : start ≤ 1) :
    Tiles width height ((List.range' start n).map (grid.frame width height n)) ↔
      grid.rows * grid.side width height ≤ height ∧
        (start = 1 → grid.NextFits width height n) := by
  have apart : ((List.range' start n).map (grid.frame width height n)).Pairwise Apart := by
    rw [List.pairwise_map]
    apply List.Pairwise.imp _ List.pairwise_lt_range'
    intro index other before
    exact frames_apart shape (Nat.ne_of_lt before)
  constructor
  · intro tiles
    have inside {index : Nat} (behind : start ≤ index) (before : index < start + n) :
        Inside width height (grid.frame width height n index) :=
      tiles.1 _ (List.mem_map_of_mem (List.mem_range'_1.mpr ⟨behind, before⟩))
    have high : grid.rows * grid.side width height ≤ height := by
      by_cases single : grid.rows = 1
      · -- the second source is in the only row, whatever the first index is
        have covers := shape.covers
        rw [single, Nat.mul_one] at covers
        exact high_of_single_row shape single (Nat.lt_of_lt_of_le several covers)
          (inside reserved (Nat.lt_of_lt_of_le several (Nat.le_add_left n start)))
      · exact shape.highEnough single
    refine ⟨high, ?_⟩
    intro began
    exact (next_inside_iff shape high).mp (inside (by omega) (by omega))
  · intro fitting
    obtain ⟨high, next⟩ := fitting
    refine ⟨?_, apart⟩
    intro rect member
    obtain ⟨index, position, rfl⟩ := List.mem_map.mp member
    obtain ⟨behind, before⟩ := List.mem_range'_1.mp position
    by_cases within : index < n
    · exact inside_of_lt shape high within
    · have last : index = n := by omega
      rw [last]
      exact (next_inside_iff shape high).mpr (next (by omega))

end

end GridShape

/-! ### Big frames and previews -/

section BigFrames

variable {width height n : Nat}

private theorem previewHeight_le (width height n : Nat) :
    n * previewHeight width height n ≤ width ∧ previewHeight width height n ≤ height := by
  constructor
  · exact Nat.le_trans (Nat.mul_le_mul_left n (Nat.min_le_left _ _)) (Nat.mul_div_le width n)
  · exact Nat.le_trans (Nat.min_le_right _ _) (Nat.div_le_self height minLineZoom)

def bigFrame (width height n : Nat) : Rect :=
  ⟨0, previewHeight width height n, width, height - previewHeight width height n⟩

def previewFrame (width height n position : Nat) : Rect :=
  ⟨centred width (n - 1) (previewHeight width height n) position, 0,
    previewHeight width height n, previewHeight width height n⟩

theorem calcPositionFixed_big (several : 2 ≤ n) :
    calcPositionFixed width height n .oneBigWithSmall 0 = bigFrame width height n := by
  unfold calcPositionFixed
  rw [if_neg (by omega)]
  rfl

theorem frames_eq (several : 2 ≤ n) (bigs previews : Nat) :
    (List.replicate bigs 0 ++ List.range' 1 previews).map
        (calcPositionFixed width height n .oneBigWithSmall) =
      List.replicate bigs (bigFrame width height n) ++
        (List.range previews).map (previewFrame width height n) := by
  have notAlone : n ≠ 1 := by omega
  have others : (n : Int) - 1 = (n - 1 : Nat) := by omega
  have preview (position : Nat) :
      calcPositionFixed width height n .oneBigWithSmall (1 + position) =
        previewFrame width height n position := by
    have before : ((1 + position : Nat) : Int) - 1 = position := by omega
    unfold calcPositionFixed previewFrame centred
    rw [if_neg notAlone]
    rw [if_neg (by omega), before, others]
  rw [List.map_append, List.map_replicate, calcPositionFixed_big several,
    List.range'_eq_map_range, List.map_map]
  congr 2
  funext position
  exact preview position

private theorem previewFrame_apart (width height n : Nat) {position other : Nat}
    (different : position ≠ other) :
    Apart (previewFrame width height n position) (previewFrame width height n other) :=
  Or.inl (centred_apart width (n - 1) (previewHeight width height n) different)

theorem bigFrame_inside (width height n : Nat) : Inside width height (bigFrame width height n) := by
  unfold Inside bigFrame
  dsimp only
  omega

theorem bigFrame_apart (width height n position : Nat) :
    Apart (bigFrame width height n) (previewFrame width height n position) := by
  right
  right
  exact Int.le_of_eq (Int.zero_add _)

private theorem previewFrame_inside_iff (several : 2 ≤ n) {position : Nat} (within : position < n) :
    Inside width height (previewFrame width height n position) ↔
      (position = n - 1 → (n + 1) * previewHeight width height n ≤ width + 1) := by
  obtain ⟨wide, high⟩ := previewHeight_le width height n
  have row : (n - 1) * previewHeight width height n ≤ width :=
    Nat.le_trans (Nat.mul_le_mul_right _ (Nat.sub_le n 1)) wide
  have next : n - 1 + 2 = n + 1 := by omega
  constructor
  · intro inside last
    rw [last] at inside
    rw [← next]
    exact (centred_next_iff row).mp inside.1.2
  · intro fits
    refine ⟨⟨centred_nonneg row position, ?_⟩, Int.le_refl 0, ?_⟩
    · by_cases before : position < n - 1
      · exact centred_end_le row before
      · have last : position = n - 1 := by omega
        have fitting := fits last
        rw [← next] at fitting
        rw [last]
        exact (centred_next_iff row).mpr fitting
    · change (0 : Int) + previewHeight width height n ≤ height
      omega

/-- Big frames all have the same place, below the previews. Without one, the last
preview stands one place too far. -/
theorem previews_tiles_iff (several : 2 ≤ n) {bigs : Nat} (bounded : bigs ≤ n)
    (positive : 0 < bigs → 0 < (bigFrame width height n).w ∧ 0 < (bigFrame width height n).h) :
    Tiles width height (List.replicate bigs (bigFrame width height n) ++
        (List.range (n - bigs)).map (previewFrame width height n)) ↔
      bigs ≤ 1 ∧ (bigs = 0 → (n + 1) * previewHeight width height n ≤ width + 1) := by
  unfold Tiles
  rw [List.pairwise_append, List.pairwise_replicate, List.pairwise_map]
  constructor
  · intro tiles
    obtain ⟨inside, overlap, _⟩ := tiles
    constructor
    · rcases overlap with few | apart
      · exact few
      · by_contra more
        obtain ⟨wide, high⟩ := positive (by omega)
        exact not_apart_self wide high apart
    · intro missing
      have member : n - 1 ∈ List.range (n - bigs) := List.mem_range.mpr (by omega)
      have last := inside _ (List.mem_append_right _ (List.mem_map_of_mem member))
      exact (previewFrame_inside_iff several (by omega)).mp last rfl
  · intro fitting
    obtain ⟨few, missing⟩ := fitting
    refine ⟨?_, .inl few, ?_, ?_⟩
    · intro rect member
      rcases List.mem_append.mp member with front | behind
      · rw [List.eq_of_mem_replicate front]
        exact bigFrame_inside width height n
      · obtain ⟨position, within, rfl⟩ := List.mem_map.mp behind
        rw [List.mem_range] at within
        apply (previewFrame_inside_iff several (by omega)).mpr
        intro last
        exact missing (by omega)
    · apply List.Pairwise.imp _ List.pairwise_lt_range
      intro position other before
      exact previewFrame_apart width height n (Nat.ne_of_lt before)
    · intro big front preview behind
      obtain ⟨position, _, rfl⟩ := List.mem_map.mp behind
      rw [List.eq_of_mem_replicate front]
      exact bigFrame_apart width height n position

def soleFrame (width height index : Nat) : Rect :=
  ⟨index * ((width : Int) - 16) + 8, index * ((height : Int) - 16) + 8, width - 16, height - 16⟩

theorem soleFrame_inside_zero (width height : Nat) :
    Inside width height (soleFrame width height 0) := by
  unfold Inside soleFrame
  dsimp only
  omega

theorem soleFrame_inside_one_iff
    (positive : 0 < (soleFrame width height 1).w ∧ 0 < (soleFrame width height 1).h) :
    Inside width height (soleFrame width height 1) ↔ width ≤ 24 ∧ height ≤ 24 := by
  unfold soleFrame at positive
  unfold Inside soleFrame
  dsimp only at positive ⊢
  omega

theorem soleFrames_tiles_iff {bigs : Nat}
    (positive : 0 < bigs → 0 < (soleFrame width height 0).w ∧ 0 < (soleFrame width height 0).h) :
    Tiles width height (List.replicate bigs (soleFrame width height 0)) ↔ bigs ≤ 1 := by
  unfold Tiles
  rw [List.pairwise_replicate]
  constructor
  · intro tiles
    rcases tiles.2 with few | apart
    · exact few
    · by_contra more
      obtain ⟨wide, high⟩ := positive (by omega)
      exact not_apart_self wide high apart
  · intro few
    refine ⟨?_, .inl few⟩
    intro rect member
    rw [List.eq_of_mem_replicate member]
    exact soleFrame_inside_zero width height

end BigFrames

end SipCore
