/-
Where the video mixer draws its sources. A relayout numbers the sources in the order of
their stable indices and computes a frame from each number; the layout and the active
stream decide who is moved to the front and who is hidden. Frames are taken before
padding and border, for the grid aspect 1; the drawing itself is left out.
-/

import Mathlib.Data.List.Sort
import SipCore.Video.MixerPositions

namespace SipCore

open Tiling

def hiddenFrame : Rect := ⟨0, 0, 0, 0⟩

structure VideoMixerSource where
  streamId : String
  stableIndex : Int
  hasInput : Bool := true
  frame : Rect := hiddenFrame
  deriving DecidableEq, Repr

structure VideoMixer where
  width : Nat
  height : Nat
  currentLayout : Layout := .grid
  activeStream : String := ""
  sources : List VideoMixerSource := []
  audioOnlySources : List VideoMixerSource := []
  deriving DecidableEq, Repr

namespace VideoMixer

variable (mixer : VideoMixer)

def updateLayout : VideoMixer :=
  if mixer.activeStream = "" then { mixer with currentLayout := .grid } else mixer

def setActiveStream (id : String) : VideoMixer := updateLayout { mixer with activeStream := id }

def setVideoLayout (newLayout : Layout) : VideoMixer :=
  { mixer with
    currentLayout := newLayout
    activeStream := if newLayout = .grid then "" else mixer.activeStream
    sources := mixer.sources.map (fun source =>
      { source with frame := { source.frame with w := 0, h := 0 } }) }

theorem layout_reached (layout : Layout) (active : String) :
    ∃ reached, (reached = (mixer.setVideoLayout layout).setActiveStream active ∨
        reached = (mixer.setActiveStream active).setVideoLayout layout) ∧
      reached.currentLayout = layout ∧ reached.activeStream = active := by
  by_cases inactive : active = ""
  · refine ⟨_, .inr rfl, rfl, ?_⟩
    unfold setVideoLayout setActiveStream updateLayout
    dsimp only
    split
    · exact inactive.symm
    · rfl
  · refine ⟨_, .inl rfl, ?_⟩
    unfold setActiveStream updateLayout
    rw [if_neg inactive]
    exact ⟨rfl, rfl⟩

def sourceCount : Nat := mixer.sources.length + mixer.audioOnlySources.length

def sourceIsActive (source : VideoMixerSource) : Bool :=
  mixer.activeStream ≠ "" && mixer.activeStream = source.streamId

def calcPosition (index : Nat) (source : VideoMixerSource) : VideoMixerSource :=
  { source with
    frame := calcPositionFixed mixer.width mixer.height mixer.sourceCount mixer.currentLayout index }

def processSource (i : Nat) (source : VideoMixerSource) : VideoMixerSource × Nat :=
  if mixer.currentLayout = .oneBig then
    if mixer.sourceIsActive source then (mixer.calcPosition 0 source, i - 1)
    else ({ source with frame := hiddenFrame }, i)
  else if mixer.currentLayout = .oneBigWithSmall && mixer.sourceIsActive source then
    (mixer.calcPosition 0 source, i - 1)
  else (mixer.calcPosition i source, i)

/-- The loop of `process`, with an update pending. A source without a frame is passed
over and keeps its geometry. -/
def processSources : Nat → List VideoMixerSource → List VideoMixerSource
  | _, [] => []
  | i, source :: later =>
    if source.hasInput then
      (mixer.processSource i source).1 ::
        processSources ((mixer.processSource i source).2 + 1) later
    else source :: processSources (i + 1) later

def pending : List VideoMixerSource :=
  (mixer.sources ++ mixer.audioOnlySources).insertionSort
    (fun left right => left.stableIndex ≤ right.stableIndex)

def firstIndex : Nat := if mixer.activeStream = "" then 0 else 1

def process : List VideoMixerSource :=
  if mixer.width = 0 ∨ mixer.height = 0 then mixer.pending
  else mixer.processSources mixer.firstIndex mixer.pending

def shownIndices : Nat → List VideoMixerSource → List Nat
  | _, [] => []
  | i, source :: later =>
    if mixer.currentLayout ≠ .grid && mixer.sourceIsActive source then 0 :: shownIndices i later
    else if mixer.currentLayout = .oneBig then shownIndices (i + 1) later
    else i :: shownIndices (i + 1) later

def draws (source : VideoMixerSource) : Bool :=
  mixer.currentLayout ≠ .oneBig || mixer.sourceIsActive source

def isVisible (rect : Rect) : Bool := rect.w ≠ 0 && rect.h ≠ 0

def visibleFrames (placed : List VideoMixerSource) : List Rect :=
  (placed.map VideoMixerSource.frame).filter isVisible

def frameAt (index : Nat) : Rect :=
  calcPositionFixed mixer.width mixer.height mixer.sourceCount mixer.currentLayout index

def Positive (placed : List VideoMixerSource) : Prop :=
  ∀ source ∈ placed, mixer.draws source = true → 0 < source.frame.w ∧ 0 < source.frame.h

section Loop

variable {mixer} {i : Nat} {sources : List VideoMixerSource}

private theorem processSource_cases (counted : mixer.activeStream ≠ "" → 0 < i)
    (source : VideoMixerSource) :
    (mixer.draws source = true ∧
      ∃ index next, (∀ later, mixer.shownIndices i (source :: later) =
          index :: mixer.shownIndices (next + 1) later) ∧
        mixer.processSource i source = ({ source with frame := mixer.frameAt index }, next)) ∨
    (mixer.draws source = false ∧
      (∀ later, mixer.shownIndices i (source :: later) = mixer.shownIndices (i + 1) later) ∧
      mixer.processSource i source = ({ source with frame := hiddenFrame }, i)) := by
  cases active : mixer.sourceIsActive source with
  | true =>
    have positive : 0 < i := by
      apply counted
      unfold sourceIsActive at active
      rw [Bool.and_eq_true] at active
      exact of_decide_eq_true active.1
    have restored : i - 1 + 1 = i := Nat.sub_add_cancel positive
    left
    cases layout : mixer.currentLayout with
    | grid =>
      refine ⟨by simp [draws, layout], i, i, ?_, ?_⟩
      · intro later
        simp [shownIndices, layout]
      · simp [processSource, layout, calcPosition, frameAt]
    | oneBigWithSmall | oneBig =>
      refine ⟨by simp [draws, layout, active], 0, i - 1, ?_, ?_⟩
      · intro later
        simp [shownIndices, layout, active, restored]
      · simp [processSource, layout, active, calcPosition, frameAt]
  | false =>
    cases layout : mixer.currentLayout with
    | grid | oneBigWithSmall =>
      left
      refine ⟨by simp [draws, layout], i, i, ?_, ?_⟩
      · intro later
        simp [shownIndices, layout, active]
      · simp [processSource, layout, active, calcPosition, frameAt]
    | oneBig =>
      right
      refine ⟨by simp [draws, layout, active], ?_, ?_⟩
      · intro later
        simp [shownIndices, layout, active]
      · simp [processSource, layout, active]

private theorem visibleFrames_eq (counted : mixer.activeStream ≠ "" → 0 < i)
    (full : ∀ source ∈ sources, source.hasInput = true)
    (positive : mixer.Positive (mixer.processSources i sources)) :
    visibleFrames (mixer.processSources i sources) =
      (mixer.shownIndices i sources).map mixer.frameAt ∧
    ∀ index ∈ mixer.shownIndices i sources,
      0 < (mixer.frameAt index).w ∧ 0 < (mixer.frameAt index).h := by
  induction sources generalizing i with
  | nil => exact ⟨rfl, fun _ member => by cases member⟩
  | cons source later ih =>
    have laterFull := fun other member => full other (List.mem_cons_of_mem source member)
    rw [processSources, if_pos (full source List.mem_cons_self)] at positive ⊢
    have own := positive _ List.mem_cons_self
    have others : mixer.Positive
        (mixer.processSources ((mixer.processSource i source).2 + 1) later) :=
      fun other member => positive other (List.mem_cons_of_mem _ member)
    rcases processSource_cases counted source with
      ⟨drawn, index, next, shown, placed⟩ | ⟨notDrawn, shown, placed⟩
    · rw [placed] at own others ⊢
      have size : 0 < (mixer.frameAt index).w ∧ 0 < (mixer.frameAt index).h := own drawn
      have visible : isVisible (mixer.frameAt index) = true := by
        unfold isVisible
        rw [Bool.and_eq_true]
        exact ⟨decide_eq_true size.1.ne', decide_eq_true size.2.ne'⟩
      obtain ⟨frames, sizes⟩ := ih (fun _ => Nat.succ_pos next) laterFull others
      rw [shown]
      constructor
      · unfold visibleFrames at frames ⊢
        rw [List.map_cons, List.filter_cons_of_pos visible, frames, List.map_cons]
      · intro other member
        rcases List.mem_cons.mp member with rfl | behind
        · exact size
        · exact sizes other behind
    · rw [placed] at others ⊢
      obtain ⟨frames, sizes⟩ := ih (fun _ => Nat.succ_pos i) laterFull others
      rw [shown]
      have hidden : ¬ isVisible hiddenFrame = true := by decide
      refine ⟨?_, sizes⟩
      unfold visibleFrames at frames ⊢
      rw [List.map_cons, List.filter_cons_of_neg hidden, frames]

private theorem shownIndices_grid (layout : mixer.currentLayout = .grid) :
    mixer.shownIndices i sources = List.range' i sources.length := by
  induction sources generalizing i with
  | nil => rfl
  | cons source later ih =>
    unfold shownIndices
    rw [layout, List.length_cons, List.range'_succ, ← ih]
    rfl

private theorem shownIndices_oneBig (layout : mixer.currentLayout = .oneBig) :
    mixer.shownIndices i sources = List.replicate (sources.countP mixer.sourceIsActive) 0 := by
  induction sources generalizing i with
  | nil => rfl
  | cons source later ih =>
    unfold shownIndices
    cases active : mixer.sourceIsActive source with
    | true =>
      rw [List.countP_cons_of_pos active, List.replicate_succ, ← ih (i := i), layout]
      rfl
    | false =>
      rw [List.countP_cons_of_neg (Bool.eq_false_iff.mp active), ← ih (i := i + 1), layout]
      rfl

private theorem shownIndices_oneBigWithSmall (layout : mixer.currentLayout = .oneBigWithSmall) :
    (mixer.shownIndices i sources).Perm
      (List.replicate (sources.countP mixer.sourceIsActive) 0 ++
        List.range' i (sources.length - sources.countP mixer.sourceIsActive)) := by
  induction sources generalizing i with
  | nil => exact .refl _
  | cons source later ih =>
    unfold shownIndices
    cases active : mixer.sourceIsActive source with
    | true =>
      rw [List.countP_cons_of_pos active, layout, List.length_cons, Nat.add_sub_add_right]
      exact (ih (i := i)).cons 0
    | false =>
      have bound := List.countP_le_length (p := mixer.sourceIsActive) (l := later)
      rw [List.countP_cons_of_neg (Bool.eq_false_iff.mp active), layout, List.length_cons,
        Nat.succ_sub bound]
      exact ((ih (i := i + 1)).cons i).trans List.perm_middle.symm

end Loop

end VideoMixer

/-! ### The whole relayout -/

namespace VideoMixer

variable (mixer : VideoMixer)

def FullRelayout : Prop :=
  0 < mixer.width ∧ 0 < mixer.height ∧
    ∀ source ∈ mixer.sources ++ mixer.audioOnlySources, source.hasInput = true

def activeCount : Nat := (mixer.sources ++ mixer.audioOnlySources).countP mixer.sourceIsActive

def SoleFits : Prop := mixer.width ≤ 24 ∧ mixer.height ≤ 24

/-- At most one source is the active one where it is moved to the front, and where the
first place stays free the last source still has room behind the others. The rows of a
grid have to fit; only a single row can be too high. -/
def Fits : Prop :=
  match mixer.currentLayout with
  | .oneBig => mixer.activeCount ≤ 1
  | .oneBigWithSmall =>
    mixer.activeCount ≤ 1 ∧
      (mixer.activeStream ≠ "" → mixer.activeCount = 0 →
        if mixer.sourceCount = 1 then mixer.SoleFits
        else (mixer.sourceCount + 1) *
          previewHeight mixer.width mixer.height mixer.sourceCount ≤ mixer.width + 1)
  | .grid =>
    let grid := optimalGrid mixer.width mixer.height mixer.sourceCount
    if mixer.sourceCount = 1 then mixer.activeStream ≠ "" → mixer.SoleFits
    else grid.rows * grid.side mixer.width mixer.height ≤ mixer.height ∧
      (mixer.activeStream ≠ "" → grid.NextFits mixer.width mixer.height mixer.sourceCount)

section Relayout

variable {mixer}

theorem pending_perm (mixer : VideoMixer) :
    mixer.pending.Perm (mixer.sources ++ mixer.audioOnlySources) := List.perm_insertionSort _ _

theorem pending_length (mixer : VideoMixer) : mixer.pending.length = mixer.sourceCount := by
  rw [(pending_perm mixer).length_eq, List.length_append]
  rfl

theorem pending_countP (mixer : VideoMixer) :
    mixer.pending.countP mixer.sourceIsActive = mixer.activeCount :=
  (pending_perm mixer).countP_eq _

private theorem activeCount_le (mixer : VideoMixer) : mixer.activeCount ≤ mixer.sourceCount := by
  rw [← pending_countP, ← pending_length]
  exact List.countP_le_length

theorem activeCount_of_no_active (inactive : mixer.activeStream = "") : mixer.activeCount = 0 := by
  unfold activeCount
  rw [List.countP_eq_zero]
  intro source _ active
  unfold sourceIsActive at active
  rw [inactive] at active
  cases active

theorem firstIndex_eq_one_iff (mixer : VideoMixer) :
    mixer.firstIndex = 1 ↔ mixer.activeStream ≠ "" := by
  unfold firstIndex
  split
  · rename_i inactive
    exact ⟨fun impossible => absurd impossible Nat.zero_ne_one, fun active => absurd inactive active⟩
  · rename_i active
    exact ⟨fun _ => active, fun _ => rfl⟩

theorem firstIndex_le (mixer : VideoMixer) : mixer.firstIndex ≤ 1 := by
  unfold firstIndex
  split
  · exact Nat.zero_le 1
  · exact Nat.le_refl 1

theorem frameAt_of_single (single : mixer.sourceCount = 1) (index : Nat) :
    mixer.frameAt index = soleFrame mixer.width mixer.height index := by
  unfold frameAt calcPositionFixed
  rw [if_pos single]
  rfl

theorem frameAt_of_oneBig (layout : mixer.currentLayout = .oneBig) (index : Nat) :
    mixer.frameAt index = soleFrame mixer.width mixer.height index := by
  unfold frameAt calcPositionFixed
  rw [layout]
  split <;> first | rfl | (rename_i other; split at other <;> cases other)

theorem frameAt_of_grid (layout : mixer.currentLayout = .grid) (several : mixer.sourceCount ≠ 1) :
    mixer.frameAt = (optimalGrid mixer.width mixer.height mixer.sourceCount).frame mixer.width
      mixer.height mixer.sourceCount := by
  unfold frameAt calcPositionFixed
  rw [if_neg several, layout]

theorem sole_tiles_iff (single : mixer.sourceCount = 1) {index : Nat} (reserved : index ≤ 1)
    (positive : 0 < (mixer.frameAt index).w ∧ 0 < (mixer.frameAt index).h) :
    Tiles mixer.width mixer.height [mixer.frameAt index] ↔ (index = 1 → mixer.SoleFits) := by
  rw [frameAt_of_single single] at positive ⊢
  rw [tiles_singleton_iff]
  rcases Nat.le_one_iff_eq_zero_or_eq_one.mp reserved with rfl | rfl
  · exact ⟨fun _ impossible => absurd impossible Nat.zero_ne_one, fun _ => soleFrame_inside_zero _ _⟩
  · rw [soleFrame_inside_one_iff positive]
    exact ⟨fun fits _ => fits, fun fits => fits rfl⟩

def indices (mixer : VideoMixer) : List Nat := mixer.shownIndices mixer.firstIndex mixer.pending

section Layouts

variable (positive : ∀ index ∈ mixer.indices,
  0 < (mixer.frameAt index).w ∧ 0 < (mixer.frameAt index).h)

include positive

theorem oneBig_fits_iff (layout : mixer.currentLayout = .oneBig) :
    Tiles mixer.width mixer.height (mixer.indices.map mixer.frameAt) ↔ mixer.activeCount ≤ 1 := by
  have shown : mixer.indices = List.replicate mixer.activeCount 0 := by
    rw [← pending_countP]
    exact shownIndices_oneBig layout
  rw [shown] at positive ⊢
  rw [List.map_replicate, frameAt_of_oneBig layout]
  apply soleFrames_tiles_iff
  intro front
  rw [← frameAt_of_oneBig layout]
  exact positive 0 (List.mem_replicate.mpr ⟨front.ne', rfl⟩)

theorem grid_fits_iff (canvas : 0 < mixer.width ∧ 0 < mixer.height) (nonempty : 1 ≤ mixer.sourceCount)
    (layout : mixer.currentLayout = .grid) :
    Tiles mixer.width mixer.height (mixer.indices.map mixer.frameAt) ↔ mixer.Fits := by
  have shown : mixer.indices = List.range' mixer.firstIndex mixer.sourceCount := by
    rw [← pending_length]
    exact shownIndices_grid layout
  unfold Fits
  rw [layout]
  dsimp only
  rw [← firstIndex_eq_one_iff]
  by_cases single : mixer.sourceCount = 1
  · rw [shown, single] at positive ⊢
    exact sole_tiles_iff single (firstIndex_le mixer)
      (positive mixer.firstIndex (List.mem_singleton_self _))
  · have several : 2 ≤ mixer.sourceCount := Nat.lt_of_le_of_ne nonempty (Ne.symm single)
    rw [shown, frameAt_of_grid layout single, if_neg single]
    exact GridShape.tiles_iff (optimalGrid_covers canvas.1 canvas.2 several) several
      (firstIndex_le mixer)

theorem previews_fit_iff (several : 2 ≤ mixer.sourceCount)
    (layout : mixer.currentLayout = .oneBigWithSmall) {bigs : Nat} (bounded : bigs ≤ mixer.sourceCount)
    (shown : mixer.indices.Perm
      (List.replicate bigs 0 ++ List.range' 1 (mixer.sourceCount - bigs))) :
    Tiles mixer.width mixer.height (mixer.indices.map mixer.frameAt) ↔
      bigs ≤ 1 ∧ (bigs = 0 → (mixer.sourceCount + 1) *
        previewHeight mixer.width mixer.height mixer.sourceCount ≤ mixer.width + 1) := by
  have drawn : mixer.frameAt =
      calcPositionFixed mixer.width mixer.height mixer.sourceCount .oneBigWithSmall := by
    unfold frameAt
    rw [layout]
  rw [Tiles.perm (shown.map mixer.frameAt), drawn, frames_eq several]
  apply previews_tiles_iff several bounded
  intro front
  have first := positive 0 (shown.mem_iff.mpr
    (List.mem_append_left _ (List.mem_replicate.mpr ⟨front.ne', rfl⟩)))
  rw [drawn, calcPositionFixed_big several] at first
  exact first

private theorem oneBigWithSmall_fits_iff (nonempty : 1 ≤ mixer.sourceCount)
    (layout : mixer.currentLayout = .oneBigWithSmall) :
    Tiles mixer.width mixer.height (mixer.indices.map mixer.frameAt) ↔ mixer.Fits := by
  have shown : mixer.indices.Perm (List.replicate mixer.activeCount 0 ++
      List.range' mixer.firstIndex (mixer.sourceCount - mixer.activeCount)) := by
    rw [← pending_countP, ← pending_length]
    exact shownIndices_oneBigWithSmall layout
  have bounded := activeCount_le mixer
  unfold Fits
  rw [layout]
  by_cases single : mixer.sourceCount = 1
  · rw [if_pos single, ← firstIndex_eq_one_iff]
    rw [single] at shown bounded
    rcases Nat.le_one_iff_eq_zero_or_eq_one.mp bounded with absent | present
    · rw [absent] at shown ⊢
      have sole : mixer.indices = [mixer.firstIndex] := List.perm_singleton.mp shown
      rw [sole] at positive ⊢
      rw [List.map_singleton, sole_tiles_iff single (firstIndex_le mixer)
        (positive _ (List.mem_singleton_self _))]
      exact ⟨fun fits => ⟨Nat.zero_le 1, fun began _ => fits began⟩, fun fits began => fits.2 began rfl⟩
    · rw [present] at shown ⊢
      have sole : mixer.indices = [0] := List.perm_singleton.mp shown
      rw [sole] at positive ⊢
      rw [List.map_singleton, sole_tiles_iff single (Nat.zero_le 1)
        (positive _ (List.mem_singleton_self _))]
      exact ⟨fun _ => ⟨Nat.le_refl 1, fun _ impossible => absurd impossible Nat.one_ne_zero⟩,
        fun _ impossible => absurd impossible Nat.zero_ne_one⟩
  · have several : 2 ≤ mixer.sourceCount := Nat.lt_of_le_of_ne nonempty (Ne.symm single)
    rw [if_neg single]
    by_cases inactive : mixer.activeStream = ""
    · -- the first source is drawn big, though it is not active
      have first : mixer.firstIndex = 0 := if_pos inactive
      have front : List.range' 0 mixer.sourceCount =
          List.replicate 1 0 ++ List.range' 1 (mixer.sourceCount - 1) := by
        obtain ⟨others, count⟩ := Nat.exists_eq_add_of_le' nonempty
        rw [count]
        rfl
      rw [activeCount_of_no_active inactive, first] at shown
      change mixer.indices.Perm (List.range' 0 mixer.sourceCount) at shown
      rw [front] at shown
      rw [previews_fit_iff positive several layout nonempty shown,
        activeCount_of_no_active inactive]
      exact ⟨fun _ => ⟨Nat.zero_le 1, fun active => absurd inactive active⟩,
        fun _ => ⟨Nat.le_refl 1, fun impossible => absurd impossible Nat.one_ne_zero⟩⟩
    · rw [(firstIndex_eq_one_iff mixer).mpr inactive] at shown
      rw [previews_fit_iff positive several layout bounded shown]
      exact ⟨fun fits => ⟨fits.1, fun _ => fits.2⟩, fun fits => ⟨fits.1, fits.2 inactive⟩⟩

end Layouts

end Relayout

/-- After a full relayout with tiles of positive size, the visible frames lie on the
canvas and are apart exactly if the layout fits. -/
theorem process_tiles_iff (nonempty : 1 ≤ mixer.sourceCount) (full : mixer.FullRelayout)
    (positive : mixer.Positive mixer.process) :
    Tiles mixer.width mixer.height (visibleFrames mixer.process) ↔ mixer.Fits := by
  obtain ⟨width, height, inputs⟩ := full
  have canvas : ¬ (mixer.width = 0 ∨ mixer.height = 0) := by omega
  have counted : mixer.activeStream ≠ "" → 0 < mixer.firstIndex := by
    intro active
    rw [(firstIndex_eq_one_iff mixer).mpr active]
    exact Nat.one_pos
  unfold process at positive ⊢
  rw [if_neg canvas] at positive ⊢
  obtain ⟨frames, sizes⟩ := visibleFrames_eq counted
    (fun source member => inputs source ((pending_perm mixer).mem_iff.mp member)) positive
  rw [frames]
  cases layout : mixer.currentLayout with
  | grid => exact grid_fits_iff sizes ⟨width, height⟩ nonempty layout
  | oneBigWithSmall => exact oneBigWithSmall_fits_iff sizes nonempty layout
  | oneBig =>
    have fits : mixer.Fits ↔ mixer.activeCount ≤ 1 := by
      unfold Fits
      rw [layout]
    rw [fits]
    exact oneBig_fits_iff sizes layout

def threeSources : VideoMixer :=
  { width := 1280
    height := 720
    sources := [⟨"video_1", 0, true, hiddenFrame⟩, ⟨"video_2", 1, true, hiddenFrame⟩]
    audioOnlySources := [⟨"audio_3", 2, true, hiddenFrame⟩] }

/-- In the grid without an active stream they are drawn in one row. -/
theorem process_tiles_three_sources :
    Tiles 1280 720 (visibleFrames threeSources.process) ∧
      visibleFrames threeSources.process = [⟨1, 147, 426, 426⟩, ⟨427, 147, 426, 426⟩,
        ⟨853, 147, 426, 426⟩] := by
  have full : threeSources.FullRelayout := ⟨by decide, by decide, by decide⟩
  have positive : threeSources.Positive threeSources.process := by
    unfold Positive
    decide +kernel
  have fits : threeSources.Fits := by
    exact ⟨by decide, fun active => absurd rfl active⟩
  exact ⟨(process_tiles_iff threeSources (by decide) full positive).mpr fits, by decide +kernel⟩

/-- Once one of them is made active, the third is drawn below the row and leaves the
canvas. -/
theorem active_stream_in_grid_leaves_canvas :
    let mixer := (threeSources.setVideoLayout .grid).setActiveStream "video_1"
    mixer.FullRelayout ∧ mixer.Positive mixer.process ∧
      ¬ Tiles mixer.width mixer.height (visibleFrames mixer.process) := by
  refine ⟨⟨by decide, by decide, by decide⟩, ?_, by decide +kernel⟩
  unfold Positive
  decide +kernel

end VideoMixer

end SipCore
