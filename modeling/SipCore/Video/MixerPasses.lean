/-
The passes of the video mixer. A pass goes through sources and placeholders in the order
of their indices and draws each; it lays a source out anew if an update is pending or if
it has met a source that is not laid out yet or whose frames have changed in size. What
is in front of that source keeps its geometry. Sources carry the index they were last
drawn at, which the code does not keep. Positions are any function of the index, of one
size from the second index on.
-/

import SipCore.Library.GuardedRun
import SipCore.Video.MixerLayout

namespace SipCore

open Tiling

structure InputFrame where
  width : Nat
  height : Nat
  orientation : Int := 0
  renders : Bool := true
  deriving DecidableEq, Repr

def InputFrame.isEmpty (frame : InputFrame) : Bool := frame.width = 0 || frame.height = 0

structure RenderSource where
  streamId : String
  isAudioOnly : Bool := false
  input : Option InputFrame := some ⟨0, 0, 0, true⟩
  frame : Rect := hiddenFrame
  tile : Option Nat := none
  lastLayoutFrameWidth : Nat := 0
  lastLayoutFrameHeight : Nat := 0
  lastLayoutOrientation : Int := 0
  hasVideo : Bool := true
  deriving DecidableEq, Repr

namespace RenderSource

variable (source : RenderSource)

def place : Option Nat × Rect := (source.tile, source.frame)

def isUnplaced : Bool := source.frame.w = 0 || source.frame.h = 0

def hasChanged (frame : InputFrame) : Bool :=
  !frame.isEmpty && (frame.width ≠ source.lastLayoutFrameWidth ||
    frame.height ≠ source.lastLayoutFrameHeight ||
    frame.orientation ≠ source.lastLayoutOrientation)

def noteFrame (frame : InputFrame) : RenderSource :=
  { source with
    lastLayoutFrameWidth := frame.width
    lastLayoutFrameHeight := frame.height
    lastLayoutOrientation := frame.orientation }

def rendered (frame : InputFrame) : Bool :=
  source.frame.w > 0 && source.frame.h > 0 && !frame.isEmpty && frame.renders

end RenderSource

structure MixerGeometry where
  position : Nat → Nat → Nat → Layout → Nat → Rect
  same_size : ∀ width height count layout left right, 1 ≤ left → 1 ≤ right →
    (position width height count layout left).w = (position width height count layout right).w ∧
    (position width height count layout left).h = (position width height count layout right).h

structure RenderState where
  width : Nat
  height : Nat
  currentLayout : Layout := .grid
  activeStream : String := ""
  layoutUpdated : Nat := 0
  pending : List RenderSource := []
  sourcesUpdated : Nat := 0
  deriving DecidableEq, Repr

structure PassLoop where
  i : Nat
  needsUpdate : Bool
  layoutInvalidated : Bool
  deriving DecidableEq, Repr

namespace RenderState

variable (geometry : MixerGeometry) (mixer : RenderState)

def sourceIsActive (streamId : String) : Bool :=
  mixer.activeStream ≠ "" && mixer.activeStream = streamId

def calcPosition (index : Nat) (source : RenderSource) : RenderSource :=
  { source with
    frame := geometry.position mixer.width mixer.height mixer.pending.length
      mixer.currentLayout index
    tile := some index }

def hide (source : RenderSource) : RenderSource :=
  { source with frame := hiddenFrame, tile := none, hasVideo := false }

def processSource (i : Nat) (source : RenderSource) : RenderSource × Nat :=
  if mixer.currentLayout = .oneBig then
    if mixer.sourceIsActive source.streamId then (mixer.calcPosition geometry 0 source, i - 1)
    else (hide source, i)
  else if mixer.currentLayout = .oneBigWithSmall && mixer.sourceIsActive source.streamId then
    (mixer.calcPosition geometry 0 source, i - 1)
  else (mixer.calcPosition geometry i source, i)

def layOut (needed : Bool) (i : Nat) (source : RenderSource) : RenderSource × Nat :=
  if needed then mixer.processSource geometry i source else (source, i)

def visitAudioOnly (loop : PassLoop) (source : RenderSource) : RenderSource × PassLoop :=
  match source.input with
  | none => (source, { loop with i := loop.i + 1 })
  | some _ =>
    let laid := mixer.layOut geometry (loop.needsUpdate || source.isUnplaced) loop.i source
    (laid.1, { loop with i := laid.2 + 1 })

def drawVideo (loop : PassLoop) (needed : Bool) (frame : InputFrame) (source : RenderSource) :
    RenderSource × PassLoop :=
  let laid := mixer.layOut geometry needed loop.i source
  ({ laid.1 with hasVideo := laid.1.rendered frame },
    { i := laid.2 + 1
      needsUpdate := needed
      layoutInvalidated := loop.layoutInvalidated || laid.1.rendered frame ≠ laid.1.hasVideo })

def visitVideo (loop : PassLoop) (source : RenderSource) : RenderSource × PassLoop :=
  match source.input with
  | none =>
    (source, { loop with i := loop.i + 1, needsUpdate := loop.needsUpdate || source.isUnplaced })
  | some frame =>
    mixer.drawVideo geometry loop
      (loop.needsUpdate || source.isUnplaced || source.hasChanged frame) frame
      (if source.hasChanged frame then source.noteFrame frame else source)

def visit (loop : PassLoop) (source : RenderSource) : RenderSource × PassLoop :=
  if source.isAudioOnly then mixer.visitAudioOnly geometry loop source
  else mixer.visitVideo geometry loop source

def visitAll : PassLoop → List RenderSource → List RenderSource × PassLoop
  | loop, [] => ([], loop)
  | loop, source :: later =>
    ((mixer.visit geometry loop source).1 ::
        (visitAll (mixer.visit geometry loop source).2 later).1,
      (visitAll (mixer.visit geometry loop source).2 later).2)

def firstLoop : PassLoop :=
  { i := if mixer.activeStream = "" then 0 else 1
    needsUpdate := mixer.layoutUpdated > 0
    layoutInvalidated := false }

def drawAll : List RenderSource × PassLoop :=
  mixer.visitAll geometry mixer.firstLoop mixer.pending

def hasCanvas : Bool := mixer.width ≠ 0 && mixer.height ≠ 0

def process : RenderState :=
  if mixer.hasCanvas then
    if (mixer.drawAll geometry).2.needsUpdate && !(mixer.drawAll geometry).2.layoutInvalidated then
      { mixer with
        pending := (mixer.drawAll geometry).1
        layoutUpdated := 0
        sourcesUpdated := mixer.sourcesUpdated + 1 }
    else { mixer with pending := (mixer.drawAll geometry).1 }
  else mixer

end RenderState

variable {i : Nat} {loop : PassLoop} {streamId : String}

def fixedGeometry (margin : Nat) : MixerGeometry where
  position width height count layout index :=
    ⟨(calcPositionFixed width height count layout index).x + margin,
      (calcPositionFixed width height count layout index).y + margin,
      (calcPositionFixed width height count layout index).w - margin * 2,
      (calcPositionFixed width height count layout index).h - margin * 2⟩
  same_size := by
    intro width height count layout left right leftPositive rightPositive
    have sizes : (calcPositionFixed width height count layout left).w =
          (calcPositionFixed width height count layout right).w ∧
        (calcPositionFixed width height count layout left).h =
          (calcPositionFixed width height count layout right).h := by
      unfold calcPositionFixed
      split
      · exact ⟨rfl, rfl⟩
      · rw [if_neg (by omega), if_neg (by omega)]
        exact ⟨rfl, rfl⟩
      · exact ⟨rfl, rfl⟩
    rw [sizes.1, sizes.2]
    exact ⟨rfl, rfl⟩

namespace RenderState

variable (geometry : MixerGeometry) (mixer : RenderState)

/-- The layout moves the active stream to the front, and the index does not count it. -/
def skips (streamId : String) : Bool :=
  mixer.currentLayout = .oneBigWithSmall && mixer.sourceIsActive streamId

def placeAt (index : Nat) : Option Nat × Rect :=
  (some index,
    geometry.position mixer.width mixer.height mixer.pending.length mixer.currentLayout index)

def target (i : Nat) (streamId : String) : Option Nat × Rect :=
  if mixer.currentLayout = .oneBig then
    if mixer.sourceIsActive streamId then mixer.placeAt geometry 0 else (none, hiddenFrame)
  else if mixer.skips streamId then mixer.placeAt geometry 0
  else mixer.placeAt geometry i

def nextIndex (i : Nat) (streamId : String) : Nat :=
  if mixer.currentLayout ≠ .grid && mixer.sourceIsActive streamId then i else i + 1

def lays (needsUpdate : Bool) (source : RenderSource) : Bool :=
  needsUpdate || source.isUnplaced ||
    (!source.isAudioOnly && (source.input.map source.hasChanged).getD false)

def carries (needsUpdate : Bool) (source : RenderSource) : Bool :=
  if source.isAudioOnly then needsUpdate else lays needsUpdate source

section Visit

variable {geometry mixer}

private theorem processSource_place (i : Nat) (source : RenderSource) :
    (mixer.processSource geometry i source).1.place = mixer.target geometry i source.streamId := by
  unfold processSource target skips
  split
  · split <;> rfl
  · split <;> rfl

theorem processSource_next {source : RenderSource} (counted : mixer.activeStream ≠ "" → 1 ≤ i) :
    (mixer.processSource geometry i source).2 + 1 = mixer.nextIndex i source.streamId := by
  have positive : mixer.sourceIsActive source.streamId = true → i - 1 + 1 = i := by
    intro active
    unfold sourceIsActive at active
    rw [Bool.and_eq_true] at active
    exact Nat.sub_add_cancel (counted (of_decide_eq_true active.1))
  unfold processSource nextIndex
  cases active : mixer.sourceIsActive source.streamId with
  | true =>
    have restored := positive active
    cases layout : mixer.currentLayout <;> simp [restored]
  | false => cases layout : mixer.currentLayout <;> simp

structure SameSource (left right : RenderSource) : Prop where
  streamId : left.streamId = right.streamId
  isAudioOnly : left.isAudioOnly = right.isAudioOnly
  input : left.input = right.input

private theorem processSource_same (i : Nat) (source : RenderSource) :
    SameSource (mixer.processSource geometry i source).1 source := by
  unfold processSource
  split
  · split <;> exact ⟨rfl, rfl, rfl⟩
  · split <;> exact ⟨rfl, rfl, rfl⟩

theorem layOut_same (needed : Bool) (i : Nat) (source : RenderSource) :
    SameSource (mixer.layOut geometry needed i source).1 source := by
  unfold layOut
  split
  · exact processSource_same i source
  · exact ⟨rfl, rfl, rfl⟩

theorem layOut_place (needed : Bool) (i : Nat) (source : RenderSource) :
    (mixer.layOut geometry needed i source).1.place =
      if needed then mixer.target geometry i source.streamId else source.place := by
  unfold layOut
  split
  · exact processSource_place i source
  · rfl

theorem layOut_next (counted : mixer.activeStream ≠ "" → 1 ≤ i) (needed : Bool)
    (source : RenderSource) :
    (mixer.layOut geometry needed i source).2 + 1 =
      if needed then mixer.nextIndex i source.streamId else i + 1 := by
  unfold layOut
  split
  · exact processSource_next counted
  · rfl

theorem noted_same (frame : InputFrame) (source : RenderSource) :
    SameSource (if source.hasChanged frame then source.noteFrame frame else source) source ∧
      (if source.hasChanged frame then source.noteFrame frame else source).place =
        source.place := by
  split <;> exact ⟨⟨rfl, rfl, rfl⟩, rfl⟩

structure Visited (geometry : MixerGeometry) (mixer : RenderState) (loop : PassLoop)
    (source : RenderSource) (result : RenderSource × PassLoop) : Prop where
  same : SameSource result.1 source
  place : result.1.place =
    if lays loop.needsUpdate source then mixer.target geometry loop.i source.streamId
    else source.place
  i : result.2.i =
    if lays loop.needsUpdate source then mixer.nextIndex loop.i source.streamId else loop.i + 1
  needsUpdate : result.2.needsUpdate = carries loop.needsUpdate source

private theorem visitAudioOnly_spec {source : RenderSource} {frame : InputFrame}
    (counted : mixer.activeStream ≠ "" → 1 ≤ loop.i) (kind : source.isAudioOnly = true)
    (input : source.input = some frame) :
    Visited geometry mixer loop source (mixer.visitAudioOnly geometry loop source) := by
  have needed : lays loop.needsUpdate source = (loop.needsUpdate || source.isUnplaced) := by
    simp [lays, kind]
  unfold visitAudioOnly
  rw [input]
  constructor
  · exact layOut_same _ _ _
  · rw [needed]
    exact layOut_place _ _ _
  · rw [needed]
    exact layOut_next counted _ _
  · simp [carries, kind]

private theorem visitVideo_spec {source : RenderSource} {frame : InputFrame}
    (counted : mixer.activeStream ≠ "" → 1 ≤ loop.i) (kind : source.isAudioOnly = false)
    (input : source.input = some frame) :
    Visited geometry mixer loop source (mixer.visitVideo geometry loop source) := by
  have needed : lays loop.needsUpdate source =
      (loop.needsUpdate || source.isUnplaced || source.hasChanged frame) := by
    simp [lays, kind, input]
  obtain ⟨noted, place⟩ := noted_same frame source
  unfold visitVideo
  rw [input]
  dsimp only
  rw [← needed]
  generalize (if source.hasChanged frame then source.noteFrame frame else source) = known
    at noted place
  unfold drawVideo
  constructor
  · have laid : SameSource
        (mixer.layOut geometry (lays loop.needsUpdate source) loop.i known).1 known :=
      layOut_same _ _ known
    exact ⟨laid.streamId.trans noted.streamId, laid.isAudioOnly.trans noted.isAudioOnly,
      laid.input.trans noted.input⟩
  · rw [← place, ← noted.streamId]
    exact layOut_place _ _ known
  · rw [← noted.streamId]
    exact layOut_next counted _ known
  · simp [carries, kind]

theorem visit_spec {source : RenderSource} (counted : mixer.activeStream ≠ "" → 1 ≤ loop.i)
    (given : source.input ≠ none) :
    Visited geometry mixer loop source (mixer.visit geometry loop source) := by
  obtain ⟨frame, input⟩ := Option.ne_none_iff_exists'.mp given
  unfold visit
  cases kind : source.isAudioOnly with
  | true => exact visitAudioOnly_spec counted kind input
  | false => exact visitVideo_spec counted kind input

end Visit

/-! ### Full and partial layouts -/

def fullPlaces : Nat → List RenderSource → List (Option Nat × Rect)
  | _, [] => []
  | i, source :: later =>
    mixer.target geometry i source.streamId ::
      fullPlaces (mixer.nextIndex i source.streamId) later

/-- A source is laid out behind an active one that keeps its place: `passed` records that
the loop came by such a one. -/
def isShifted (needsUpdate passed : Bool) : List RenderSource → Bool
  | [] => false
  | source :: later =>
    (passed && lays needsUpdate source && !mixer.skips source.streamId) ||
      isShifted (carries needsUpdate source)
        (passed || (mixer.skips source.streamId && !lays needsUpdate source)) later

section Places

variable {geometry mixer}

private theorem nextIndex_of_index (indexed : mixer.currentLayout ≠ .oneBig) :
    mixer.nextIndex i streamId = if mixer.skips streamId then i else i + 1 := by
  unfold nextIndex skips
  cases layout : mixer.currentLayout with
  | oneBig => exact absurd layout indexed
  | grid => simp
  | oneBigWithSmall => simp

private theorem target_eq_iff {left right : Nat} (indexed : mixer.currentLayout ≠ .oneBig) :
    mixer.target geometry left streamId = mixer.target geometry right streamId ↔
      mixer.skips streamId = true ∨ left = right := by
  unfold target placeAt
  rw [if_neg indexed, if_neg indexed]
  cases skipped : mixer.skips streamId with
  | true => simp
  | false =>
    simp only [Bool.false_eq_true, if_false, false_or, Prod.mk.injEq, Option.some.injEq]
    constructor
    · exact And.left
    · intro same
      rw [same]
      exact ⟨rfl, rfl⟩

theorem nextIndex_positive (counted : mixer.activeStream ≠ "" → 1 ≤ i) :
    mixer.activeStream ≠ "" → 1 ≤ mixer.nextIndex i streamId := by
  intro active
  have positive := counted active
  unfold nextIndex
  split <;> omega

theorem Visited.counted {source : RenderSource} {result : RenderSource × PassLoop}
    (visited : Visited geometry mixer loop source result)
    (counted : mixer.activeStream ≠ "" → 1 ≤ loop.i) :
    mixer.activeStream ≠ "" → 1 ≤ result.2.i := by
  intro active
  rw [visited.i]
  split
  · exact nextIndex_positive counted active
  · exact Nat.succ_pos _

theorem in_place_of_not_laid {needsUpdate : Bool} {source : RenderSource}
    {later : List RenderSource}
    (settled : needsUpdate = true ∨
      (source :: later).map RenderSource.place = mixer.fullPlaces geometry i (source :: later))
    (kept : lays needsUpdate source = false) :
    source.place = mixer.target geometry i source.streamId := by
  rcases settled with pending | placed
  · rw [pending] at kept
    simp [lays] at kept
  · exact (List.cons.inj placed).1

theorem settled_later {needsUpdate : Bool} {source : RenderSource} {later : List RenderSource}
    (settled : needsUpdate = true ∨
      (source :: later).map RenderSource.place = mixer.fullPlaces geometry i (source :: later)) :
    carries needsUpdate source = true ∨
      later.map RenderSource.place =
        mixer.fullPlaces geometry (mixer.nextIndex i source.streamId) later := by
  rcases settled with pending | placed
  · simp [carries, lays, pending]
  · exact .inr (List.cons.inj placed).2

/-- The running index is ahead of the one of a full layout once an active source was
passed by. -/
structure Aligned (passed : Bool) (running full : Nat) : Prop where
  le : full ≤ running
  same_iff : running = full ↔ passed = false

theorem Aligned.next {passed : Bool} {running full : Nat} (aligned : Aligned passed running full)
    (indexed : mixer.currentLayout ≠ .oneBig) (laid : Bool) (streamId : String) :
    Aligned (passed || (mixer.skips streamId && !laid))
      (if laid then mixer.nextIndex running streamId else running + 1)
      (mixer.nextIndex full streamId) := by
  have below := aligned.le
  have same := aligned.same_iff
  rw [nextIndex_of_index indexed, nextIndex_of_index indexed]
  cases laid with
  | true =>
    cases skipped : mixer.skips streamId with
    | true => exact ⟨by simpa using below, by simpa using same⟩
    | false => exact ⟨by simpa using below, by simpa using same⟩
  | false =>
    cases skipped : mixer.skips streamId with
    | true =>
      refine ⟨by simp; omega, ?_⟩
      simp
      omega
    | false => exact ⟨by simpa using below, by simpa using same⟩

theorem places_full_iff (indexed : mixer.currentLayout ≠ .oneBig) (sources : List RenderSource)
    (loop : PassLoop) (i : Nat) (passed : Bool)
    (given : ∀ source ∈ sources, source.input ≠ none)
    (counted : mixer.activeStream ≠ "" → 1 ≤ i)
    (aligned : Aligned passed loop.i i)
    (settled : loop.needsUpdate = true ∨
      sources.map RenderSource.place = mixer.fullPlaces geometry i sources) :
    (mixer.visitAll geometry loop sources).1.map RenderSource.place =
        mixer.fullPlaces geometry i sources ↔
      mixer.isShifted loop.needsUpdate passed sources = false := by
  induction sources generalizing loop i passed with
  | nil => exact ⟨fun _ => rfl, fun _ => rfl⟩
  | cons source later ih =>
    have ahead : mixer.activeStream ≠ "" → 1 ≤ loop.i :=
      fun active => Nat.le_trans (counted active) aligned.le
    have visited : Visited geometry mixer loop source (mixer.visit geometry loop source) :=
      visit_spec ahead (given source List.mem_cons_self)
    have rest := ih (mixer.visit geometry loop source).2 (mixer.nextIndex i source.streamId)
      (passed || (mixer.skips source.streamId && !lays loop.needsUpdate source))
      (fun other member => given other (List.mem_cons_of_mem source member))
      (nextIndex_positive counted)
      (by rw [visited.i]; exact aligned.next indexed _ _)
      (by rw [visited.needsUpdate]; exact settled_later settled)
    have here : (mixer.visit geometry loop source).1.place =
        mixer.target geometry i source.streamId ↔
        (passed && lays loop.needsUpdate source && !mixer.skips source.streamId) = false := by
      rw [visited.place]
      cases laid : lays loop.needsUpdate source with
      | true =>
        rw [if_pos rfl, target_eq_iff indexed, aligned.same_iff]
        cases passed <;> simp
      | false =>
        simp [in_place_of_not_laid settled laid]
    unfold visitAll fullPlaces isShifted
    rw [List.map_cons, List.cons.injEq, Bool.or_eq_false_iff, here, rest, visited.needsUpdate]

private theorem places_full_of_oneBig (layout : mixer.currentLayout = .oneBig)
    (sources : List RenderSource) (loop : PassLoop) (i : Nat)
    (given : ∀ source ∈ sources, source.input ≠ none)
    (counted : mixer.activeStream ≠ "" → 1 ≤ loop.i)
    (settled : loop.needsUpdate = true ∨
      sources.map RenderSource.place = mixer.fullPlaces geometry i sources) :
    (mixer.visitAll geometry loop sources).1.map RenderSource.place =
      mixer.fullPlaces geometry i sources := by
  induction sources generalizing loop i with
  | nil => rfl
  | cons source later ih =>
    have visited : Visited geometry mixer loop source (mixer.visit geometry loop source) :=
      visit_spec counted (given source List.mem_cons_self)
    have anywhere : mixer.target geometry loop.i source.streamId =
        mixer.target geometry i source.streamId := by
      unfold target
      rw [if_pos layout, if_pos layout]
    have here : (mixer.visit geometry loop source).1.place =
        mixer.target geometry i source.streamId := by
      rw [visited.place]
      cases laid : lays loop.needsUpdate source with
      | true => exact anywhere
      | false => exact in_place_of_not_laid settled laid
    unfold visitAll fullPlaces
    rw [List.map_cons]
    congr 1
    apply ih
    · exact fun other member => given other (List.mem_cons_of_mem source member)
    · exact visited.counted counted
    · rw [visited.needsUpdate]
      exact settled_later settled

private theorem isShifted_of_oneBig (layout : mixer.currentLayout = .oneBig) (needsUpdate : Bool)
    (sources : List RenderSource) : mixer.isShifted needsUpdate false sources = false := by
  induction sources generalizing needsUpdate with
  | nil => rfl
  | cons source later ih =>
    have counted : mixer.skips source.streamId = false := by simp [skips, layout]
    unfold isShifted
    rw [counted]
    exact ih _

private theorem isShifted_of_pending (sources : List RenderSource) :
    mixer.isShifted true false sources = false := by
  induction sources with
  | nil => rfl
  | cons source later ih =>
    have laid : lays true source = true := by simp [lays]
    have carried : carries true source = true := by simp [carries, laid]
    unfold isShifted
    rw [laid, carried]
    simpa using ih

end Places

def firstIndex : Nat := if mixer.activeStream = "" then 0 else 1

def actives : List Bool := mixer.pending.map (fun source => mixer.sourceIsActive source.streamId)

structure SameScene (left right : RenderState) : Prop where
  width : left.width = right.width
  height : left.height = right.height
  currentLayout : left.currentLayout = right.currentLayout
  firstIndex : left.firstIndex = right.firstIndex
  actives : left.actives = right.actives

section Scene

variable {geometry} {left right : RenderState} {leftStream rightStream : String}

theorem SameScene.target (same : SameScene left right) (i : Nat)
    (active : left.sourceIsActive leftStream = right.sourceIsActive rightStream) :
    left.target geometry i leftStream = right.target geometry i rightStream := by
  have count : left.pending.length = right.pending.length := by
    simpa [RenderState.actives] using congrArg List.length same.actives
  unfold RenderState.target placeAt skips
  rw [same.width, same.height, same.currentLayout, active, count]

theorem SameScene.nextIndex (same : SameScene left right) (i : Nat)
    (active : left.sourceIsActive leftStream = right.sourceIsActive rightStream) :
    left.nextIndex i leftStream = right.nextIndex i rightStream := by
  unfold RenderState.nextIndex
  rw [same.currentLayout, active]

theorem SameScene.fullPlaces (same : SameScene left right) (i : Nat)
    (leftSources rightSources : List RenderSource)
    (actives : leftSources.map (fun source => left.sourceIsActive source.streamId) =
      rightSources.map (fun source => right.sourceIsActive source.streamId)) :
    left.fullPlaces geometry i leftSources = right.fullPlaces geometry i rightSources := by
  induction leftSources generalizing i rightSources with
  | nil =>
    cases rightSources with
    | nil => rfl
    | cons source later => cases actives
  | cons source later ih =>
    cases rightSources with
    | nil => cases actives
    | cons other others =>
      obtain ⟨here, rest⟩ := List.cons.inj actives
      unfold RenderState.fullPlaces
      rw [same.target i here, same.nextIndex i here, ih _ others rest]

end Scene

def allGiven : Bool := mixer.pending.all (fun source => source.input.isSome)

def places : List (Option Nat × Rect) := mixer.pending.map RenderSource.place

/-- An update is pending, or every source is where a full layout puts it. -/
def Settled : Prop :=
  0 < mixer.layoutUpdated ∨
    mixer.places = mixer.fullPlaces geometry mixer.firstIndex mixer.pending

def relayout : RenderState :=
  process geometry { mixer with layoutUpdated := mixer.layoutUpdated + 1 }

/-- In this pass nothing is laid out behind an active source that keeps its place. -/
def isInOrder : Bool := !mixer.isShifted (mixer.layoutUpdated > 0) false mixer.pending

section Pass

variable {geometry mixer}

private theorem given_of_allGiven (all : mixer.allGiven = true) :
    ∀ source ∈ mixer.pending, source.input ≠ none := by
  intro source member
  rw [← Option.isSome_iff_ne_none]
  exact List.all_eq_true.mp all source member

theorem SameScene.full {other : RenderState} (same : SameScene other mixer) :
    other.fullPlaces geometry other.firstIndex other.pending =
      mixer.fullPlaces geometry mixer.firstIndex mixer.pending := by
  rw [same.firstIndex]
  exact same.fullPlaces _ _ _ same.actives

theorem firstIndex_counted : mixer.activeStream ≠ "" → 1 ≤ mixer.firstIndex := by
  intro active
  unfold firstIndex
  rw [if_neg active]

theorem places_process (canvas : mixer.hasCanvas = true) :
    (mixer.process geometry).places =
      (mixer.drawAll geometry).1.map RenderSource.place := by
  unfold process
  rw [if_pos canvas]
  split <;> rfl

theorem drawAll_full_iff (all : mixer.allGiven = true) (settled : mixer.Settled geometry) :
    (mixer.drawAll geometry).1.map RenderSource.place =
        mixer.fullPlaces geometry mixer.firstIndex mixer.pending ↔
      mixer.isInOrder = true := by
  have given := given_of_allGiven all
  have start : mixer.firstLoop.needsUpdate = true ∨
      mixer.places = mixer.fullPlaces geometry mixer.firstIndex mixer.pending := by
    exact settled.imp_left decide_eq_true
  unfold isInOrder
  rw [Bool.not_eq_true']
  by_cases layout : mixer.currentLayout = .oneBig
  · rw [isShifted_of_oneBig layout]
    constructor
    · intro _
      rfl
    · intro _
      exact places_full_of_oneBig layout mixer.pending mixer.firstLoop mixer.firstIndex given
        firstIndex_counted start
  · exact places_full_iff layout mixer.pending mixer.firstLoop mixer.firstIndex false given
      firstIndex_counted ⟨Nat.le_refl _, ⟨fun _ => rfl, fun _ => rfl⟩⟩ start

private theorem places_relayout (canvas : mixer.hasCanvas = true) (all : mixer.allGiven = true) :
    (mixer.relayout geometry).places =
      mixer.fullPlaces geometry mixer.firstIndex mixer.pending := by
  have same : SameScene { mixer with layoutUpdated := mixer.layoutUpdated + 1 } mixer :=
    ⟨rfl, rfl, rfl, rfl, rfl⟩
  have asked : isInOrder { mixer with layoutUpdated := mixer.layoutUpdated + 1 } = true := by
    exact congrArg Bool.not (isShifted_of_pending _)
  rw [← same.full]
  refine (places_process ?_).trans ((drawAll_full_iff ?_ (.inl (Nat.succ_pos _))).mpr asked)
  · exact canvas
  · exact all

private theorem lawful_iff (canvas : mixer.hasCanvas = true) (all : mixer.allGiven = true)
    (settled : mixer.Settled geometry) :
    (mixer.process geometry).places = (mixer.relayout geometry).places ↔
      mixer.isInOrder = true := by
  rw [places_relayout canvas all, places_process canvas]
  exact drawAll_full_iff all settled

private theorem fixedGeometry_zero (width height count : Nat) (layout : Layout) (index : Nat) :
    (fixedGeometry 0).position width height count layout index =
      calcPositionFixed width height count layout index := by
  simp [fixedGeometry]

def ShowsSource (source : RenderSource) (drawn : VideoMixerSource) : Prop :=
  source.streamId = drawn.streamId ∧ source.input.isSome = drawn.hasInput ∧
    source.frame = drawn.frame

/-- The state has the sources and placeholders of the mixer, in the order of a pass. -/
structure Shows (mixer : RenderState) (video : VideoMixer) : Prop where
  width : mixer.width = video.width
  height : mixer.height = video.height
  currentLayout : mixer.currentLayout = video.currentLayout
  activeStream : mixer.activeStream = video.activeStream
  sources : List.Forall₂ ShowsSource mixer.pending video.pending

section VideoMixer

variable {video : VideoMixer} (shows : mixer.Shows video)
include shows

theorem Shows.processSource (i : Nat) {source : RenderSource} {drawn : VideoMixerSource}
    (same : ShowsSource source drawn) :
    ShowsSource (mixer.processSource (fixedGeometry 0) i source).1
        (video.processSource i drawn).1 ∧
      (mixer.processSource (fixedGeometry 0) i source).2 = (video.processSource i drawn).2 := by
  have count : mixer.pending.length = video.sourceCount :=
    shows.sources.length_eq.trans video.pending_length
  have active : mixer.sourceIsActive source.streamId = video.sourceIsActive drawn := by
    unfold sourceIsActive VideoMixer.sourceIsActive
    rw [shows.activeStream, same.1]
  have placed : ∀ index, ShowsSource (mixer.calcPosition (fixedGeometry 0) index source)
      (video.calcPosition index drawn) := by
    intro index
    refine ⟨same.1, same.2.1, ?_⟩
    unfold calcPosition VideoMixer.calcPosition
    rw [count, shows.width, shows.height, shows.currentLayout, fixedGeometry_zero]
  unfold RenderState.processSource VideoMixer.processSource
  rw [active, shows.currentLayout]
  split
  · split
    · exact ⟨placed 0, rfl⟩
    · exact ⟨⟨same.1, same.2.1, rfl⟩, rfl⟩
  · split
    · exact ⟨placed 0, rfl⟩
    · exact ⟨placed i, rfl⟩

-- A pass with an update pending lays out every source it has a frame of, whatever is known
-- of the frames before.
theorem Shows.visit {source : RenderSource} {drawn : VideoMixerSource}
    (same : ShowsSource source drawn) (pending : loop.needsUpdate = true) :
    ShowsSource (mixer.visit (fixedGeometry 0) loop source).1
        (if drawn.hasInput then (video.processSource loop.i drawn).1 else drawn) ∧
      (mixer.visit (fixedGeometry 0) loop source).2.i =
        (if drawn.hasInput then (video.processSource loop.i drawn).2 else loop.i) + 1 ∧
      (mixer.visit (fixedGeometry 0) loop source).2.needsUpdate = true := by
  have given := same.2.1
  unfold RenderState.visit visitAudioOnly visitVideo drawVideo layOut
  cases input : source.input with
  | none =>
    rw [input] at given
    rw [← given, pending]
    split <;> exact ⟨same, rfl, rfl⟩
  | some frame =>
    rw [input] at given
    have noted : ShowsSource (if source.hasChanged frame then source.noteFrame frame else source)
        drawn := by
      split <;> exact same
    rw [← given, pending]
    split
    · have laid := shows.processSource loop.i same
      exact ⟨laid.1, congrArg (· + 1) laid.2, rfl⟩
    · have laid := shows.processSource loop.i noted
      exact ⟨laid.1, congrArg (· + 1) laid.2, rfl⟩

theorem Shows.visitAll {sources : List RenderSource} {drawn : List VideoMixerSource}
    (same : List.Forall₂ ShowsSource sources drawn) (pending : loop.needsUpdate = true) :
    List.Forall₂ ShowsSource (mixer.visitAll (fixedGeometry 0) loop sources).1
      (video.processSources loop.i drawn) := by
  induction same generalizing loop with
  | nil => exact .nil
  | @cons source shown later drawn first _ ih =>
    have visited := shows.visit first pending
    have behind := ih visited.2.2
    rw [visited.2.1] at behind
    unfold RenderState.visitAll VideoMixer.processSources
    cases given : shown.hasInput with
    | true =>
      rw [given] at visited behind
      exact .cons visited.1 behind
    | false =>
      rw [given] at visited behind
      exact .cons visited.1 behind

/-- A pass with an update pending draws every source and placeholder where the relayout
draws it, and passes over those it has no frame of. -/
theorem process_shows_relayout (pending : 0 < mixer.layoutUpdated) :
    List.Forall₂ ShowsSource (mixer.process (fixedGeometry 0)).pending video.process := by
  have canvas : mixer.hasCanvas = true ↔ ¬ (video.width = 0 ∨ video.height = 0) := by
    unfold hasCanvas
    rw [shows.width, shows.height]
    simp
  have first : mixer.firstLoop.i = video.firstIndex := by
    unfold firstLoop VideoMixer.firstIndex
    rw [shows.activeStream]
  have asked : mixer.firstLoop.needsUpdate = true := decide_eq_true pending
  have drawn := shows.visitAll shows.sources asked
  rw [first] at drawn
  unfold process VideoMixer.process
  by_cases ready : mixer.hasCanvas = true
  · rw [if_pos ready, if_neg (canvas.mp ready)]
    split <;> exact drawn
  · rw [if_neg ready, if_pos (not_not.mp (fun absent => ready (canvas.mpr absent)))]
    exact shows.sources

end VideoMixer

/-- Two videos of different sizes, the second one drawn before, and a placeholder. -/
def threeShown : RenderState :=
  { width := 1280
    height := 720
    layoutUpdated := 1
    pending := [{ streamId := "video_1", input := some ⟨640, 480, 0, true⟩ },
      { streamId := "video_2", input := some ⟨1920, 1080, 90, true⟩, hasVideo := false
        lastLayoutFrameWidth := 1280, lastLayoutFrameHeight := 720 },
      { streamId := "audio_3", isAudioOnly := true, hasVideo := false }] }

theorem process_shows_relayout_of_three :
    List.Forall₂ ShowsSource (threeShown.process (fixedGeometry 0)).pending
        VideoMixer.threeSources.process ∧
      (threeShown.process (fixedGeometry 0)).pending.map RenderSource.frame =
        [⟨1, 147, 426, 426⟩, ⟨427, 147, 426, 426⟩, ⟨853, 147, 426, 426⟩] :=
  ⟨process_shows_relayout ⟨rfl, rfl, rfl, rfl,
    .cons ⟨rfl, rfl, rfl⟩ (.cons ⟨rfl, rfl, rfl⟩ (.cons ⟨rfl, rfl, rfl⟩ .nil))⟩ (by decide),
    by decide +kernel⟩

theorem visit_same (loop : PassLoop) (source : RenderSource) :
    SameSource (mixer.visit geometry loop source).1 source := by
  cases input : source.input with
  | none =>
    unfold visit visitAudioOnly visitVideo
    rw [input]
    split <;> exact ⟨rfl, rfl, rfl⟩
  | some frame =>
    unfold visit visitAudioOnly visitVideo drawVideo
    rw [input]
    split
    · exact layOut_same _ _ source
    · have laid := (layOut_same (loop.needsUpdate || source.isUnplaced || source.hasChanged frame)
        loop.i (if source.hasChanged frame then source.noteFrame frame else source) :
          SameSource (mixer.layOut geometry _ _ _).1 _)
      have noted := (noted_same frame source).1
      exact ⟨laid.streamId.trans noted.streamId, laid.isAudioOnly.trans noted.isAudioOnly,
        laid.input.trans noted.input⟩

theorem visitAll_kept {β : Type} {read : RenderSource → β}
    (kept : ∀ left right, SameSource left right → read left = read right) (loop : PassLoop)
    (sources : List RenderSource) :
    (mixer.visitAll geometry loop sources).1.map read = sources.map read := by
  induction sources generalizing loop with
  | nil => rfl
  | cons source later ih =>
    unfold visitAll
    rw [List.map_cons, List.map_cons, ih, kept _ _ (visit_same loop source)]

private theorem process_scene : SameScene (mixer.process geometry) mixer := by
  have actives : (mixer.drawAll geometry).1.map
      (fun source => mixer.sourceIsActive source.streamId) = mixer.actives :=
    visitAll_kept (fun _ _ same => congrArg mixer.sourceIsActive same.streamId) _ _
  unfold process
  split
  · split <;> exact ⟨rfl, rfl, rfl, rfl, actives⟩
  · exact ⟨rfl, rfl, rfl, rfl, rfl⟩

theorem Settled.process (settled : mixer.Settled geometry) (all : mixer.allGiven = true)
    (inOrder : mixer.hasCanvas = true → mixer.isInOrder = true) :
    (mixer.process geometry).Settled geometry := by
  cases canvas : mixer.hasCanvas with
  | false =>
    unfold RenderState.process
    rw [canvas]
    exact settled
  | true =>
    right
    rw [process_scene.full, places_process canvas]
    exact (drawAll_full_iff all settled).mpr (inOrder canvas)

end Pass

/-! ### Runs -/

/-- `change` stands for every operation that asks for a new layout, whatever else it
does. `relabel` and `leaveActive` are what `attachVideo` and `detachVideo` do to the table
of streams and to the active stream, which asks for none. -/
inductive Event where
  | change (next : RenderState)
  | frame (index : Nat) (input : InputFrame)
  | relabel (index : Nat) (streamId : String)
  | leaveActive
  | process
  deriving DecidableEq, Repr

def step (geometry : MixerGeometry) (mixer : RenderState) : Event → RenderState
  | .change next => { next with layoutUpdated := next.layoutUpdated + 1 }
  | .frame index input =>
    { mixer with
      pending := mixer.pending.modify index (fun source => { source with input := some input }) }
  | .relabel index streamId =>
    { mixer with
      pending := mixer.pending.modify index (fun source => { source with streamId }) }
  | .leaveActive => { mixer with activeStream := "" }
  | .process => mixer.process geometry

/-- Passes have a frame of every source, and nobody begins or ceases to be active without
a new layout. -/
def isPlain (mixer : RenderState) : Event → Bool
  | .relabel index streamId =>
    mixer.layoutUpdated > 0 || mixer.pending[index]?.all (fun source =>
      mixer.sourceIsActive streamId = mixer.sourceIsActive source.streamId)
  | .leaveActive => mixer.layoutUpdated > 0 || mixer.activeStream = ""
  | .process => mixer.allGiven
  | _ => true

def isLawful (geometry : MixerGeometry) (mixer : RenderState) : Event → Bool
  | .process =>
    !mixer.hasCanvas || (mixer.process geometry).places = (mixer.relayout geometry).places
  | _ => true

def keepsOrder (mixer : RenderState) : Event → Bool
  | .process => !mixer.hasCanvas || mixer.isInOrder
  | _ => true

def fresh (width height : Nat) : RenderState := { width, height }

section Runs

variable {geometry mixer}

private theorem settled_fresh (width height : Nat) : (fresh width height).Settled geometry :=
  Or.inr rfl

theorem map_modify_of_kept {α β : Type} {list : List α} {index : Nat} {change : α → α}
    {read : α → β}
    (kept : ∀ element, list[index]? = some element → read (change element) = read element) :
    (list.modify index change).map read = list.map read := by
  apply List.ext_getElem?
  intro position
  rw [List.getElem?_map, List.getElem?_map, List.getElem?_modify]
  by_cases here : index = position
  · cases found : list[position]? with
    | none => rfl
    | some element =>
      rw [← here] at found
      simp [here, kept element found]
  · simp [here]

theorem Settled.of_scene {other : RenderState} (settled : mixer.Settled geometry)
    (scene : SameScene other mixer) (places : other.places = mixer.places)
    (pending : other.layoutUpdated = mixer.layoutUpdated) : other.Settled geometry := by
  unfold Settled
  rw [places, scene.full, pending]
  exact settled

section

variable (settled : mixer.Settled geometry)
include settled

theorem Settled.frame (index : Nat) (input : InputFrame) :
    (mixer.step geometry (.frame index input)).Settled geometry := by
  apply settled.of_scene
  · exact ⟨rfl, rfl, rfl, rfl, map_modify_of_kept (fun _ _ => rfl)⟩
  · exact map_modify_of_kept (fun _ _ => rfl)
  · rfl

theorem Settled.relabel {index : Nat} (plain : mixer.isPlain (.relabel index streamId) = true) :
    (mixer.step geometry (.relabel index streamId)).Settled geometry := by
  unfold isPlain at plain
  rw [Bool.or_eq_true, decide_eq_true_eq] at plain
  rcases plain with pending | kept
  · exact .inl pending
  · apply settled.of_scene
    · refine ⟨rfl, rfl, rfl, rfl, map_modify_of_kept ?_⟩
      intro source found
      rw [found] at kept
      exact of_decide_eq_true kept
    · exact map_modify_of_kept (fun _ _ => rfl)
    · rfl

theorem Settled.leaveActive (plain : mixer.isPlain .leaveActive = true) :
    (mixer.step geometry .leaveActive).Settled geometry := by
  unfold isPlain at plain
  simp only [Bool.or_eq_true, decide_eq_true_eq] at plain
  rcases plain with pending | inactive
  · exact .inl pending
  · have same : mixer.step geometry .leaveActive = mixer := by
      change { mixer with activeStream := "" } = mixer
      rw [← inactive]
    rw [same]
    exact settled

private theorem lawful_event_iff {event : Event} (plain : mixer.isPlain event = true) :
    mixer.isLawful geometry event = true ↔ mixer.keepsOrder event = true := by
  cases event with
  | process =>
    unfold isLawful keepsOrder
    cases canvas : mixer.hasCanvas with
    | false => simp
    | true =>
      simp only [Bool.not_true, Bool.false_or, decide_eq_true_eq]
      exact lawful_iff canvas plain settled
  | change next => exact Iff.rfl
  | frame index input => exact Iff.rfl
  | relabel index streamId => exact Iff.rfl
  | leaveActive => exact Iff.rfl

theorem Settled.step {event : Event} (plain : mixer.isPlain event = true)
    (ordered : mixer.keepsOrder event = true) : (mixer.step geometry event).Settled geometry := by
  cases event with
  | change next => exact .inl (Nat.succ_pos _)
  | frame index input => exact settled.frame index input
  | relabel index streamId => exact settled.relabel plain
  | leaveActive => exact settled.leaveActive plain
  | process =>
    apply settled.process plain
    intro canvas
    unfold keepsOrder at ordered
    rw [canvas] at ordered
    exact ordered

end

theorem partial_layouts_full_iff (geometry : MixerGeometry) (width height : Nat)
    (events : List Event)
    (plain : Run.Guarded (step geometry) (fun mixer event => mixer.isPlain event = true)
      (fresh width height) events) :
    Run.Guarded (step geometry) (fun mixer event => mixer.isLawful geometry event = true)
        (fresh width height) events ↔
      Run.Guarded (step geometry) (fun mixer event => mixer.keepsOrder event = true)
        (fresh width height) events := by
  constructor
  · intro lawful
    have initially : (fresh width height).Settled geometry := settled_fresh width height
    apply Run.guarded_of_invariant _ _ initially (plain.and lawful)
    · intro mixer event settled steps
      exact settled.step steps.1 ((lawful_event_iff settled steps.1).mp steps.2)
    · intro mixer event settled steps
      exact (lawful_event_iff settled steps.1).mp steps.2
  · intro ordered
    have initially : (fresh width height).Settled geometry := settled_fresh width height
    apply Run.guarded_of_invariant _ _ initially (plain.and ordered)
    · intro mixer event settled steps
      exact settled.step steps.1 steps.2
    · intro mixer event settled steps
      exact (lawful_event_iff settled steps.1).mpr steps.2

def threeSources (layout : Layout) (active : String) : RenderState :=
  { width := 1280
    height := 720
    currentLayout := layout
    activeStream := active
    pending := ["ada", "bob", "cyd"].map (fun streamId =>
      { streamId, input := some { width := 640, height := 480 } }) }

def widening (layout : Layout) (active : String) (index : Nat) : List Event :=
  [.change (threeSources layout active), .process, .frame index { width := 854, height := 480 },
    .process]

theorem grid_full_when_source_widens :
    Run.Guarded (step (fixedGeometry 0))
      (fun mixer event => mixer.isLawful (fixedGeometry 0) event = true)
      (fresh 1280 720) (widening .grid "" 1) :=
  (partial_layouts_full_iff (fixedGeometry 0) 1280 720 (widening .grid "" 1)
    (by decide +kernel)).mpr (by decide +kernel)

/-- The previews of the second and the third source move to the right, where a full layout
draws them one preview further to the left. -/
theorem preview_drawn_one_place_too_far :
    Run.Guarded (step (fixedGeometry 0)) (fun mixer event => mixer.isPlain event = true)
        (fresh 1280 720) (widening .oneBigWithSmall "ada" 1) ∧
      (Run.after (step (fixedGeometry 0)) (fresh 1280 720)
          (widening .oneBigWithSmall "ada" 1)).places =
        [(some 0, ⟨0, 120, 1280, 600⟩), (some 2, ⟨640, 0, 120, 120⟩),
          (some 3, ⟨760, 0, 120, 120⟩)] ∧
      (relayout (fixedGeometry 0) (Run.after (step (fixedGeometry 0)) (fresh 1280 720)
          (widening .oneBigWithSmall "ada" 1))).places =
        [(some 0, ⟨0, 120, 1280, 600⟩), (some 1, ⟨520, 0, 120, 120⟩),
          (some 2, ⟨640, 0, 120, 120⟩)] := by
  decide +kernel

end Runs

end RenderState

end SipCore
