/-
When the video mixer tells the conference about its sources. A pass does so if something
made it lay sources out, unless one of them began or ceased to show video. With frames
that do not change, one such pass is meant to be the last.
-/

import SipCore.Video.MixerPasses

namespace SipCore

open Tiling

namespace RenderSource

variable (source : RenderSource)

def isBright : Bool := source.input.any (fun frame => !frame.isEmpty && frame.renders)

def isHiddenVideo : Bool := !source.isAudioOnly && source.isUnplaced

end RenderSource

variable {sources : List RenderSource} {result : RenderState}

variable (loop : PassLoop)

namespace RenderState

variable (geometry : MixerGeometry) (mixer : RenderState)

def passes : Nat → RenderState
  | 0 => mixer
  | n + 1 => (passes n).process geometry

def isBright : Bool := mixer.pending.all RenderSource.isBright

def isEmptyPlace (place : Option Nat × Rect) : Bool := place.2.w = 0 || place.2.h = 0

def losesVideo : Bool → Nat → List RenderSource → Bool
  | _, _, [] => false
  | needsUpdate, i, source :: later =>
    (!source.isAudioOnly && lays needsUpdate source &&
        isEmptyPlace (mixer.target geometry i source.streamId)) ||
      losesVideo (carries needsUpdate source)
        (if lays needsUpdate source then mixer.nextIndex i source.streamId else i + 1) later

def showsAll : Bool :=
  !mixer.losesVideo geometry (mixer.layoutUpdated > 0) mixer.firstIndex mixer.pending

section Needs

variable {geometry mixer}

theorem lays_eq (needsUpdate : Bool) (source : RenderSource) :
    lays needsUpdate source = (needsUpdate || lays false source) := by
  unfold lays
  rw [Bool.false_or, Bool.or_assoc]

private theorem carries_eq (needsUpdate : Bool) (source : RenderSource) :
    carries needsUpdate source = (needsUpdate || carries false source) := by
  unfold carries
  split
  · exact (Bool.or_false needsUpdate).symm
  · exact lays_eq needsUpdate source

private theorem visitAll_needs (given : ∀ source ∈ sources, source.input ≠ none) (loop : PassLoop)
    (counted : mixer.activeStream ≠ "" → 1 ≤ loop.i) :
    (mixer.visitAll geometry loop sources).2.needsUpdate =
      (loop.needsUpdate || sources.any (carries false)) := by
  induction sources generalizing loop with
  | nil => exact (Bool.or_false _).symm
  | cons source later ih =>
    have visited : Visited geometry mixer loop source (mixer.visit geometry loop source) :=
      visit_spec counted (given source List.mem_cons_self)
    unfold visitAll
    rw [ih (fun other member => given other (List.mem_cons_of_mem source member)) _
      (visited.counted counted), visited.needsUpdate, carries_eq, List.any_cons, Bool.or_assoc]

theorem layOut_changed (needed : Bool) (i : Nat) (source : RenderSource) (frame : InputFrame) :
    (mixer.layOut geometry needed i source).1.hasChanged frame = source.hasChanged frame := by
  unfold layOut processSource
  split
  · split
    · split <;> rfl
    · split <;> rfl
  · rfl

theorem noted_changed (source : RenderSource) (frame : InputFrame) :
    (if source.hasChanged frame then source.noteFrame frame else source).hasChanged frame =
      false := by
  split
  · simp [RenderSource.hasChanged, RenderSource.noteFrame]
  case isFalse kept => exact Bool.eq_false_iff.mpr kept

theorem visit_video {source : RenderSource} {frame : InputFrame}
    (kind : source.isAudioOnly = false) (input : source.input = some frame) (loop : PassLoop) :
    mixer.visit geometry loop source =
      mixer.drawVideo geometry loop
        (loop.needsUpdate || source.isUnplaced || source.hasChanged frame) frame
        (if source.hasChanged frame then source.noteFrame frame else source) := by
  unfold visit visitVideo
  rw [kind, input]
  rfl

/-- A visit notes the size of the frame, so that only the lack of a geometry is left to
make a later pass lay the source out. -/
theorem visit_lays (source : RenderSource) :
    lays false (mixer.visit geometry loop source).1 =
      (mixer.visit geometry loop source).1.isUnplaced := by
  have same := (visit_same loop source : SameSource (mixer.visit geometry loop source).1 source)
  unfold lays
  rw [same.isAudioOnly, same.input]
  cases kind : source.isAudioOnly with
  | true => exact Bool.or_false _
  | false =>
    cases input : source.input with
    | none => exact Bool.or_false _
    | some frame =>
      have noted : (mixer.visit geometry loop source).1.hasChanged frame = false := by
        rw [visit_video kind input]
        exact (layOut_changed _ _ _ frame).trans (noted_changed source frame)
      simp [noted]

private theorem visit_carries (source : RenderSource) :
    carries false (mixer.visit geometry loop source).1 =
      (mixer.visit geometry loop source).1.isHiddenVideo := by
  unfold carries RenderSource.isHiddenVideo
  rw [visit_lays]
  split
  case isTrue kind => simp [kind]
  case isFalse kind => simp [kind]

private theorem visitAll_carries (sources : List RenderSource) :
    (mixer.visitAll geometry loop sources).1.any (carries false) =
      (mixer.visitAll geometry loop sources).1.any RenderSource.isHiddenVideo := by
  induction sources generalizing loop with
  | nil => rfl
  | cons source later ih =>
    unfold visitAll
    rw [List.any_cons, List.any_cons, visit_carries, ih]

private theorem visit_hidden {loop : PassLoop} {source : RenderSource}
    (visited : Visited geometry mixer loop source (mixer.visit geometry loop source)) :
    (mixer.visit geometry loop source).1.isHiddenVideo =
      (!source.isAudioOnly && lays loop.needsUpdate source &&
        isEmptyPlace (mixer.target geometry loop.i source.streamId)) := by
  change (!_ && isEmptyPlace (mixer.visit geometry loop source).1.place) = _
  rw [visited.same.isAudioOnly, visited.place]
  cases laid : lays loop.needsUpdate source with
  | true => simp
  | false =>
    have placed : isEmptyPlace source.place = false := by
      unfold lays at laid
      rw [Bool.or_eq_false_iff, Bool.or_eq_false_iff] at laid
      exact laid.1.2
    simp [placed]

theorem visitAll_hidden (given : ∀ source ∈ sources, source.input ≠ none) (loop : PassLoop)
    (counted : mixer.activeStream ≠ "" → 1 ≤ loop.i) :
    (mixer.visitAll geometry loop sources).1.any RenderSource.isHiddenVideo =
      mixer.losesVideo geometry loop.needsUpdate loop.i sources := by
  induction sources generalizing loop with
  | nil => rfl
  | cons source later ih =>
    have visited : Visited geometry mixer loop source (mixer.visit geometry loop source) :=
      visit_spec counted (given source List.mem_cons_self)
    unfold visitAll losesVideo
    rw [List.any_cons, visit_hidden visited,
      ih (fun other member => given other (List.mem_cons_of_mem source member)) _
        (visited.counted counted), visited.needsUpdate, visited.i]

end Needs

def hasRoom (place : Option Nat × Rect) : Bool := place.2.w > 0 && place.2.h > 0

/-- The loops of a pass and of the one before it, at the same source. -/
structure Paired (mixer : RenderState) (first second : PassLoop) : Prop where
  needsUpdate : second.needsUpdate = true → first.needsUpdate = true
  firstCounted : mixer.activeStream ≠ "" → 1 ≤ first.i
  secondCounted : mixer.activeStream ≠ "" → 1 ≤ second.i
  same : mixer.activeStream = "" → second.i = first.i

section TwoPasses

variable {geometry mixer}

theorem bright_input {source : RenderSource} (bright : source.isBright = true) :
    ∃ frame, source.input = some frame ∧ ∀ placed : RenderSource,
      placed.rendered frame = hasRoom placed.place := by
  unfold RenderSource.isBright at bright
  cases input : source.input with
  | none =>
    rw [input] at bright
    cases bright
  | some frame =>
    rw [input] at bright
    refine ⟨frame, rfl, ?_⟩
    intro placed
    have drawn : (!frame.isEmpty && frame.renders) = true := bright
    unfold RenderSource.rendered hasRoom
    rw [Bool.and_assoc, drawn, Bool.and_true]
    rfl

theorem bright_given {source : RenderSource} (bright : source.isBright = true) :
    source.input ≠ none := by
  obtain ⟨frame, input, _⟩ := bright_input bright
  rw [input]
  exact Option.some_ne_none frame

theorem SameSource.bright {left right : RenderSource} (same : SameSource left right) :
    left.isBright = right.isBright := by
  unfold RenderSource.isBright
  rw [same.input]

theorem layOut_hasVideo (geometry : MixerGeometry) (mixer : RenderState) (needed : Bool) (i : Nat)
    (source : RenderSource) :
    (mixer.layOut geometry needed i source).1.hasVideo = source.hasVideo ∨
      (mixer.layOut geometry needed i source).1.hasVideo =
        hasRoom (mixer.layOut geometry needed i source).1.place := by
  unfold layOut processSource
  split
  · split
    · split
      · exact .inl rfl
      · exact .inr rfl
    · split <;> exact .inl rfl
  · exact .inl rfl

private theorem noted_hasVideo (source : RenderSource) (frame : InputFrame) :
    (if source.hasChanged frame then source.noteFrame frame else source).hasVideo =
      source.hasVideo := by
  split <;> rfl

private theorem visit_hasVideo {source : RenderSource} (kind : source.isAudioOnly = false)
    (bright : source.isBright = true) (loop : PassLoop) :
    (mixer.visit geometry loop source).1.hasVideo =
      hasRoom (mixer.visit geometry loop source).1.place := by
  obtain ⟨frame, input, rendered⟩ := bright_input bright
  rw [visit_video kind input]
  exact rendered _

theorem visit_valid {source : RenderSource} {loop : PassLoop} (bright : source.isBright = true)
    (valid : loop.layoutInvalidated = false)
    (kept : source.isAudioOnly = false →
      hasRoom (mixer.visit geometry loop source).1.place = source.hasVideo) :
    (mixer.visit geometry loop source).2.layoutInvalidated = false := by
  obtain ⟨frame, input, rendered⟩ := bright_input bright
  cases kind : source.isAudioOnly with
  | true =>
    unfold visit visitAudioOnly
    rw [kind, input]
    exact valid
  | false =>
    have room := kept kind
    rw [visit_video kind input] at room ⊢
    unfold drawVideo at room ⊢
    dsimp only
    rw [valid, rendered, Bool.false_or, decide_eq_false_iff_not, not_not]
    rcases layOut_hasVideo geometry mixer _ _ _ with same | empty
    · rw [same, noted_hasVideo]
      exact room
    · exact empty.symm

private theorem target_room {first second : PassLoop} (paired : Paired mixer first second)
    (streamId : String) :
    hasRoom (mixer.target geometry second.i streamId) =
      hasRoom (mixer.target geometry first.i streamId) := by
  by_cases inactive : mixer.activeStream = ""
  · rw [paired.same inactive]
  · have sizes := geometry.same_size mixer.width mixer.height mixer.pending.length
      mixer.currentLayout second.i first.i (paired.secondCounted inactive)
      (paired.firstCounted inactive)
    unfold target placeAt
    split
    · rfl
    · split
      · rfl
      · unfold hasRoom
        rw [sizes.1, sizes.2]

section

variable {first second : PassLoop} (paired : Paired mixer first second) {source : RenderSource}
  (visited : Visited geometry mixer first source (mixer.visit geometry first source))
include paired visited

theorem lays_again (again : lays second.needsUpdate (mixer.visit geometry first source).1 = true) :
    lays first.needsUpdate source = true := by
  rw [lays_eq, visit_lays, Bool.or_eq_true] at again
  rcases again with needed | unplaced
  · rw [lays_eq, paired.needsUpdate needed, Bool.true_or]
  · cases laid : lays first.needsUpdate source with
    | true => rfl
    | false =>
      have place := visited.place
      rw [laid] at place
      have empty : isEmptyPlace source.place = true := by
        rw [← show (mixer.visit geometry first source).1.place = source.place from place]
        exact unplaced
      rw [lays_eq, Bool.or_eq_false_iff] at laid
      have placed := laid.2
      unfold lays at placed
      rw [Bool.or_eq_false_iff] at placed
      exact (Bool.eq_false_iff.mp placed.1 empty).elim

theorem Paired.next
    (again : Visited geometry mixer second (mixer.visit geometry first source).1 (mixer.visit
      geometry second (mixer.visit geometry first source).1)) :
    Paired mixer (mixer.visit geometry first source).2
      (mixer.visit geometry second (mixer.visit geometry first source).1).2 := by
  constructor
  · rw [again.needsUpdate, visited.needsUpdate]
    unfold carries
    rw [visited.same.isAudioOnly]
    split
    · exact paired.needsUpdate
    · exact lays_again paired visited
  · exact visited.counted paired.firstCounted
  · exact again.counted paired.secondCounted
  · intro inactive
    have counts : ∀ i streamId, mixer.nextIndex i streamId = i + 1 := by
      intro i streamId
      simp [nextIndex, sourceIsActive, inactive]
    rw [again.i, visited.i, counts, counts, ite_self, ite_self, paired.same inactive]

private theorem visit_room
    (again : Visited geometry mixer second (mixer.visit geometry first source).1 (mixer.visit
      geometry second (mixer.visit geometry first source).1)) :
    hasRoom (mixer.visit geometry second (mixer.visit geometry first source).1).1.place =
      hasRoom (mixer.visit geometry first source).1.place := by
  rw [again.place]
  split
  case isTrue laid =>
    rw [visited.place, if_pos (lays_again paired visited laid), visited.same.streamId]
    exact target_room paired source.streamId
  case isFalse => rfl

end

theorem visitAll_valid (bright : ∀ source ∈ sources, source.isBright = true)
    {first second : PassLoop} (paired : Paired mixer first second)
    (valid : second.layoutInvalidated = false) :
    (mixer.visitAll geometry second
      (mixer.visitAll geometry first sources).1).2.layoutInvalidated = false := by
  induction sources generalizing first second with
  | nil => exact valid
  | cons source later ih =>
    have here := bright source List.mem_cons_self
    have visited : Visited geometry mixer first source (mixer.visit geometry first source) :=
      visit_spec paired.firstCounted (bright_given here)
    have still : (mixer.visit geometry first source).1.isBright = true :=
      visited.same.bright.trans here
    have again : Visited geometry mixer second (mixer.visit geometry first source).1
        (mixer.visit geometry second (mixer.visit geometry first source).1) :=
      visit_spec paired.secondCounted (bright_given still)
    apply ih
    · exact fun other member => bright other (List.mem_cons_of_mem source member)
    · exact paired.next visited again
    · apply visit_valid still valid
      intro kind
      rw [visit_room paired visited again]
      exact (visit_hasVideo (visited.same.isAudioOnly.symm.trans kind) here first).symm

end TwoPasses

/-! ### Passes without end -/

section Passes

variable {geometry mixer}

theorem firstLoop_counted : mixer.activeStream ≠ "" → 1 ≤ mixer.firstLoop.i :=
  firstIndex_counted

private theorem visit_congr {left right : RenderState}
    (same : left.processSource geometry = right.processSource geometry) :
    left.visit geometry = right.visit geometry := by
  unfold visit visitAudioOnly visitVideo drawVideo layOut
  rw [same]

private theorem visitAll_congr {left right : RenderState}
    (same : left.processSource geometry = right.processSource geometry) (loop : PassLoop)
    (sources : List RenderSource) :
    left.visitAll geometry loop sources = right.visitAll geometry loop sources := by
  induction sources generalizing loop with
  | nil => rfl
  | cons source later ih =>
    unfold visitAll
    rw [visit_congr same, ih]

structure Passed (geometry : MixerGeometry) (mixer result : RenderState) : Prop where
  canvas : result.hasCanvas = mixer.hasCanvas
  activeStream : result.activeStream = mixer.activeStream
  pending : result.pending = (mixer.drawAll geometry).1
  processSource : result.processSource geometry = mixer.processSource geometry

theorem passed (canvas : mixer.hasCanvas = true) :
    Passed geometry mixer (mixer.process geometry) := by
  have source : ∀ updated told, RenderState.processSource geometry
      { mixer with
        pending := (mixer.drawAll geometry).1
        layoutUpdated := updated
        sourcesUpdated := told } = mixer.processSource geometry := by
    intro updated told
    have count : (mixer.drawAll geometry).1.length = mixer.pending.length := by
      have inputs : (mixer.drawAll geometry).1.map RenderSource.input =
          mixer.pending.map RenderSource.input :=
        visitAll_kept (fun _ _ same => same.input) _ _
      simpa using congrArg List.length inputs
    unfold processSource calcPosition sourceIsActive
    rw [count]
  unfold process
  rw [if_pos canvas]
  split <;> exact ⟨rfl, rfl, rfl, source _ _⟩

theorem Passed.firstLoop (passed : Passed geometry mixer result) :
    result.firstLoop.i = mixer.firstLoop.i := by
  unfold RenderState.firstLoop
  rw [passed.activeStream]

theorem process_told (canvas : mixer.hasCanvas = true) :
    (mixer.process geometry).sourcesUpdated =
      mixer.sourcesUpdated + if (mixer.drawAll geometry).2.needsUpdate &&
        !(mixer.drawAll geometry).2.layoutInvalidated then 1 else 0 := by
  unfold process
  rw [if_pos canvas]
  split <;> rfl

theorem drawAll_needs (given : ∀ source ∈ mixer.pending, source.input ≠ none) :
    (mixer.drawAll geometry).2.needsUpdate =
      (decide (mixer.layoutUpdated > 0) || mixer.pending.any (carries false)) :=
  visitAll_needs given mixer.firstLoop firstLoop_counted

theorem process_updated (canvas : mixer.hasCanvas = true)
    (given : ∀ source ∈ mixer.pending, source.input ≠ none)
    (valid : (mixer.drawAll geometry).2.layoutInvalidated = false) :
    (mixer.process geometry).layoutUpdated = 0 := by
  cases needed : (mixer.drawAll geometry).2.needsUpdate with
  | true =>
    unfold process
    rw [if_pos canvas, needed, valid]
    rfl
  | false =>
    have settled : (mixer.drawAll geometry).2.needsUpdate = _ := drawAll_needs given
    rw [needed] at settled
    have quiet := (Bool.or_eq_false_iff.mp settled.symm).1
    unfold process
    rw [if_pos canvas, needed]
    exact Nat.eq_zero_of_not_pos (of_decide_eq_false quiet)

theorem passed_carries (passed : Passed geometry mixer result)
    (given : ∀ source ∈ mixer.pending, source.input ≠ none) :
    result.pending.any (carries false) = !mixer.showsAll geometry := by
  unfold showsAll
  rw [passed.pending, Bool.not_not]
  exact (visitAll_carries _ _).trans (visitAll_hidden given mixer.firstLoop firstLoop_counted)

theorem passed_given (passed : Passed geometry mixer result)
    (given : ∀ source ∈ mixer.pending, source.input ≠ none) :
    ∀ source ∈ result.pending, source.input ≠ none := by
  intro source member
  have inputs : result.pending.map RenderSource.input = mixer.pending.map RenderSource.input := by
    rw [passed.pending]
    exact visitAll_kept (fun _ _ same => same.input) _ _
  have listed : source.input ∈ mixer.pending.map RenderSource.input := by
    rw [← inputs]
    exact List.mem_map_of_mem member
  obtain ⟨before, present, same⟩ := List.mem_map.mp listed
  rw [← same]
  exact given before present

private theorem losesVideo_calm (calm : sources.any (carries false) = false) (i : Nat) :
    mixer.losesVideo geometry false i sources = false := by
  induction sources generalizing i with
  | nil => rfl
  | cons source later ih =>
    rw [List.any_cons, Bool.or_eq_false_iff] at calm
    unfold losesVideo
    rw [calm.1, ih calm.2]
    have kept := calm.1
    unfold carries at kept
    cases kind : source.isAudioOnly with
    | true => rfl
    | false =>
      rw [kind] at kept
      rw [show lays false source = false from kept]
      rfl

structure Idle (mixer : RenderState) : Prop where
  canvas : mixer.hasCanvas = true
  layoutUpdated : mixer.layoutUpdated = 0
  given : ∀ source ∈ mixer.pending, source.input ≠ none
  calm : mixer.pending.any (carries false) = false

theorem Idle.needs (idle : Idle mixer) : (mixer.drawAll geometry).2.needsUpdate = false := by
  rw [drawAll_needs idle.given, idle.calm, idle.layoutUpdated]
  rfl

theorem Idle.process (idle : Idle mixer) :
    Idle (mixer.process geometry) ∧
      (mixer.process geometry).sourcesUpdated = mixer.sourcesUpdated := by
  have result : Passed geometry mixer (mixer.process geometry) := passed idle.canvas
  constructor
  · constructor
    · exact result.canvas.trans idle.canvas
    · unfold RenderState.process
      rw [if_pos idle.canvas, idle.needs]
      exact idle.layoutUpdated
    · exact passed_given result idle.given
    · rw [passed_carries result idle.given]
      have shown : mixer.losesVideo geometry false mixer.firstIndex mixer.pending = false :=
        losesVideo_calm idle.calm _
      unfold showsAll
      rw [idle.layoutUpdated]
      exact (Bool.not_not _).trans shown
  · rw [process_told idle.canvas, idle.needs]
    rfl

theorem Idle.passes (idle : Idle mixer) (n : Nat) :
    Idle (mixer.passes geometry n) ∧
      (mixer.passes geometry n).sourcesUpdated = mixer.sourcesUpdated := by
  induction n with
  | zero => exact ⟨idle, rfl⟩
  | succ n ih =>
    obtain ⟨still, told⟩ := ih
    exact ⟨still.process.1, still.process.2.trans told⟩

private theorem told_again (canvas : mixer.hasCanvas = true)
    (bright : ∀ source ∈ mixer.pending, source.isBright = true)
    (valid : (mixer.drawAll geometry).2.layoutInvalidated = false)
    (hidden : mixer.showsAll geometry = false) :
    ((mixer.process geometry).process geometry).sourcesUpdated =
      (mixer.process geometry).sourcesUpdated + 1 := by
  have given : ∀ source ∈ mixer.pending, source.input ≠ none :=
    fun source member => bright_given (bright source member)
  have result : Passed geometry mixer (mixer.process geometry) := passed canvas
  have updated := process_updated canvas given valid
  have needed : ((mixer.process geometry).drawAll geometry).2.needsUpdate = true := by
    rw [drawAll_needs (passed_given result given), passed_carries result given, hidden]
    exact Bool.or_true _
  have paired : Paired mixer mixer.firstLoop (mixer.process geometry).firstLoop := by
    constructor
    · unfold RenderState.firstLoop
      rw [updated]
      intro impossible
      cases impossible
    · exact firstLoop_counted
    · rw [result.firstLoop]
      exact firstLoop_counted
    · intro _
      exact result.firstLoop
  have kept : ((mixer.process geometry).drawAll geometry).2.layoutInvalidated = false := by
    unfold drawAll
    rw [visitAll_congr result.processSource, result.pending]
    exact visitAll_valid bright paired rfl
  rw [process_told (result.canvas.trans canvas), needed, kept]
  rfl

theorem never_told_again_iff (geometry : MixerGeometry) (mixer : RenderState)
    (canvas : mixer.hasCanvas = true) (bright : mixer.isBright = true)
    (completed : (mixer.drawAll geometry).2.layoutInvalidated = false) :
    (∀ n, ((mixer.process geometry).passes geometry n).sourcesUpdated =
        (mixer.process geometry).sourcesUpdated) ↔
      mixer.showsAll geometry = true := by
  have each : ∀ source ∈ mixer.pending, source.isBright = true := List.all_eq_true.mp bright
  have given : ∀ source ∈ mixer.pending, source.input ≠ none :=
    fun source member => bright_given (each source member)
  constructor
  · intro never
    cases shown : mixer.showsAll geometry with
    | true => rfl
    | false =>
      have again := told_again canvas each completed shown
      have once := never 1
      exact absurd (again.symm.trans once) (Nat.succ_ne_self _)
  · intro shown n
    have result : Passed geometry mixer (mixer.process geometry) := passed canvas
    have idle : Idle (mixer.process geometry) := by
      refine ⟨result.canvas.trans canvas, process_updated canvas given completed,
        passed_given result given, ?_⟩
      rw [passed_carries result given, shown]
      rfl
    exact (idle.passes n).2

theorem grid_never_told_again :
    (threeSources .grid "").isBright = true ∧
      ∀ n, (((threeSources .grid "").process (fixedGeometry 0)).passes (fixedGeometry 0)
          n).sourcesUpdated =
        ((threeSources .grid "").process (fixedGeometry 0)).sourcesUpdated :=
  ⟨by decide, (never_told_again_iff (fixedGeometry 0) (threeSources .grid "") (by decide)
    (by decide) (by decide +kernel)).mpr (by decide +kernel)⟩

def bigAndHidden : RenderState :=
  { width := 1280
    height := 720
    currentLayout := .oneBig
    activeStream := "ada"
    layoutUpdated := 1
    pending := ["ada", "bob"].map (fun streamId =>
      { streamId, input := some { width := 640, height := 480 }, hasVideo := false }) }

/-- The second pass settles the layout, and each of the three behind it tells the
conference again. -/
theorem hidden_video_told_every_pass :
    (bigAndHidden.passes (fixedGeometry 0) 1).hasCanvas = true ∧
      (bigAndHidden.passes (fixedGeometry 0) 1).isBright = true ∧
      ((bigAndHidden.passes (fixedGeometry 0) 1).drawAll
        (fixedGeometry 0)).2.layoutInvalidated = false ∧
      (bigAndHidden.passes (fixedGeometry 0) 2).layoutUpdated = 0 ∧
      (bigAndHidden.passes (fixedGeometry 0) 2).sourcesUpdated = 1 ∧
      (bigAndHidden.passes (fixedGeometry 0) 5).sourcesUpdated = 4 := by
  decide +kernel

end Passes

end RenderState

end SipCore
