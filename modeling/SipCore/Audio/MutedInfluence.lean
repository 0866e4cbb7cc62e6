/-
What a muted microphone can change for a call. Two runs of the pool make the same
calls, but the captured frames differ while the microphone of one call is muted. What
the runs share is what the call can see of the buffers other than the capture buffer.
-/

import SipCore.Audio.PoolData

namespace SipCore.RingBufferPool

open RingBuffer

variable {α : Type}

/-- The capture buffer may hold anything, the other buffers look the same to the call. -/
def RingAgrees (callId id : String) (ring other : RingBuffer α) : Prop :=
  id ≠ defaultId → SameFor callId ring other

variable {rbuf : String} (mixer : Mixer α)

variable {reader : String} {operation : Operation α}

structure AgreeFor (callId : String) (left right : RingBufferPool α) : Prop where
  bindings : right.readBindingsMap = left.readBindingsMap
  playback : right.localPlaybackMutedIds = left.localPlaybackMutedIds
  mic : right.micMutedIds = left.micMutedIds
  rings : ∀ id, Option.Rel (RingAgrees callId id)
    (left.ringBufferMap.find? id) (right.ringBufferMap.find? id)

namespace AgreeFor

variable {callId : String} {left right : RingBufferPool α}

private theorem refl (callId : String) (pool : RingBufferPool α) : AgreeFor callId pool pool := by
  refine ⟨rfl, rfl, rfl, ?_⟩
  intro id
  cases pool.ringBufferMap.find? id with
  | none => exact .none
  | some ring => exact .some (fun _ => .refl callId ring)

section

variable (agree : AgreeFor callId left right)
include agree

theorem ring_cases (id : String) :
    left.ringBufferMap.find? id = none ∧ right.ringBufferMap.find? id = none ∨
      ∃ ring other, left.ringBufferMap.find? id = some ring ∧
        right.ringBufferMap.find? id = some other ∧ RingAgrees callId id ring other := by
  have related := agree.rings id
  revert related
  generalize left.ringBufferMap.find? id = onLeft
  generalize right.ringBufferMap.find? id = onRight
  intro related
  cases related with
  | none => exact .inl ⟨rfl, rfl⟩
  | some same => exact .inr ⟨_, _, rfl, rfl, same⟩

theorem symm : AgreeFor callId right left := by
  refine ⟨agree.bindings.symm, agree.playback.symm, agree.mic.symm, ?_⟩
  intro id
  rcases agree.ring_cases id with ⟨onLeft, onRight⟩ | ⟨ring, other, onLeft, onRight, same⟩
  · rw [onLeft, onRight]
    exact .none
  · rw [onLeft, onRight]
    exact .some (fun heard => (same heard).symm)

theorem readBindings (reader : String) : right.readBindings reader = left.readBindings reader := by
  unfold RingBufferPool.readBindings
  rw [agree.bindings]

theorem hasRingBuffer (id : String) : right.hasRingBuffer id = left.hasRingBuffer id := by
  unfold RingBufferPool.hasRingBuffer AssocMap.contains
  rcases agree.ring_cases id with ⟨onLeft, onRight⟩ | ⟨ring, other, onLeft, onRight, _⟩
  · rw [onLeft, onRight]
  · rw [onLeft, onRight]
    rfl

theorem modified {change changeRight : RingBuffer α → RingBuffer α}
    (kept : ∀ ring other, RingAgrees callId rbuf ring other →
      RingAgrees callId rbuf (change ring) (changeRight other)) :
    AgreeFor callId (left.overRingBuffer rbuf change) (right.overRingBuffer rbuf changeRight) := by
  refine ⟨agree.bindings, agree.playback, agree.mic, ?_⟩
  intro id
  change Option.Rel _ ((left.ringBufferMap.modify rbuf change).find? id)
    ((right.ringBufferMap.modify rbuf changeRight).find? id)
  rw [AssocMap.find?_modify, AssocMap.find?_modify]
  split
  · subst id
    rcases agree.ring_cases rbuf with ⟨onLeft, onRight⟩ | ⟨ring, other, onLeft, onRight, related⟩
    · rw [onLeft, onRight]
      exact .none
    · rw [onLeft, onRight]
      exact .some (kept _ _ related)
  · exact agree.rings id

private theorem overRight {change : RingBuffer α → RingBuffer α}
    (unseen : ∀ ring, SameFor callId ring (change ring)) :
    AgreeFor callId left (right.overRingBuffer rbuf change) := by
  refine ⟨agree.bindings, agree.playback, agree.mic, ?_⟩
  intro id
  change Option.Rel _ _ ((right.ringBufferMap.modify rbuf change).find? id)
  rw [AssocMap.find?_modify]
  split
  · subst id
    rcases agree.ring_cases rbuf with ⟨onLeft, onRight⟩ | ⟨ring, other, onLeft, onRight, related⟩
    · rw [onLeft, onRight]
      exact .none
    · rw [onLeft, onRight]
      exact .some (fun heard => (related heard).trans (unseen _))
  · exact agree.rings id

theorem apply (rbuf : String) (op : RingBuffer.Op α) :
    AgreeFor callId (left.overRingBuffer rbuf (fun ring => ring.apply op))
      (right.overRingBuffer rbuf (fun ring => ring.apply op)) :=
  agree.modified (fun _ _ related other => (related other).apply op)

end

private theorem foldl {β : Type} {turn : RingBufferPool α → β → RingBufferPool α}
    (kept : ∀ left right item, AgreeFor callId left right →
      AgreeFor callId (turn left item) (turn right item))
    (agree : AgreeFor callId left right) (items : List β) :
    AgreeFor callId (items.foldl turn left) (items.foldl turn right) := by
  induction items generalizing left right with
  | nil => exact agree
  | cons item rest ih => exact ih (kept left right item agree)

section

variable (agree : AgreeFor callId left right)
include agree

private theorem createRingBuffer (name : String) :
    AgreeFor callId (left.createRingBuffer name) (right.createRingBuffer name) := by
  refine ⟨agree.bindings, agree.playback, agree.mic, ?_⟩
  intro id
  change Option.Rel _ ((left.ringBufferMap.emplace name _).find? id)
    ((right.ringBufferMap.emplace name _).find? id)
  rw [AssocMap.find?_emplace, AssocMap.find?_emplace]
  split
  · subst id
    rcases agree.ring_cases name with ⟨onLeft, onRight⟩ | ⟨ring, other, onLeft, onRight, related⟩
    · rw [onLeft, onRight]
      exact .some (fun _ => .refl callId _)
    · rw [onLeft, onRight]
      exact .some related
  · exact agree.rings id

private theorem addReader (rbuf reader : String) :
    AgreeFor callId (left.addReaderToRingBuffer rbuf reader)
      (right.addReaderToRingBuffer rbuf reader) := by
  have changed := agree.apply rbuf (.createReadOffset reader)
  unfold addReaderToRingBuffer
  by_cases alive : left.hasRingBuffer rbuf = true
  · rw [dif_pos alive, dif_pos ((agree.hasRingBuffer rbuf).trans alive)]
    exact ⟨congrArg (fun bindings => bindOne bindings rbuf reader) agree.bindings,
      agree.playback, agree.mic, changed.rings⟩
  · rw [dif_neg alive, dif_neg (by rw [agree.hasRingBuffer]; exact alive)]
    exact agree

private theorem removeReader (rbuf reader : String) :
    AgreeFor callId (left.removeReaderFromRingBuffer rbuf reader)
      (right.removeReaderFromRingBuffer rbuf reader) :=
  ⟨congrArg (fun bindings => unbindOne bindings rbuf reader) agree.bindings, agree.playback,
    agree.mic, (agree.apply rbuf (.removeReadOffset reader)).rings⟩

private theorem flushAllBuffers : AgreeFor callId left.flushAllBuffers right.flushAllBuffers := by
  refine ⟨agree.bindings, agree.playback, agree.mic, ?_⟩
  intro id
  change Option.Rel _ ((left.ringBufferMap.mapValues RingBuffer.flushAll).find? id)
    ((right.ringBufferMap.mapValues RingBuffer.flushAll).find? id)
  rw [AssocMap.find?_mapValues, AssocMap.find?_mapValues]
  rcases agree.ring_cases id with ⟨onLeft, onRight⟩ | ⟨ring, other, onLeft, onRight, related⟩
  · rw [onLeft, onRight]
    exact .none
  · rw [onLeft, onRight]
    exact .some (fun heard => (related heard).apply .flushAll)

private theorem putCapture (frame other : α) :
    AgreeFor callId (left.put defaultId frame) (right.put defaultId other) :=
  agree.modified (fun _ _ _ different => absurd rfl different)

end

theorem readRight (agree : AgreeFor callId left right) (different : callId ≠ reader) (rbuf : String) :
    AgreeFor callId left (right.getFrom rbuf reader).2 :=
  agree.overRight (fun ring => get_sameFor ring different)

theorem getData_other (agree : AgreeFor callId left right) (mixer : Mixer α)
    (different : callId ≠ reader) :
    AgreeFor callId (left.getData mixer reader).2 (right.getData mixer reader).2 := by
  have once : AgreeFor callId left (right.getData mixer reader).2 :=
    getData_keeps (fun _ rbuf holds => holds.readRight different rbuf) mixer agree
  exact (getData_keeps (fun _ rbuf holds => holds.readRight different rbuf) mixer once.symm).symm

private theorem getAvailableData_other (agree : AgreeFor callId left right) (mixer : Mixer α)
    (different : callId ≠ reader) :
    AgreeFor callId (left.getAvailableData mixer reader).2
      (right.getAvailableData mixer reader).2 := by
  have once : AgreeFor callId left (right.getAvailableData mixer reader).2 :=
    getAvailableData_keeps (fun _ rbuf holds => holds.readRight different rbuf) mixer agree
  exact (getAvailableData_keeps (fun _ rbuf holds => holds.readRight different rbuf) mixer
    once.symm).symm

section

variable (agree : AgreeFor callId left right)
include agree

theorem getFrom (rbuf : String) :
    AgreeFor callId (left.getFrom rbuf callId).2 (right.getFrom rbuf callId).2 :=
  agree.modified (fun _ _ related other => (related other).get.2)

theorem getFrom_frame (heard : rbuf ≠ defaultId) :
    (right.getFrom rbuf callId).1 = (left.getFrom rbuf callId).1 := by
  unfold RingBufferPool.getFrom
  rcases agree.ring_cases rbuf with ⟨onLeft, onRight⟩ | ⟨ring, other, onLeft, onRight, related⟩
  · rw [onLeft, onRight]
  · rw [onLeft, onRight]
    exact (related heard).get.1

private theorem availableIn (heard : rbuf ≠ defaultId) :
    right.availableIn rbuf callId = left.availableIn rbuf callId := by
  unfold RingBufferPool.availableIn
  rcases agree.ring_cases rbuf with ⟨onLeft, onRight⟩ | ⟨ring, other, onLeft, onRight, related⟩
  · rw [onLeft, onRight]
  · rw [onLeft, onRight]
    exact (related heard).getLength

theorem skipMutedBuffer (rbuf : String) (filterPlayback : Bool) :
    (∃ skipped skippedRight,
      left.skipMutedBuffer rbuf callId filterPlayback true = (true, skipped) ∧
      right.skipMutedBuffer rbuf callId filterPlayback true = (true, skippedRight) ∧
      AgreeFor callId skipped skippedRight) ∨
    left.skipMutedBuffer rbuf callId filterPlayback true = (false, left) ∧
      right.skipMutedBuffer rbuf callId filterPlayback true = (false, right) ∧
      rbuf ≠ defaultId := by
  unfold RingBufferPool.skipMutedBuffer
  rw [agree.playback]
  split
  · exact .inl ⟨left, right, rfl, rfl, agree⟩
  · by_cases capture : rbuf = defaultId
    · subst rbuf
      left
      exact ⟨_, _, if_pos (by decide), if_pos (by decide), agree.getFrom defaultId⟩
    · right
      have other : ¬ (true && rbuf == defaultId) = true := by simpa using capture
      exact ⟨if_neg other, if_neg other, capture⟩

theorem takeFrame (rbuf : String) (filterPlayback : Bool) :
    (right.takeFrame rbuf callId filterPlayback true).1 =
        (left.takeFrame rbuf callId filterPlayback true).1 ∧
      AgreeFor callId (left.takeFrame rbuf callId filterPlayback true).2
        (right.takeFrame rbuf callId filterPlayback true).2 := by
  unfold RingBufferPool.takeFrame
  rcases agree.skipMutedBuffer rbuf filterPlayback with
    ⟨skipped, skippedRight, onLeft, onRight, still⟩ | ⟨onLeft, onRight, heard⟩
  · rw [onLeft, onRight]
    exact ⟨rfl, still⟩
  · rw [onLeft, onRight]
    exact ⟨agree.getFrom_frame heard, agree.getFrom rbuf⟩

end

theorem pairs {γ : Type} {turn turnRight : γ × RingBufferPool α} (same : turnRight.1 = turn.1)
    (still : AgreeFor callId turn.2 turnRight.2) :
    ∃ value read readRight, turn = (value, read) ∧ turnRight = (value, readRight) ∧
      AgreeFor callId read readRight :=
  ⟨turn.1, turn.2, turnRight.2, rfl, by rw [← same], still⟩

theorem mixFrom (filterPlayback : Bool) (bindings : List String) (mixBuffer : α) (mixed : Bool)
    (agree : AgreeFor callId left right) :
    (RingBufferPool.mixFrom mixer callId filterPlayback true bindings mixBuffer mixed right).1 =
        (RingBufferPool.mixFrom mixer callId filterPlayback true bindings mixBuffer mixed left).1 ∧
      AgreeFor callId
        (RingBufferPool.mixFrom mixer callId filterPlayback true bindings mixBuffer mixed left).2
        (RingBufferPool.mixFrom mixer callId filterPlayback true bindings mixBuffer mixed right).2 := by
  induction bindings generalizing left right mixBuffer mixed with
  | nil => exact ⟨rfl, agree⟩
  | cons rbuf rest ih =>
    obtain ⟨same, after⟩ := agree.takeFrame rbuf filterPlayback
    obtain ⟨taken, read, readRight, onLeft, onRight, still⟩ := pairs same after
    unfold RingBufferPool.mixFrom
    rw [onLeft, onRight]
    cases taken with
    | none => exact ih _ _ still
    | some frame =>
      dsimp only
      cases mixer.mix mixBuffer frame with
      | error message => exact ⟨rfl, still⟩
      | ok mixture => exact ih _ _ still

theorem availableFrames (filterPlayback : Bool) (bindings : List String) (least : Option Nat)
    (agree : AgreeFor callId left right) :
    (RingBufferPool.availableFrames callId filterPlayback true bindings least right).1 =
        (RingBufferPool.availableFrames callId filterPlayback true bindings least left).1 ∧
      AgreeFor callId
        (RingBufferPool.availableFrames callId filterPlayback true bindings least left).2
        (RingBufferPool.availableFrames callId filterPlayback true bindings least right).2 := by
  induction bindings generalizing left right least with
  | nil => exact ⟨rfl, agree⟩
  | cons rbuf rest ih =>
    unfold RingBufferPool.availableFrames
    rcases agree.skipMutedBuffer rbuf filterPlayback with
      ⟨skipped, skippedRight, onLeft, onRight, still⟩ | ⟨onLeft, onRight, heard⟩
    · rw [onLeft, onRight]
      exact ih _ still
    · rw [onLeft, onRight]
      simp only [agree.availableIn heard]
      exact ih _ agree

theorem filterMic_of_muted {pool : RingBufferPool α} (called : callId ≠ defaultId)
    (muted : pool.isMicMuted callId = true) : pool.filterMic callId = true := by
  unfold filterMic
  rw [Bool.and_eq_true]
  exact ⟨bne_iff_ne.mpr called, muted⟩

theorem isMicMuted (agree : AgreeFor callId left right) (id : String) :
    right.isMicMuted id = left.isMicMuted id := by
  unfold RingBufferPool.isMicMuted
  rw [agree.mic]

theorem filterPlayback (agree : AgreeFor callId left right) (reader : String) :
    right.filterPlayback reader = left.filterPlayback reader := by
  unfold RingBufferPool.filterPlayback
  rw [agree.playback]

section Muted

variable (called : callId ≠ defaultId) (muted : left.isMicMuted callId = true)
include called muted

theorem getData (agree : AgreeFor callId left right) (mixer : Mixer α) :
    (right.getData mixer callId).1 = (left.getData mixer callId).1 ∧
      AgreeFor callId (left.getData mixer callId).2 (right.getData mixer callId).2 := by
  unfold RingBufferPool.getData
  rw [agree.readBindings, agree.filterPlayback, filterMic_of_muted called muted,
    filterMic_of_muted called ((agree.isMicMuted callId).trans muted)]
  simp only
  split
  · exact ⟨rfl, agree⟩
  · obtain ⟨same, still⟩ := agree.takeFrame _ (left.filterPlayback callId)
    exact ⟨congrArg Except.ok same, still⟩
  · obtain ⟨same, after⟩ := agree.mixFrom mixer (left.filterPlayback callId)
      (left.readBindings callId) mixer.blank false
    obtain ⟨result, read, readRight, onLeft, onRight, still⟩ := pairs same after
    rw [onLeft, onRight]
    cases result with
    | error message => exact ⟨rfl, still⟩
    | ok mixture => exact ⟨rfl, still⟩

theorem getAvailableData (agree : AgreeFor callId left right) (mixer : Mixer α) :
    (right.getAvailableData mixer callId).1 = (left.getAvailableData mixer callId).1 ∧
      AgreeFor callId (left.getAvailableData mixer callId).2
        (right.getAvailableData mixer callId).2 := by
  unfold RingBufferPool.getAvailableData
  rw [agree.readBindings, agree.filterPlayback, filterMic_of_muted called muted,
    filterMic_of_muted called ((agree.isMicMuted callId).trans muted)]
  simp only
  split
  · exact ⟨rfl, agree⟩
  · obtain ⟨same, still⟩ := agree.takeFrame _ (left.filterPlayback callId)
    exact ⟨congrArg Except.ok same, still⟩
  · obtain ⟨sameLeast, scanned⟩ := agree.availableFrames (left.filterPlayback callId)
      (left.readBindings callId) none
    obtain ⟨least, skipped, skippedRight, scanLeft, scanRight, still⟩ := pairs sameLeast scanned
    rw [scanLeft, scanRight]
    cases least with
    | none => exact ⟨rfl, still⟩
    | some available =>
      dsimp only
      obtain ⟨same, after⟩ := still.mixFrom mixer (left.filterPlayback callId)
        (left.readBindings callId) mixer.blank false
      obtain ⟨result, read, readRight, onLeft, onRight, mixed⟩ := pairs same after
      rw [onLeft, onRight]
      cases result with
      | error message => exact ⟨rfl, mixed⟩
      | ok mixture => exact ⟨rfl, mixed⟩

end Muted

end AgreeFor

/-! ### Two runs -/

def SameButCapture (operation other : Operation α) : Prop :=
  operation = other ∨ ∃ frame captured,
    operation = .put defaultId frame ∧ other = .put defaultId captured

theorem AgreeFor.stepSame {callId : String} {left right : RingBufferPool α}
    (agree : AgreeFor callId left right) (called : callId ≠ defaultId)
    (muted : left.isMicMuted callId = true) (mixer : Mixer α) (operation : Operation α) :
    AgreeFor callId (left.step mixer operation) (right.step mixer operation) := by
  cases operation with
  | createRingBuffer id => exact agree.createRingBuffer id
  | bindCallID callId1 callId2 =>
    simp only [step, bindCallID, agree.hasRingBuffer]
    split
    · exact (agree.addReader _ _).addReader _ _
    · exact agree
  | bindHalfDuplexOut processId id =>
    simp only [step, bindHalfDuplexOut, agree.hasRingBuffer]
    split
    · exact agree.addReader _ _
    · exact agree
  | unBindCallID callId1 callId2 =>
    simp only [step, unBindCallID, agree.hasRingBuffer]
    split
    · exact (agree.removeReader _ _).removeReader _ _
    · exact agree
  | unBindHalfDuplexOut processId id =>
    simp only [step, unBindHalfDuplexOut, agree.hasRingBuffer]
    split
    · exact agree.removeReader _ _
    · exact agree
  | unBindAllHalfDuplexOut id =>
    simp only [step, unBindAllHalfDuplexOut, agree.hasRingBuffer, agree.readBindings]
    split
    · exact agree.foldl (fun _ _ rbuf still => still.removeReader id rbuf) _
    · exact agree
  | unBindAll id =>
    simp only [step, unBindAll, agree.hasRingBuffer, agree.readBindings]
    split
    · exact agree.foldl
        (fun _ _ rbuf still => (still.removeReader rbuf id).removeReader id rbuf) _
    · exact agree
  | setLocalPlaybackMuted id value =>
    refine ⟨agree.bindings, ?_, agree.mic, agree.rings⟩
    simp only [step, setLocalPlaybackMuted, agree.playback]
  | setMicMuted id value =>
    refine ⟨agree.bindings, agree.playback, ?_, agree.rings⟩
    simp only [step, setMicMuted, agree.mic]
  | put id frame => exact agree.apply id (.put frame)
  | getData reader =>
    by_cases mine : callId = reader
    · subst reader
      exact (agree.getData called muted mixer).2
    · exact agree.getData_other mixer mine
  | getAvailableData reader =>
    by_cases mine : callId = reader
    · subst reader
      exact (agree.getAvailableData called muted mixer).2
    · exact agree.getAvailableData_other mixer mine
  | discard toDiscard reader =>
    simp only [step, discard, agree.readBindings]
    exact agree.foldl (fun _ _ rbuf still => still.apply rbuf (.discard toDiscard reader)) _
  | flush reader =>
    simp only [step, flush, agree.readBindings]
    exact agree.foldl (fun _ _ rbuf still => still.apply rbuf (.flush reader)) _
  | flushAllBuffers => exact agree.flushAllBuffers

theorem AgreeFor.step {callId : String} {left right : RingBufferPool α}
    (agree : AgreeFor callId left right) (called : callId ≠ defaultId)
    (muted : left.isMicMuted callId = true) (mixer : Mixer α) {other : Operation α}
    (same : SameButCapture operation other) :
    AgreeFor callId (left.step mixer operation) (right.step mixer other) := by
  rcases same with equal | ⟨frame, captured, onLeft, onRight⟩
  · subst other
    exact agree.stepSame called muted mixer operation
  · subst operation other
    exact agree.putCapture frame captured

private theorem isMicMuted_step (pool : RingBufferPool α) {callId : String}
    (kept : operation ≠ .setMicMuted callId false) (muted : pool.isMicMuted callId = true) :
    (pool.step mixer operation).isMicMuted callId = true := by
  cases operation with
  | createRingBuffer id => exact muted
  | bindCallID callId1 callId2 => exact (isMicMuted_bindCallID ..).trans muted
  | bindHalfDuplexOut processId id => exact (isMicMuted_bindHalfDuplexOut ..).trans muted
  | unBindCallID callId1 callId2 =>
    simp only [step, unBindCallID]
    split <;> exact muted
  | unBindHalfDuplexOut processId id => exact (isMicMuted_unBindHalfDuplexOut ..).trans muted
  | unBindAllHalfDuplexOut id => exact (isMicMuted_unBindAllHalfDuplexOut ..).trans muted
  | unBindAll id =>
    simp only [step, unBindAll]
    split
    · refine Eq.trans ?_ muted
      apply Run.after_keeps _ (fun pool : RingBufferPool α => pool.isMicMuted callId)
      intro state rbuf
      rfl
    · exact muted
  | setLocalPlaybackMuted id value => exact muted
  | setMicMuted id value =>
    refine (isMicMuted_setMicMuted pool id callId value).trans ?_
    split
    · subst id
      cases value with
      | true => rfl
      | false => exact absurd rfl kept
    · exact muted
  | put id frame => exact muted
  | getData reader =>
    have untouched : ∀ (pool : RingBufferPool α) rbuf, pool.isMicMuted callId = true →
        (pool.getFrom rbuf reader).2.isMicMuted callId = true := fun _ _ holds => holds
    exact getData_keeps untouched mixer muted
  | getAvailableData reader =>
    have untouched : ∀ (pool : RingBufferPool α) rbuf, pool.isMicMuted callId = true →
        (pool.getFrom rbuf reader).2.isMicMuted callId = true := fun _ _ holds => holds
    exact getAvailableData_keeps untouched mixer muted
  | discard toDiscard reader =>
    refine Eq.trans ?_ muted
    apply Run.after_keeps _ (fun pool : RingBufferPool α => pool.isMicMuted callId)
    intro state rbuf
    rfl
  | flush reader => exact (isMicMuted_flush ..).trans muted
  | flushAllBuffers => exact muted

def heard (mixer : Mixer α) (callId : String) (pool : RingBufferPool α) :
    Operation α → List (Except String (Option α))
  | .getData reader => if reader = callId then [(pool.getData mixer reader).1] else []
  | .getAvailableData reader =>
    if reader = callId then [(pool.getAvailableData mixer reader).1] else []
  | _ => []

def hears (mixer : Mixer α) (callId : String) :
    RingBufferPool α → List (Operation α) → List (Except String (Option α))
  | _, [] => []
  | pool, operation :: rest =>
    heard mixer callId pool operation ++ hears mixer callId (pool.step mixer operation) rest

theorem hears_append (callId : String) (pool : RingBufferPool α) (first later : List (Operation α)) :
    hears mixer callId pool (first ++ later) =
      hears mixer callId pool first ++
        hears mixer callId (Run.after (step mixer) pool first) later := by
  induction first generalizing pool with
  | nil => rfl
  | cons operation rest ih =>
    rw [List.cons_append, hears, hears, ih, Run.after_cons, List.append_assoc]

theorem AgreeFor.heard {callId : String} {left right : RingBufferPool α}
    (agree : AgreeFor callId left right) (called : callId ≠ defaultId)
    (muted : left.isMicMuted callId = true) (mixer : Mixer α) {other : Operation α}
    (same : SameButCapture operation other) :
    heard mixer callId right other = heard mixer callId left operation := by
  rcases same with equal | ⟨frame, captured, onLeft, onRight⟩
  · subst other
    cases operation with
    | getData reader =>
      simp only [RingBufferPool.heard]
      split
      · subst reader
        rw [(agree.getData called muted mixer).1]
      · rfl
    | getAvailableData reader =>
      simp only [RingBufferPool.heard]
      split
      · subst reader
        rw [(agree.getAvailableData called muted mixer).1]
      · rfl
    | _ => rfl
  · subst operation other
    rfl

private theorem hears_eq_of_agree {callId : String} (called : callId ≠ defaultId)
    {left right : RingBufferPool α} (agree : AgreeFor callId left right)
    (muted : left.isMicMuted callId = true) {operations others : List (Operation α)}
    (same : List.Forall₂ SameButCapture operations others)
    (kept : .setMicMuted callId false ∉ operations) :
    hears mixer callId right others = hears mixer callId left operations := by
  induction same generalizing left right with
  | nil => rfl
  | cons first _ ih =>
    rw [List.mem_cons, not_or] at kept
    rw [hears, hears, agree.heard called muted mixer first,
      ih (agree.step called muted mixer first)
        (isMicMuted_step mixer left (Ne.symm kept.1) muted) kept.2]

/-- Two runs that part after the microphone of a call was muted, in nothing but
captured frames, give the call the same. -/
theorem muted_capture_without_influence (mixer : Mixer α) (callId : String)
    (called : callId ≠ defaultId) (common operations others : List (Operation α))
    (muted : (Run.after (step mixer) create common).isMicMuted callId = true)
    (kept : .setMicMuted callId false ∉ operations)
    (same : List.Forall₂ SameButCapture operations others) :
    hears mixer callId create (common ++ operations) =
      hears mixer callId create (common ++ others) := by
  rw [hears_append, hears_append,
    hears_eq_of_agree mixer called (AgreeFor.refl callId _) muted same kept]

/-- A call that reads the host and a peer hears the peer alone. -/
theorem muted_capture_without_influence_on_mix :
    hears ⟨0, fun sum frame => .ok (sum + frame)⟩ "call" (create : RingBufferPool Nat)
        ([.createRingBuffer "call", .createRingBuffer "peer", .bindHalfDuplexOut "call" defaultId,
          .bindHalfDuplexOut "call" "peer", .setMicMuted "call" true] ++
        [.put defaultId 5, .put "peer" 7, .getAvailableData "call", .put "peer" 8,
          .getData "call"]) =
      hears ⟨0, fun sum frame => .ok (sum + frame)⟩ "call" create
        ([.createRingBuffer "call", .createRingBuffer "peer", .bindHalfDuplexOut "call" defaultId,
          .bindHalfDuplexOut "call" "peer", .setMicMuted "call" true] ++
        [.put defaultId 6, .put "peer" 7, .getAvailableData "call", .put "peer" 8,
          .getData "call"]) := by
  apply muted_capture_without_influence
  · decide
  · decide
  · decide
  · exact .cons (.inr ⟨5, 6, rfl, rfl⟩) (.cons (.inl rfl) (.cons (.inl rfl)
      (.cons (Or.inl rfl) (.cons (Or.inl rfl) .nil))))

end SipCore.RingBufferPool
