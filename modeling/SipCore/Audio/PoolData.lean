/-
What the readers of the pool get. A reader of one buffer gets its frames, a reader of
several gets their mix; local playback and the microphone are filtered. How frames are
mixed is a parameter, and mixing may throw. A set of buffers is ordered by the
addresses of its owners, here by the list.
-/

import SipCore.Audio.RingBufferPool
import SipCore.Audio.RingBufferContents

namespace SipCore

structure Mixer (α : Type) where
  blank : α
  mix : α → α → Except String α

structure Mixer.Keeps {α : Type} (mixer : Mixer α) (good : α → Prop) : Prop where
  blank : good mixer.blank
  mix : ∀ mixBuffer frame mixture, good mixBuffer → good frame →
    mixer.mix mixBuffer frame = .ok mixture → good mixture

namespace RingBufferPool

variable {α : Type}

def getFrom (pool : RingBufferPool α) (rbuf callId : String) : Option α × RingBufferPool α :=
  ((pool.ringBufferMap.find? rbuf).bind (fun ring => (ring.get callId).1),
    pool.overRingBuffer rbuf (fun ring => (ring.get callId).2))

def availableIn (pool : RingBufferPool α) (rbuf callId : String) : Nat :=
  ((pool.ringBufferMap.find? rbuf).map (fun ring => ring.availableForGet callId)).getD 0

def filterPlayback (pool : RingBufferPool α) (callId : String) : Bool :=
  callId == defaultId && !pool.localPlaybackMutedIds.isEmpty

def filterMic (pool : RingBufferPool α) (callId : String) : Bool :=
  callId != defaultId && pool.micMutedIds.contains callId

def skipMutedBuffer (pool : RingBufferPool α) (rbuf callId : String)
    (filterPlayback filterMic : Bool) : Bool × RingBufferPool α :=
  if filterPlayback && pool.localPlaybackMutedIds.contains rbuf then (true, pool)
  else if filterMic && rbuf == defaultId then (true, (pool.getFrom rbuf callId).2)
  else (false, pool)

def takeFrame (pool : RingBufferPool α) (rbuf callId : String) (filterPlayback filterMic : Bool) :
    Option α × RingBufferPool α :=
  match pool.skipMutedBuffer rbuf callId filterPlayback filterMic with
  | (true, skipped) => (none, skipped)
  | (false, kept) => kept.getFrom rbuf callId

def mixFrom (mixer : Mixer α) (callId : String) (filterPlayback filterMic : Bool) :
    List String → α → Bool → RingBufferPool α → Except String (α × Bool) × RingBufferPool α
  | [], mixBuffer, mixed, pool => (.ok (mixBuffer, mixed), pool)
  | rbuf :: rest, mixBuffer, mixed, pool =>
    match pool.takeFrame rbuf callId filterPlayback filterMic with
    | (none, read) => mixFrom mixer callId filterPlayback filterMic rest mixBuffer mixed read
    | (some frame, read) =>
      match mixer.mix mixBuffer frame with
      | .error message => (.error message, read)
      | .ok mixture => mixFrom mixer callId filterPlayback filterMic rest mixture true read

def getData (mixer : Mixer α) (pool : RingBufferPool α) (callId : String) :
    Except String (Option α) × RingBufferPool α :=
  let playback := pool.filterPlayback callId
  let mic := pool.filterMic callId
  match pool.readBindings callId with
  | [] => (.ok none, pool)
  | [rbuf] =>
    let (frame, read) := pool.takeFrame rbuf callId playback mic
    (.ok frame, read)
  | bindings =>
    match mixFrom mixer callId playback mic bindings mixer.blank false pool with
    | (.error message, read) => (.error message, read)
    | (.ok (mixBuffer, mixed), read) => (.ok (if mixed then some mixBuffer else none), read)

/-- The first loop of `getAvailableData`; `none` stands for the largest `size_t`. -/
def availableFrames (callId : String) (filterPlayback filterMic : Bool) :
    List String → Option Nat → RingBufferPool α → Option Nat × RingBufferPool α
  | [], least, pool => (least, pool)
  | rbuf :: rest, least, pool =>
    match pool.skipMutedBuffer rbuf callId filterPlayback filterMic with
    | (true, skipped) => availableFrames callId filterPlayback filterMic rest least skipped
    | (false, kept) =>
      let available := kept.availableIn rbuf callId
      let next := if available ≠ 0 then some ((least.map (min available)).getD available) else least
      availableFrames callId filterPlayback filterMic rest next kept

def getAvailableData (mixer : Mixer α) (pool : RingBufferPool α) (callId : String) :
    Except String (Option α) × RingBufferPool α :=
  let playback := pool.filterPlayback callId
  let mic := pool.filterMic callId
  match pool.readBindings callId with
  | [] => (.ok none, pool)
  | [rbuf] =>
    let (frame, read) := pool.takeFrame rbuf callId playback mic
    (.ok frame, read)
  | bindings =>
    match availableFrames callId playback mic bindings none pool with
    | (none, skipped) => (.ok none, skipped)
    | (some _, skipped) =>
      match mixFrom mixer callId playback mic bindings mixer.blank false skipped with
      | (.error message, read) => (.error message, read)
      | (.ok (buf, _), read) => (.ok (some buf), read)

def discard (pool : RingBufferPool α) (toDiscard : Nat) (callId : String) : RingBufferPool α :=
  (pool.readBindings callId).foldl
    (fun pool rbuf => pool.overRingBuffer rbuf (fun ring => (ring.discard toDiscard callId).2)) pool

def flushAllBuffers (pool : RingBufferPool α) : RingBufferPool α :=
  { pool with
    ringBufferMap := pool.ringBufferMap.mapValues RingBuffer.flushAll
    boundAlive := fun reader rbuf bound => by
      rw [AssocMap.contains_mapValues]
      exact pool.boundAlive reader rbuf bound
    defaultAlive := by
      rw [AssocMap.contains_mapValues]
      exact pool.defaultAlive }

def put (pool : RingBufferPool α) (id : String) (frame : α) : RingBufferPool α :=
  pool.overRingBuffer id (fun ring => ring.putToBuffer frame)

inductive Operation (α : Type) where
  | createRingBuffer (id : String)
  | bindCallID (callId1 callId2 : String)
  | bindHalfDuplexOut (processId callId : String)
  | unBindCallID (callId1 callId2 : String)
  | unBindHalfDuplexOut (processId callId : String)
  | unBindAllHalfDuplexOut (callId : String)
  | unBindAll (callId : String)
  | setLocalPlaybackMuted (id : String) (muted : Bool)
  | setMicMuted (id : String) (muted : Bool)
  | put (id : String) (frame : α)
  | getData (callId : String)
  | getAvailableData (callId : String)
  | discard (toDiscard : Nat) (callId : String)
  | flush (callId : String)
  | flushAllBuffers
deriving DecidableEq, Repr

def Operation.map {β : Type} (change : α → β) : Operation α → Operation β
  | .createRingBuffer id => .createRingBuffer id
  | .bindCallID callId1 callId2 => .bindCallID callId1 callId2
  | .bindHalfDuplexOut processId callId => .bindHalfDuplexOut processId callId
  | .unBindCallID callId1 callId2 => .unBindCallID callId1 callId2
  | .unBindHalfDuplexOut processId callId => .unBindHalfDuplexOut processId callId
  | .unBindAllHalfDuplexOut callId => .unBindAllHalfDuplexOut callId
  | .unBindAll callId => .unBindAll callId
  | .setLocalPlaybackMuted id muted => .setLocalPlaybackMuted id muted
  | .setMicMuted id muted => .setMicMuted id muted
  | .put id frame => .put id (change frame)
  | .getData callId => .getData callId
  | .getAvailableData callId => .getAvailableData callId
  | .discard toDiscard callId => .discard toDiscard callId
  | .flush callId => .flush callId
  | .flushAllBuffers => .flushAllBuffers

def step (mixer : Mixer α) (pool : RingBufferPool α) : Operation α → RingBufferPool α
  | .createRingBuffer id => pool.createRingBuffer id
  | .bindCallID callId1 callId2 => pool.bindCallID callId1 callId2
  | .bindHalfDuplexOut processId callId => pool.bindHalfDuplexOut processId callId
  | .unBindCallID callId1 callId2 => pool.unBindCallID callId1 callId2
  | .unBindHalfDuplexOut processId callId => pool.unBindHalfDuplexOut processId callId
  | .unBindAllHalfDuplexOut callId => pool.unBindAllHalfDuplexOut callId
  | .unBindAll callId => pool.unBindAll callId
  | .setLocalPlaybackMuted id muted => pool.setLocalPlaybackMuted id muted
  | .setMicMuted id muted => pool.setMicMuted id muted
  | .put id frame => pool.put id frame
  | .getData callId => (pool.getData mixer callId).2
  | .getAvailableData callId => (pool.getAvailableData mixer callId).2
  | .discard toDiscard callId => pool.discard toDiscard callId
  | .flush callId => pool.flush callId
  | .flushAllBuffers => pool.flushAllBuffers

section Reading

variable {callId : String} {invariant : RingBufferPool α → Prop}
  (got : ∀ pool rbuf, invariant pool → invariant (pool.getFrom rbuf callId).2)
include got

theorem skipMutedBuffer_keeps {pool : RingBufferPool α} (holds : invariant pool) (rbuf : String)
    (filterPlayback filterMic : Bool) :
    invariant (pool.skipMutedBuffer rbuf callId filterPlayback filterMic).2 := by
  unfold skipMutedBuffer
  split
  · exact holds
  · split
    · exact got pool rbuf holds
    · exact holds

theorem takeFrame_keeps {pool : RingBufferPool α} (holds : invariant pool) (rbuf : String)
    (filterPlayback filterMic : Bool) :
    invariant (pool.takeFrame rbuf callId filterPlayback filterMic).2 := by
  have after := skipMutedBuffer_keeps got holds rbuf filterPlayback filterMic
  unfold takeFrame
  split
  · rename_i skipped turn
    rw [turn] at after
    exact after
  · rename_i kept turn
    rw [turn] at after
    exact got kept rbuf after

theorem mixFrom_keeps (mixer : Mixer α) (filterPlayback filterMic : Bool) (bindings : List String)
    (mixBuffer : α) (mixed : Bool) {pool : RingBufferPool α} (holds : invariant pool) :
    invariant (mixFrom mixer callId filterPlayback filterMic bindings mixBuffer mixed pool).2 := by
  induction bindings generalizing pool mixBuffer mixed with
  | nil => exact holds
  | cons rbuf rest ih =>
    have after := takeFrame_keeps got holds rbuf filterPlayback filterMic
    unfold mixFrom
    split
    · rename_i read turn
      rw [turn] at after
      exact ih _ _ after
    · rename_i frame read turn
      rw [turn] at after
      split
      · exact after
      · exact ih _ _ after

private theorem availableFrames_keeps (filterPlayback filterMic : Bool) (bindings : List String)
    (least : Option Nat) {pool : RingBufferPool α} (holds : invariant pool) :
    invariant (availableFrames callId filterPlayback filterMic bindings least pool).2 := by
  induction bindings generalizing pool least with
  | nil => exact holds
  | cons rbuf rest ih =>
    have after := skipMutedBuffer_keeps got holds rbuf filterPlayback filterMic
    unfold availableFrames
    split
    · rename_i skipped turn
      rw [turn] at after
      exact ih _ after
    · rename_i kept turn
      rw [turn] at after
      exact ih _ after

theorem getData_keeps (mixer : Mixer α) {pool : RingBufferPool α} (holds : invariant pool) :
    invariant (pool.getData mixer callId).2 := by
  unfold getData
  simp only
  split
  · exact holds
  · exact takeFrame_keeps got holds _ _ _
  · have after := mixFrom_keeps got mixer (pool.filterPlayback callId) (pool.filterMic callId)
      (pool.readBindings callId) mixer.blank false holds
    split
    · rename_i turn
      rw [turn] at after
      exact after
    · rename_i turn
      rw [turn] at after
      exact after

theorem getAvailableData_keeps (mixer : Mixer α) {pool : RingBufferPool α}
    (holds : invariant pool) : invariant (pool.getAvailableData mixer callId).2 := by
  unfold getAvailableData
  simp only
  split
  · exact holds
  · exact takeFrame_keeps got holds _ _ _
  · have skipping := availableFrames_keeps got (pool.filterPlayback callId)
      (pool.filterMic callId) (pool.readBindings callId) none holds
    split
    · rename_i turn
      rw [turn] at skipping
      exact skipping
    · rename_i skipped turn
      rw [turn] at skipping
      have after := mixFrom_keeps got mixer (pool.filterPlayback callId) (pool.filterMic callId)
        (pool.readBindings callId) mixer.blank false skipping
      split
      · rename_i last
        rw [last] at after
        exact after
      · rename_i last
        rw [last] at after
        exact after

section Received

variable {good : α → Prop}
  (fine : ∀ pool rbuf frame, invariant pool → (pool.getFrom rbuf callId).1 = some frame →
    good frame)
include fine

theorem takeFrame_good {pool : RingBufferPool α} (holds : invariant pool) {rbuf : String}
    {filterPlayback filterMic : Bool} {frame : α}
    (taken : (pool.takeFrame rbuf callId filterPlayback filterMic).1 = some frame) : good frame := by
  have after := skipMutedBuffer_keeps got holds rbuf filterPlayback filterMic
  unfold takeFrame at taken
  split at taken
  · cases taken
  · rename_i kept turn
    rw [turn] at after
    exact fine kept rbuf frame after taken

private theorem mixFrom_good {mixer : Mixer α} (keeps : mixer.Keeps good)
    {filterPlayback filterMic : Bool} {bindings : List String} {mixBuffer mixture : α}
    {mixed anything : Bool} {pool : RingBufferPool α} (holds : invariant pool)
    (start : good mixBuffer)
    (result : (mixFrom mixer callId filterPlayback filterMic bindings mixBuffer mixed pool).1 =
      .ok (mixture, anything)) : good mixture := by
  induction bindings generalizing pool mixBuffer mixed with
  | nil =>
    cases result
    exact start
  | cons rbuf rest ih =>
    have after := takeFrame_keeps got holds rbuf filterPlayback filterMic
    have taken := @takeFrame_good _ _ _ got _ fine _ holds rbuf filterPlayback filterMic
    unfold mixFrom at result
    split at result
    · rename_i read turn
      rw [turn] at after
      exact ih after start result
    · rename_i frame read turn
      rw [turn] at after taken
      split at result
      · cases result
      · rename_i next mixes
        exact ih after (keeps.mix _ _ _ start (taken rfl) mixes) result

theorem getData_good {mixer : Mixer α} (keeps : mixer.Keeps good) {pool : RingBufferPool α}
    (holds : invariant pool) {frame : α}
    (result : (pool.getData mixer callId).1 = .ok (some frame)) : good frame := by
  unfold getData at result
  simp only at result
  split at result
  · cases result
  · exact takeFrame_good got fine holds (Except.ok.inj result)
  · split at result
    · cases result
    · rename_i mixBuffer anything read turn
      have mixture : good mixBuffer :=
        mixFrom_good got fine keeps holds keeps.blank (congrArg Prod.fst turn)
      cases anything with
      | false => cases result
      | true =>
        rw [← Option.some.inj (Except.ok.inj result)]
        exact mixture

end Received

end Reading

/-! ### What holds of every buffer

A property of the buffers is kept by an operation of the pool if it is kept by
the calls the operation makes on one buffer. -/

def EachRing (property : String → RingBuffer α → Prop) (pool : RingBufferPool α) : Prop :=
  ∀ id ring, pool.ringBufferMap.find? id = some ring → property id ring

namespace EachRing

variable {property : String → RingBuffer α → Prop} {pool : RingBufferPool α}

theorem mono {weaker : String → RingBuffer α → Prop} (each : EachRing property pool)
    (imp : ∀ id ring, property id ring → weaker id ring) : EachRing weaker pool :=
  fun id ring found => imp id ring (each id ring found)

theorem create (fresh : ∀ id, property id (RingBuffer.create RingBuffer.defaultSlots)) :
    EachRing property (RingBufferPool.create : RingBufferPool α) := by
  intro id ring found
  change (AssocMap.empty.emplace defaultId _).find? id = some ring at found
  rw [AssocMap.find?_emplace] at found
  split at found
  · rw [← Option.some.inj found]
    exact fresh id
  · cases found

private theorem createRingBuffer (each : EachRing property pool)
    (fresh : ∀ id, property id (RingBuffer.create RingBuffer.defaultSlots)) (name : String) :
    EachRing property (pool.createRingBuffer name) := by
  intro id ring found
  change (pool.ringBufferMap.emplace name _).find? id = some ring at found
  rw [AssocMap.find?_emplace] at found
  split at found
  · subst id
    cases before : pool.ringBufferMap.find? name with
    | none =>
      rw [before] at found
      rw [← Option.some.inj found]
      exact fresh name
    | some old =>
      rw [before] at found
      rw [← Option.some.inj found]
      exact each name old before
  · exact each id ring found

theorem modified (each : EachRing property pool) {rbuf : String} {change : RingBuffer α → RingBuffer α}
    (kept : ∀ ring, property rbuf ring → property rbuf (change ring)) :
    EachRing property (pool.overRingBuffer rbuf change) := by
  intro id ring found
  change (pool.ringBufferMap.modify rbuf change).find? id = some ring at found
  rw [AssocMap.find?_modify] at found
  split at found
  · subst id
    obtain ⟨old, before, changed⟩ := Option.map_eq_some_iff.mp found
    rw [← changed]
    exact kept old (each rbuf old before)
  · exact each id ring found

private theorem foldl {β : Type} {turn : RingBufferPool α → β → RingBufferPool α}
    (kept : ∀ pool item, EachRing property pool → EachRing property (turn pool item))
    (each : EachRing property pool) (items : List β) :
    EachRing property (items.foldl turn pool) := by
  induction items generalizing pool with
  | nil => exact each
  | cons item rest ih => exact ih (kept pool item each)

section

variable (each : EachRing property pool)
include each

private theorem addReader {rbuf callId : String}
    (kept : ∀ ring, property rbuf ring → property rbuf (ring.createReadOffset callId)) :
    EachRing property (pool.addReaderToRingBuffer rbuf callId) := by
  unfold addReaderToRingBuffer
  split
  · exact each.modified kept
  · exact each

private theorem removeReader {rbuf callId : String}
    (kept : ∀ ring, property rbuf ring → property rbuf (ring.removeReadOffset callId)) :
    EachRing property (pool.removeReaderFromRingBuffer rbuf callId) :=
  each.modified kept

theorem getFrom {callId : String}
    (kept : ∀ id ring, property id ring → property id (ring.get callId).2) (rbuf : String) :
    EachRing property (pool.getFrom rbuf callId).2 :=
  each.modified (kept rbuf)

theorem getFrom_good {callId rbuf : String} {good : α → Prop}
    (fine : ∀ ring frame, property rbuf ring → (ring.get callId).1 = some frame → good frame)
    {frame : α} (read : (pool.getFrom rbuf callId).1 = some frame) : good frame := by
  obtain ⟨ring, found, got⟩ := Option.bind_eq_some_iff.mp read
  exact fine ring frame (each rbuf ring found) got

end

theorem step (mixer : Mixer α)
    (fresh : ∀ id, property id (RingBuffer.create RingBuffer.defaultSlots))
    (closed : ∀ id ring (op : RingBuffer.Op α), op.isPut = false → property id ring →
      property id (ring.apply op))
    (each : EachRing property pool) (operation : Operation α)
    (noPut : ∀ id frame, operation ≠ .put id frame) :
    EachRing property (pool.step mixer operation) := by
  have added : ∀ (pool : RingBufferPool α) rbuf callId, EachRing property pool →
      EachRing property (pool.addReaderToRingBuffer rbuf callId) :=
    fun pool rbuf callId each =>
      each.addReader (fun ring => closed rbuf ring (.createReadOffset callId) rfl)
  have removed : ∀ (pool : RingBufferPool α) rbuf callId, EachRing property pool →
      EachRing property (pool.removeReaderFromRingBuffer rbuf callId) :=
    fun pool rbuf callId each =>
      each.removeReader (fun ring => closed rbuf ring (.removeReadOffset callId) rfl)
  cases operation with
  | createRingBuffer id => exact each.createRingBuffer fresh id
  | bindCallID callId1 callId2 =>
    change EachRing property (pool.bindCallID callId1 callId2)
    unfold bindCallID
    split
    · exact added _ _ _ (added _ _ _ each)
    · exact each
  | bindHalfDuplexOut processId callId =>
    change EachRing property (pool.bindHalfDuplexOut processId callId)
    unfold bindHalfDuplexOut
    split
    · exact added _ _ _ each
    · exact each
  | unBindCallID callId1 callId2 =>
    change EachRing property (pool.unBindCallID callId1 callId2)
    unfold unBindCallID
    split
    · exact removed _ _ _ (removed _ _ _ each)
    · exact each
  | unBindHalfDuplexOut processId callId =>
    change EachRing property (pool.unBindHalfDuplexOut processId callId)
    unfold unBindHalfDuplexOut
    split
    · exact removed _ _ _ each
    · exact each
  | unBindAllHalfDuplexOut callId =>
    change EachRing property (pool.unBindAllHalfDuplexOut callId)
    unfold unBindAllHalfDuplexOut
    split
    · exact each.foldl (fun pool rbuf => removed pool callId rbuf) _
    · exact each
  | unBindAll callId =>
    change EachRing property (pool.unBindAll callId)
    unfold unBindAll
    split
    · exact each.foldl (fun pool rbuf each => removed _ callId rbuf (removed pool rbuf callId each)) _
    · exact each
  | setLocalPlaybackMuted id muted => exact each
  | setMicMuted id muted => exact each
  | put id frame => exact absurd rfl (noPut id frame)
  | getData callId =>
    apply getData_keeps _ mixer each
    exact fun pool rbuf each => each.getFrom (fun id ring => closed id ring (.get callId) rfl) rbuf
  | getAvailableData callId =>
    apply getAvailableData_keeps _ mixer each
    exact fun pool rbuf each => each.getFrom (fun id ring => closed id ring (.get callId) rfl) rbuf
  | discard toDiscard callId =>
    exact each.foldl
      (fun pool rbuf each => each.modified
        (fun ring => closed rbuf ring (.discard toDiscard callId) rfl)) _
  | flush callId =>
    exact each.foldl
      (fun pool rbuf each => each.modified (fun ring => closed rbuf ring (.flush callId) rfl)) _
  | flushAllBuffers =>
    intro id ring found
    change (pool.ringBufferMap.mapValues RingBuffer.flushAll).find? id = some ring at found
    rw [AssocMap.find?_mapValues] at found
    obtain ⟨old, before, flushed⟩ := Option.map_eq_some_iff.mp found
    rw [← flushed]
    exact closed id old .flushAll rfl (each id old before)

end EachRing

end RingBufferPool

end SipCore
