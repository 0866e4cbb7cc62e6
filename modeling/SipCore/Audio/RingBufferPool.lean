/-
The pool of ring buffers and the bindings between them. A binding set holds shared
pointers, so a bound buffer is alive; ids of live buffers are unique, so a set of
buffers is a list of ids. The pool's own buffer is the host: it holds the captured
microphone, and its reader is the local speaker.
-/

import SipCore.Audio.RingBuffer
import SipCore.Library.GuardedRun

namespace SipCore

namespace RingBufferPool

def defaultId : String := "audiolayer_id"

def bindOne (bindings : AssocMap String (List String)) (rbuf callId : String) :
    AssocMap String (List String) :=
  (bindings.emplace callId []).modify callId (List.insert rbuf)

theorem getD_find?_bindOne (bindings : AssocMap String (List String)) (rbuf callId reader : String) :
    ((bindOne bindings rbuf callId).find? reader).getD [] =
      if reader = callId then ((bindings.find? callId).getD []).insert rbuf
      else (bindings.find? reader).getD [] := by
  unfold bindOne
  rw [AssocMap.find?_modify, AssocMap.find?_emplace, AssocMap.find?_emplace, if_pos rfl]
  by_cases same : reader = callId
  · rw [if_pos same, if_pos same]
    rfl
  · rw [if_neg same, if_neg same, if_neg same]

def unbindOne (bindings : AssocMap String (List String)) (rbuf callId : String) :
    AssocMap String (List String) :=
  match bindings.find? callId with
  | none => bindings
  | some bound =>
    if bound.filter (· ≠ rbuf) = [] then bindings.erase callId
    else bindings.modify callId (List.filter (· ≠ rbuf))

theorem getD_find?_unbindOne (bindings : AssocMap String (List String))
    (rbuf callId reader : String) :
    ((unbindOne bindings rbuf callId).find? reader).getD [] =
      if reader = callId then ((bindings.find? callId).getD []).filter (· ≠ rbuf)
      else (bindings.find? reader).getD [] := by
  unfold unbindOne
  cases found : bindings.find? callId with
  | none =>
    by_cases same : reader = callId
    · rw [if_pos same, same, found]
      rfl
    · rw [if_neg same]
  | some bound =>
    simp only
    split
    · rename_i emptied
      rw [AssocMap.find?_erase]
      by_cases same : reader = callId
      · rw [if_pos same, if_pos same, Option.getD_some, emptied]
        rfl
      · rw [if_neg same, if_neg same]
    · rw [AssocMap.find?_modify, found]
      by_cases same : reader = callId
      · rw [if_pos same, if_pos same]
        rfl
      · rw [if_neg same, if_neg same]

end RingBufferPool

variable (processId : String)

structure RingBufferPool (α : Type) where
  ringBufferMap : AssocMap String (RingBuffer α)
  readBindingsMap : AssocMap String (List String)
  localPlaybackMutedIds : List String
  micMutedIds : List String
  boundAlive : ∀ reader, ∀ rbuf ∈ (readBindingsMap.find? reader).getD [],
    ringBufferMap.contains rbuf = true
  defaultAlive : ringBufferMap.contains RingBufferPool.defaultId = true

namespace RingBufferPool

variable {α : Type}

def create : RingBufferPool α :=
  { ringBufferMap := AssocMap.empty.emplace defaultId (RingBuffer.create RingBuffer.defaultSlots)
    readBindingsMap := AssocMap.empty
    localPlaybackMutedIds := []
    micMutedIds := []
    boundAlive := by
      intro reader rbuf bound
      cases bound
    defaultAlive := by simp [AssocMap.contains, AssocMap.find?_emplace] }

def hasRingBuffer (pool : RingBufferPool α) (id : String) : Bool := pool.ringBufferMap.contains id

def createRingBuffer (pool : RingBufferPool α) (id : String) : RingBufferPool α :=
  { pool with
    ringBufferMap := pool.ringBufferMap.emplace id (RingBuffer.create RingBuffer.defaultSlots)
    boundAlive := fun reader rbuf bound =>
      AssocMap.contains_emplace_of_contains (pool.boundAlive reader rbuf bound)
    defaultAlive := AssocMap.contains_emplace_of_contains pool.defaultAlive }

def overRingBuffer (pool : RingBufferPool α) (id : String)
    (change : RingBuffer α → RingBuffer α) : RingBufferPool α :=
  { pool with
    ringBufferMap := pool.ringBufferMap.modify id change
    boundAlive := fun reader rbuf bound => by
      rw [AssocMap.contains_modify]
      exact pool.boundAlive reader rbuf bound
    defaultAlive := by
      rw [AssocMap.contains_modify]
      exact pool.defaultAlive }

def readBindings (pool : RingBufferPool α) (callId : String) : List String :=
  (pool.readBindingsMap.find? callId).getD []

def addReaderToRingBuffer (pool : RingBufferPool α) (rbuf callId : String) : RingBufferPool α :=
  if alive : pool.hasRingBuffer rbuf = true then
    { pool.overRingBuffer rbuf (fun ring => ring.createReadOffset callId) with
      readBindingsMap := bindOne pool.readBindingsMap rbuf callId
      boundAlive := by
        intro reader other bound
        rw [getD_find?_bindOne] at bound
        change (pool.ringBufferMap.modify rbuf _).contains other = true
        rw [AssocMap.contains_modify]
        split at bound
        · rcases List.mem_insert_iff.mp bound with same | before
          · rw [same]
            exact alive
          · exact pool.boundAlive callId other before
        · exact pool.boundAlive reader other bound }
  else pool

def removeReaderFromRingBuffer (pool : RingBufferPool α) (rbuf callId : String) :
    RingBufferPool α :=
  { pool.overRingBuffer rbuf (fun ring => ring.removeReadOffset callId) with
    readBindingsMap := unbindOne pool.readBindingsMap rbuf callId
    boundAlive := by
      intro reader other bound
      rw [getD_find?_unbindOne] at bound
      change (pool.ringBufferMap.modify rbuf _).contains other = true
      rw [AssocMap.contains_modify]
      split at bound
      · exact pool.boundAlive callId other (List.mem_filter.mp bound).1
      · exact pool.boundAlive reader other bound }

def bindCallID (pool : RingBufferPool α) (callId1 callId2 : String) : RingBufferPool α :=
  if pool.hasRingBuffer callId1 && pool.hasRingBuffer callId2 then
    (pool.addReaderToRingBuffer callId1 callId2).addReaderToRingBuffer callId2 callId1
  else pool

def bindHalfDuplexOut (pool : RingBufferPool α) (processId callId : String) : RingBufferPool α :=
  if pool.hasRingBuffer callId then pool.addReaderToRingBuffer callId processId else pool

def unBindCallID (pool : RingBufferPool α) (callId1 callId2 : String) : RingBufferPool α :=
  if pool.hasRingBuffer callId1 && pool.hasRingBuffer callId2 then
    (pool.removeReaderFromRingBuffer callId1 callId2).removeReaderFromRingBuffer callId2 callId1
  else pool

def unBindHalfDuplexOut (pool : RingBufferPool α) (processId callId : String) :
    RingBufferPool α :=
  if pool.hasRingBuffer callId then pool.removeReaderFromRingBuffer callId processId else pool

/-- The readers to remove are looked for among the buffers the call reads. -/
def unBindAllHalfDuplexOut (pool : RingBufferPool α) (callId : String) : RingBufferPool α :=
  if pool.hasRingBuffer callId then
    (pool.readBindings callId).foldl
      (fun pool rbuf => pool.removeReaderFromRingBuffer callId rbuf) pool
  else pool

def unBindAll (pool : RingBufferPool α) (callId : String) : RingBufferPool α :=
  if pool.hasRingBuffer callId then
    (pool.readBindings callId).foldl
      (fun pool rbuf =>
        (pool.removeReaderFromRingBuffer rbuf callId).removeReaderFromRingBuffer callId rbuf) pool
  else pool

def flush (pool : RingBufferPool α) (callId : String) : RingBufferPool α :=
  (pool.readBindings callId).foldl
    (fun pool rbuf => pool.overRingBuffer rbuf (fun ring => ring.flush callId)) pool

def setLocalPlaybackMuted (pool : RingBufferPool α) (id : String) (muted : Bool) :
    RingBufferPool α :=
  { pool with
    localPlaybackMutedIds :=
      if muted then pool.localPlaybackMutedIds.insert id
      else pool.localPlaybackMutedIds.filter (· ≠ id) }

def setMicMuted (pool : RingBufferPool α) (id : String) (muted : Bool) : RingBufferPool α :=
  { pool with
    micMutedIds :=
      if muted then pool.micMutedIds.insert id else pool.micMutedIds.filter (· ≠ id) }

def isMicMuted (pool : RingBufferPool α) (id : String) : Bool := pool.micMutedIds.contains id

def Reads (pool : RingBufferPool α) (reader rbuf : String) : Prop :=
  rbuf ∈ pool.readBindings reader

instance (pool : RingBufferPool α) (reader rbuf : String) : Decidable (pool.Reads reader rbuf) :=
  inferInstanceAs (Decidable (rbuf ∈ pool.readBindings reader))

theorem Reads.alive {pool : RingBufferPool α} {reader rbuf : String}
    (reads : pool.Reads reader rbuf) : pool.hasRingBuffer rbuf = true :=
  pool.boundAlive reader rbuf reads

variable (pool : RingBufferPool α) (reader rbuf callId other : String)

@[simp] theorem hasRingBuffer_addReader :
    (pool.addReaderToRingBuffer rbuf callId).hasRingBuffer other = pool.hasRingBuffer other := by
  unfold addReaderToRingBuffer
  split
  · exact AssocMap.contains_modify _ _ _ _
  · rfl

@[simp] theorem hasRingBuffer_removeReader :
    (pool.removeReaderFromRingBuffer rbuf callId).hasRingBuffer other =
      pool.hasRingBuffer other :=
  AssocMap.contains_modify _ _ _ _

theorem reads_addReader (alive : pool.hasRingBuffer rbuf = true) :
    (pool.addReaderToRingBuffer rbuf callId).Reads reader other ↔
      pool.Reads reader other ∨ reader = callId ∧ other = rbuf := by
  unfold addReaderToRingBuffer
  rw [dif_pos alive]
  change other ∈ ((bindOne pool.readBindingsMap rbuf callId).find? reader).getD [] ↔ _
  rw [getD_find?_bindOne]
  split
  · subst reader
    rw [List.mem_insert_iff, or_comm]
    simp only [true_and]
    exact Iff.rfl
  · rename_i different
    simp only [different, false_and, or_false]
    exact Iff.rfl

theorem reads_removeReader :
    (pool.removeReaderFromRingBuffer rbuf callId).Reads reader other ↔
      pool.Reads reader other ∧ ¬ (reader = callId ∧ other = rbuf) := by
  change other ∈ ((unbindOne pool.readBindingsMap rbuf callId).find? reader).getD [] ↔ _
  rw [getD_find?_unbindOne]
  split
  · subst reader
    rw [List.mem_filter]
    simp only [true_and, ne_eq, decide_not, Bool.not_eq_true', decide_eq_false_iff_not]
    exact Iff.rfl
  · rename_i different
    simp only [different, false_and, not_false_eq_true, and_true]
    exact Iff.rfl

/-! ### One lemma for each operation -/

theorem reads_bindCallID (callId1 callId2 : String) :
    (pool.bindCallID callId1 callId2).Reads reader other ↔
      pool.Reads reader other ∨
        (pool.hasRingBuffer callId1 = true ∧ pool.hasRingBuffer callId2 = true) ∧
          (reader = callId2 ∧ other = callId1 ∨ reader = callId1 ∧ other = callId2) := by
  unfold bindCallID
  split
  · rename_i alive
    rw [Bool.and_eq_true] at alive
    rw [reads_addReader _ _ _ _ _ (by simpa using alive.2), reads_addReader _ _ _ _ _ alive.1,
      or_assoc]
    simp only [alive, and_self, true_and]
  · rename_i missing
    rw [Bool.and_eq_true] at missing
    simp only [missing, false_and, or_false]

private theorem reads_bindHalfDuplexOut :
    (pool.bindHalfDuplexOut processId callId).Reads reader other ↔
      pool.Reads reader other ∨
        pool.hasRingBuffer callId = true ∧ reader = processId ∧ other = callId := by
  unfold bindHalfDuplexOut
  split
  · rename_i alive
    rw [reads_addReader _ _ _ _ _ alive]
    simp only [alive, true_and]
  · rename_i missing
    simp only [missing, false_and, or_false, Bool.false_eq_true]

private theorem reads_unBindCallID (callId1 callId2 : String) :
    (pool.unBindCallID callId1 callId2).Reads reader other ↔
      pool.Reads reader other ∧
        ¬ ((pool.hasRingBuffer callId1 = true ∧ pool.hasRingBuffer callId2 = true) ∧
          (reader = callId2 ∧ other = callId1 ∨ reader = callId1 ∧ other = callId2)) := by
  unfold unBindCallID
  split
  · rename_i alive
    rw [Bool.and_eq_true] at alive
    rw [reads_removeReader, reads_removeReader, and_assoc, ← not_or]
    simp only [alive, and_self, true_and]
  · rename_i missing
    rw [Bool.and_eq_true] at missing
    simp only [missing, false_and, not_false_eq_true, and_true]

theorem reads_unBindHalfDuplexOut :
    (pool.unBindHalfDuplexOut processId callId).Reads reader other ↔
      pool.Reads reader other ∧ ¬ (reader = processId ∧ other = callId) := by
  unfold unBindHalfDuplexOut
  split
  · exact reads_removeReader pool reader callId processId other
  · rename_i missing
    constructor
    · intro reads
      refine ⟨reads, ?_⟩
      rintro ⟨_, same⟩
      rw [same] at reads
      exact missing reads.alive
    · exact And.left

private theorem reads_removeReaders (readers : List String) :
    (readers.foldl (fun pool rbuf => pool.removeReaderFromRingBuffer callId rbuf) pool).Reads
        reader other ↔
      pool.Reads reader other ∧ ¬ (other = callId ∧ reader ∈ readers) := by
  induction readers generalizing pool with
  | nil => simp
  | cons first later ih =>
    rw [List.foldl_cons, ih, reads_removeReader, List.mem_cons, and_assoc]
    tauto

theorem reads_unBindAllHalfDuplexOut :
    (pool.unBindAllHalfDuplexOut callId).Reads reader other ↔
      pool.Reads reader other ∧ ¬ (other = callId ∧ pool.Reads callId reader) := by
  unfold unBindAllHalfDuplexOut
  split
  · exact reads_removeReaders pool reader callId other (pool.readBindings callId)
  · rename_i missing
    constructor
    · intro reads
      refine ⟨reads, ?_⟩
      rintro ⟨same, _⟩
      rw [same] at reads
      exact missing reads.alive
    · exact And.left

private theorem reads_unbindBoth (bound : List String) :
    (bound.foldl (fun pool rbuf =>
        (pool.removeReaderFromRingBuffer rbuf callId).removeReaderFromRingBuffer callId rbuf)
        pool).Reads reader other ↔
      pool.Reads reader other ∧
        ¬ (reader = callId ∧ other ∈ bound ∨ other = callId ∧ reader ∈ bound) := by
  induction bound generalizing pool with
  | nil => simp
  | cons first later ih =>
    rw [List.foldl_cons, ih, reads_removeReader, reads_removeReader, List.mem_cons,
      List.mem_cons]
    tauto

theorem reads_unBindAll (alive : pool.hasRingBuffer callId = true) :
    (pool.unBindAll callId).Reads reader other ↔
      pool.Reads reader other ∧ reader ≠ callId ∧ ¬ (other = callId ∧ pool.Reads callId reader) := by
  unfold unBindAll
  rw [if_pos alive, reads_unbindBoth]
  constructor
  · rintro ⟨reads, removed⟩
    refine ⟨reads, ?_, fun both => removed (.inr both)⟩
    intro same
    subst reader
    exact removed (.inl ⟨rfl, reads⟩)
  · rintro ⟨reads, different, kept⟩
    exact ⟨reads, fun either => either.elim (fun own => different own.1) kept⟩

@[simp] theorem reads_flush : (pool.flush callId).Reads reader other ↔ pool.Reads reader other := by
  have kept : (pool.flush callId).readBindingsMap = pool.readBindingsMap := by
    apply Run.after_keeps _ readBindingsMap
    intro state rbuf
    rfl
  unfold Reads readBindings
  rw [kept]

@[simp] theorem hasRingBuffer_bindCallID (callId1 callId2 : String) :
    (pool.bindCallID callId1 callId2).hasRingBuffer other = pool.hasRingBuffer other := by
  unfold bindCallID
  split
  · rw [hasRingBuffer_addReader, hasRingBuffer_addReader]
  · rfl

@[simp] theorem hasRingBuffer_flush :
    (pool.flush callId).hasRingBuffer other = pool.hasRingBuffer other := by
  apply Run.after_keeps _ (fun pool : RingBufferPool α => pool.hasRingBuffer other)
  intro state rbuf
  exact AssocMap.contains_modify _ _ _ _

@[simp] theorem hasRingBuffer_unBindAll :
    (pool.unBindAll callId).hasRingBuffer other = pool.hasRingBuffer other := by
  unfold unBindAll
  split
  · apply Run.after_keeps _ (fun pool : RingBufferPool α => pool.hasRingBuffer other)
    intro state rbuf
    simp only [hasRingBuffer_removeReader]
  · rfl

@[simp] theorem micMutedIds_addReader :
    (pool.addReaderToRingBuffer rbuf callId).micMutedIds = pool.micMutedIds := by
  unfold addReaderToRingBuffer
  split <;> rfl

@[simp] theorem isMicMuted_bindCallID (callId1 callId2 : String) :
    (pool.bindCallID callId1 callId2).isMicMuted other = pool.isMicMuted other := by
  unfold isMicMuted bindCallID
  split
  · rw [micMutedIds_addReader, micMutedIds_addReader]
  · rfl

@[simp] theorem isMicMuted_bindHalfDuplexOut :
    (pool.bindHalfDuplexOut processId callId).isMicMuted other = pool.isMicMuted other := by
  unfold isMicMuted bindHalfDuplexOut
  split
  · rw [micMutedIds_addReader]
  · rfl

@[simp] theorem isMicMuted_unBindHalfDuplexOut :
    (pool.unBindHalfDuplexOut processId callId).isMicMuted other = pool.isMicMuted other := by
  unfold isMicMuted unBindHalfDuplexOut
  split <;> rfl

@[simp] theorem isMicMuted_unBindAllHalfDuplexOut :
    (pool.unBindAllHalfDuplexOut callId).isMicMuted other = pool.isMicMuted other := by
  unfold unBindAllHalfDuplexOut
  split
  · apply Run.after_keeps _ (fun pool : RingBufferPool α => pool.isMicMuted other)
    intro state rbuf
    rfl
  · rfl

@[simp] theorem isMicMuted_flush :
    (pool.flush callId).isMicMuted other = pool.isMicMuted other := by
  apply Run.after_keeps _ (fun pool : RingBufferPool α => pool.isMicMuted other)
  intro state rbuf
  rfl

@[simp] theorem isMicMuted_setMicMuted (muted : Bool) :
    (pool.setMicMuted callId muted).isMicMuted other =
      if other = callId then muted else pool.isMicMuted other := by
  unfold isMicMuted setMicMuted
  cases muted with
  | true =>
    simp only [if_true]
    split
    · rename_i same
      simp [same]
    · rename_i different
      simp [different]
  | false =>
    simp only [Bool.false_eq_true, if_false]
    split
    · rename_i same
      simp [same]
    · rename_i different
      simp [different]

theorem isMicMuted_foldl {each : RingBufferPool α → String → RingBufferPool α}
    {active : String → Bool} {value : Bool}
    (effect : ∀ pool item id, (each pool item).isMicMuted id =
      if id = item ∧ active item = true then value else pool.isMicMuted id)
    (items : List String) (pool : RingBufferPool α) (id : String) :
    (items.foldl each pool).isMicMuted id =
      if id ∈ items ∧ active id = true then value else pool.isMicMuted id := by
  induction items generalizing pool with
  | nil => simp
  | cons item later ih =>
    rw [List.foldl_cons, ih, effect]
    by_cases same : id = item
    · subst item
      cases active id with
      | true => simp
      | false => simp
    · simp [same]

def NoNewReaders (quiet : String → Prop) (before after : RingBufferPool α) : Prop :=
  ∀ callId, quiet callId → ∀ reader, after.Reads reader callId → before.Reads reader callId

namespace NoNewReaders

variable {quiet : String → Prop} {pool : RingBufferPool α}

theorem refl : NoNewReaders quiet pool pool := fun _ _ _ reads => reads

theorem trans {between after : RingBufferPool α} (first : NoNewReaders quiet pool between)
    (second : NoNewReaders quiet between after) : NoNewReaders quiet pool after :=
  fun callId isQuiet reader reads => first callId isQuiet reader (second callId isQuiet reader reads)

theorem foldl {change : RingBufferPool α → String → RingBufferPool α}
    (each : ∀ pool item, NoNewReaders quiet pool (change pool item)) (items : List String) :
    NoNewReaders quiet pool (items.foldl change pool) := by
  induction items generalizing pool with
  | nil => exact refl
  | cons item later ih => exact (each pool item).trans ih

theorem bindCallID {callId1 callId2 : String} (first : ¬ quiet callId1) (second : ¬ quiet callId2) :
    NoNewReaders quiet pool (pool.bindCallID callId1 callId2) := by
  intro callId isQuiet reader reads
  rcases (reads_bindCallID ..).mp reads with before | ⟨_, ⟨_, same⟩ | ⟨_, same⟩⟩
  · exact before
  · exact absurd (same ▸ isQuiet) first
  · exact absurd (same ▸ isQuiet) second

theorem bindHalfDuplexOut {processId callId : String} (heard : ¬ quiet callId) :
    NoNewReaders quiet pool (pool.bindHalfDuplexOut processId callId) := by
  intro other isQuiet reader reads
  rcases (reads_bindHalfDuplexOut ..).mp reads with before | ⟨_, _, same⟩
  · exact before
  · exact absurd (same ▸ isQuiet) heard

theorem unBindCallID (callId1 callId2 : String) :
    NoNewReaders quiet pool (pool.unBindCallID callId1 callId2) :=
  fun _ _ _ reads => ((reads_unBindCallID ..).mp reads).1

theorem unBindHalfDuplexOut (processId callId : String) :
    NoNewReaders quiet pool (pool.unBindHalfDuplexOut processId callId) :=
  fun _ _ _ reads => ((reads_unBindHalfDuplexOut ..).mp reads).1

theorem flush (callId : String) : NoNewReaders quiet pool (pool.flush callId) :=
  fun _ _ _ reads => (reads_flush ..).mp reads

theorem setMicMuted (callId : String) (muted : Bool) :
    NoNewReaders quiet pool (pool.setMicMuted callId muted) := refl

theorem setLocalPlaybackMuted (callId : String) (muted : Bool) :
    NoNewReaders quiet pool (pool.setLocalPlaybackMuted callId muted) := refl

end NoNewReaders

end RingBufferPool

end SipCore
