/-
The two records of who reads whom: the binding sets of the pool and the read
offsets inside the buffers. Every operation changes both, one binding at a time,
so they never part. A buffer nobody is bound to lives as long as its owner keeps
it; it may be gone at any moment after that.
-/

import SipCore.Audio.RingBufferPool

namespace SipCore

namespace RingBuffer

variable {α : Type} (ring : RingBuffer α) (callId reader : String)

theorem hasThisReadOffset_createReadOffset :
    (ring.createReadOffset callId).hasThisReadOffset reader = true ↔
      ring.hasThisReadOffset reader = true ∨ reader = callId := by
  change ((ring.readoffsets.emplace callId ring.endPos).find? reader).isSome = true ↔
    (ring.readoffsets.find? reader).isSome = true ∨ _
  rw [AssocMap.find?_emplace]
  by_cases same : reader = callId
  · simp [same]
  · simp [same]

private theorem hasThisReadOffset_removeReadOffset :
    (ring.removeReadOffset callId).hasThisReadOffset reader = true ↔
      ring.hasThisReadOffset reader = true ∧ reader ≠ callId := by
  change ((ring.readoffsets.erase callId).find? reader).isSome = true ↔
    (ring.readoffsets.find? reader).isSome = true ∧ _
  rw [AssocMap.find?_erase]
  by_cases same : reader = callId
  · simp [same]
  · simp [same]

end RingBuffer

namespace RingBufferPool

variable {α : Type} (pool : RingBufferPool α) (reader rbuf callId other : String)

def HasReadOffset : Prop :=
  ∃ ring, pool.ringBufferMap.find? rbuf = some ring ∧ ring.hasThisReadOffset reader = true

theorem hasReadOffset_overRingBuffer (change : RingBuffer α → RingBuffer α) :
    (pool.overRingBuffer rbuf change).HasReadOffset reader other ↔
      ∃ ring, pool.ringBufferMap.find? other = some ring ∧
        (if other = rbuf then change ring else ring).hasThisReadOffset reader = true := by
  unfold HasReadOffset overRingBuffer
  simp only [AssocMap.find?_modify]
  by_cases same : other = rbuf
  · subst other
    simp
  · simp [same]

theorem hasReadOffset_addReader (alive : pool.hasRingBuffer rbuf = true) :
    (pool.addReaderToRingBuffer rbuf callId).HasReadOffset reader other ↔
      pool.HasReadOffset reader other ∨ reader = callId ∧ other = rbuf := by
  unfold addReaderToRingBuffer
  rw [dif_pos alive]
  change (pool.overRingBuffer rbuf _).HasReadOffset reader other ↔ _
  rw [hasReadOffset_overRingBuffer]
  by_cases same : other = rbuf
  · subst other
    rcases Option.isSome_iff_exists.mp alive with ⟨ring, found⟩
    simp [HasReadOffset, found, RingBuffer.hasThisReadOffset_createReadOffset]
  · simp [same, HasReadOffset]

private theorem hasReadOffset_removeReader :
    (pool.removeReaderFromRingBuffer rbuf callId).HasReadOffset reader other ↔
      pool.HasReadOffset reader other ∧ ¬ (reader = callId ∧ other = rbuf) := by
  change (pool.overRingBuffer rbuf _).HasReadOffset reader other ↔ _
  rw [hasReadOffset_overRingBuffer]
  by_cases same : other = rbuf
  · subst other
    simp [HasReadOffset, RingBuffer.hasThisReadOffset_removeReadOffset, ← and_assoc]
  · simp [same, HasReadOffset]

def isBound : Bool := pool.readBindingsMap.entries.any (fun entry => entry.2.contains rbuf)

theorem not_reads_of_not_isBound (free : pool.isBound rbuf = false) : ¬ pool.Reads reader rbuf := by
  intro reads
  unfold Reads readBindings at reads
  cases found : pool.readBindingsMap.find? reader with
  | none =>
    rw [found] at reads
    cases reads
  | some bound =>
    rw [found] at reads
    have stored := (AssocMap.mem_entries_iff _ _ _).mpr found
    have held : pool.isBound rbuf = true :=
      List.any_eq_true.mpr ⟨(reader, bound), stored, List.contains_iff_mem.mpr reads⟩
    rw [free] at held
    cases held

/-- The last owner of the buffer lets go of it. The pool keeps its own buffer. -/
def expire : RingBufferPool α :=
  if free : pool.isBound rbuf = false ∧ rbuf ≠ defaultId then
    { pool with
      ringBufferMap := pool.ringBufferMap.erase rbuf
      boundAlive := by
        intro reader other bound
        have different : other ≠ rbuf := by
          intro same
          subst other
          exact pool.not_reads_of_not_isBound reader rbuf free.1 bound
        unfold AssocMap.contains
        rw [AssocMap.find?_erase, if_neg different]
        exact pool.boundAlive reader other bound
      defaultAlive := by
        unfold AssocMap.contains
        rw [AssocMap.find?_erase, if_neg free.2.symm]
        exact pool.defaultAlive }
  else pool

inductive Rebinding where
  | createRingBuffer (id : String)
  | bindCallID (callId1 callId2 : String)
  | bindHalfDuplexOut (processId callId : String)
  | unBindCallID (callId1 callId2 : String)
  | unBindHalfDuplexOut (processId callId : String)
  | unBindAllHalfDuplexOut (callId : String)
  | unBindAll (callId : String)
  | expire (id : String)
  deriving DecidableEq, Repr

def rebind (pool : RingBufferPool α) : Rebinding → RingBufferPool α
  | .createRingBuffer id => pool.createRingBuffer id
  | .bindCallID callId1 callId2 => pool.bindCallID callId1 callId2
  | .bindHalfDuplexOut processId callId => pool.bindHalfDuplexOut processId callId
  | .unBindCallID callId1 callId2 => pool.unBindCallID callId1 callId2
  | .unBindHalfDuplexOut processId callId => pool.unBindHalfDuplexOut processId callId
  | .unBindAllHalfDuplexOut callId => pool.unBindAllHalfDuplexOut callId
  | .unBindAll callId => pool.unBindAll callId
  | .expire id => pool.expire id

theorem inhabited_bindOne {bindings : AssocMap String (List String)} {rbuf callId : String}
    (inhabited : ∀ callId bound, bindings.find? callId = some bound → bound ≠ [])
    (reader : String) (bound : List String)
    (stored : (bindOne bindings rbuf callId).find? reader = some bound) : bound ≠ [] := by
  unfold bindOne at stored
  rw [AssocMap.find?_modify] at stored
  split at stored
  · rcases Option.map_eq_some_iff.mp stored with ⟨before, _, same⟩
    rw [← same]
    exact List.ne_nil_of_mem (List.mem_insert_self ..)
  · rename_i different
    rw [AssocMap.find?_emplace, if_neg different] at stored
    exact inhabited reader bound stored

theorem inhabited_unbindOne {bindings : AssocMap String (List String)} {rbuf callId : String}
    (inhabited : ∀ callId bound, bindings.find? callId = some bound → bound ≠ [])
    (reader : String) (bound : List String)
    (stored : (unbindOne bindings rbuf callId).find? reader = some bound) : bound ≠ [] := by
  unfold unbindOne at stored
  split at stored
  · exact inhabited reader bound stored
  · rename_i before found
    split at stored
    · rw [AssocMap.find?_erase] at stored
      split at stored
      · cases stored
      · exact inhabited reader bound stored
    · rename_i remaining
      rw [AssocMap.find?_modify, found] at stored
      split at stored
      · exact Option.some.inj stored ▸ remaining
      · exact inhabited reader bound stored

/-- Bindings and offsets say the same, and every stored binding set holds something. -/
structure BindingsMatch (pool : RingBufferPool α) : Prop where
  offsets : ∀ callId rbuf, rbuf ∈ pool.readBindings callId ↔ pool.HasReadOffset callId rbuf
  inhabited : ∀ callId bound, pool.readBindingsMap.find? callId = some bound → bound ≠ []

namespace BindingsMatch

variable {pool}

private theorem addReader (together : pool.BindingsMatch) (rbuf callId : String) :
    (pool.addReaderToRingBuffer rbuf callId).BindingsMatch := by
  by_cases alive : pool.hasRingBuffer rbuf = true
  · constructor
    · intro reader other
      rw [hasReadOffset_addReader _ _ _ _ _ alive, ← together.offsets]
      exact reads_addReader pool reader rbuf callId other alive
    · unfold addReaderToRingBuffer
      rw [dif_pos alive]
      exact inhabited_bindOne together.inhabited
  · unfold addReaderToRingBuffer
    rw [dif_neg alive]
    exact together

theorem removeReader (together : pool.BindingsMatch) (rbuf callId : String) :
    (pool.removeReaderFromRingBuffer rbuf callId).BindingsMatch where
  offsets := by
    intro reader other
    rw [hasReadOffset_removeReader, ← together.offsets]
    exact reads_removeReader pool reader rbuf callId other
  inhabited := inhabited_unbindOne together.inhabited

private theorem foldl {change : RingBufferPool α → String → RingBufferPool α}
    (each : ∀ pool item, pool.BindingsMatch → (change pool item).BindingsMatch)
    (together : pool.BindingsMatch) (items : List String) :
    (items.foldl change pool).BindingsMatch := by
  induction items generalizing pool with
  | nil => exact together
  | cons item later ih => exact ih (each pool item together)

theorem createRingBuffer (together : pool.BindingsMatch) (id : String) :
    (pool.createRingBuffer id).BindingsMatch where
  offsets := by
    intro reader other
    refine (together.offsets reader other).trans ?_
    unfold HasReadOffset RingBufferPool.createRingBuffer
    rw [AssocMap.find?_emplace]
    by_cases same : other = id
    · subst other
      rw [if_pos rfl]
      cases found : pool.ringBufferMap.find? id with
      | none =>
        refine iff_of_false ?_ ?_
        · rintro ⟨ring, missing, _⟩
          cases missing
        · rintro ⟨ring, fresh, present⟩
          cases fresh
          cases present
      | some ring => rfl
    · rw [if_neg same]
  inhabited := together.inhabited

theorem expire (together : pool.BindingsMatch) (id : String) :
    (pool.expire id).BindingsMatch := by
  unfold RingBufferPool.expire
  split
  · rename_i free
    constructor
    · intro reader other
      refine (together.offsets reader other).trans ?_
      unfold HasReadOffset
      rw [AssocMap.find?_erase]
      by_cases same : other = id
      · subst other
        rw [if_pos rfl]
        refine iff_of_false ?_ ?_
        · intro present
          exact pool.not_reads_of_not_isBound reader id free.1
            ((together.offsets reader id).mpr present)
        · rintro ⟨ring, gone, _⟩
          cases gone
      · rw [if_neg same]
    · exact together.inhabited
  · exact together

theorem rebind (together : pool.BindingsMatch) (operation : Rebinding) :
    (pool.rebind operation).BindingsMatch := by
  cases operation with
  | createRingBuffer id => exact together.createRingBuffer id
  | bindCallID callId1 callId2 =>
    change (pool.bindCallID callId1 callId2).BindingsMatch
    unfold RingBufferPool.bindCallID
    split
    · exact (together.addReader callId1 callId2).addReader callId2 callId1
    · exact together
  | bindHalfDuplexOut processId callId =>
    change (pool.bindHalfDuplexOut processId callId).BindingsMatch
    unfold RingBufferPool.bindHalfDuplexOut
    split
    · exact together.addReader callId processId
    · exact together
  | unBindCallID callId1 callId2 =>
    change (pool.unBindCallID callId1 callId2).BindingsMatch
    unfold RingBufferPool.unBindCallID
    split
    · exact (together.removeReader callId1 callId2).removeReader callId2 callId1
    · exact together
  | unBindHalfDuplexOut processId callId =>
    change (pool.unBindHalfDuplexOut processId callId).BindingsMatch
    unfold RingBufferPool.unBindHalfDuplexOut
    split
    · exact together.removeReader callId processId
    · exact together
  | unBindAllHalfDuplexOut callId =>
    change (pool.unBindAllHalfDuplexOut callId).BindingsMatch
    unfold RingBufferPool.unBindAllHalfDuplexOut
    split
    · exact foldl (fun _ rbuf kept => kept.removeReader callId rbuf) together _
    · exact together
  | unBindAll callId =>
    change (pool.unBindAll callId).BindingsMatch
    unfold RingBufferPool.unBindAll
    split
    · exact foldl
        (fun _ rbuf kept => (kept.removeReader rbuf callId).removeReader callId rbuf) together _
    · exact together
  | expire id => exact together.expire id

private theorem create : (RingBufferPool.create : RingBufferPool α).BindingsMatch where
  offsets := by
    intro reader other
    refine iff_of_false List.not_mem_nil ?_
    rintro ⟨ring, found, present⟩
    unfold RingBufferPool.create at found
    rw [AssocMap.find?_emplace] at found
    split at found
    · cases found
      cases present
    · cases found
  inhabited := by
    intro reader bound stored
    cases stored

end BindingsMatch

/-- After any run of the pool's operations a buffer is in a reader's bindings
exactly if the reader has an offset in it, and no empty binding set is left. -/
theorem bindings_match_offsets (operations : List Rebinding) :
    let pool := Run.after rebind (create : RingBufferPool α) operations
    (∀ callId rbuf, rbuf ∈ pool.readBindings callId ↔ pool.HasReadOffset callId rbuf) ∧
      ∀ callId bound, pool.readBindingsMap.find? callId = some bound → bound ≠ [] := by
  intro pool
  have initially : (create : RingBufferPool α).BindingsMatch := BindingsMatch.create
  have always : Run.Always rebind BindingsMatch (create : RingBufferPool α) operations :=
    Run.always_of_preserved (fun _ operation together => together.rebind operation)
      initially operations
  have together : pool.BindingsMatch := always.last
  exact ⟨together.offsets, together.inhabited⟩

end RingBufferPool

end SipCore
