/-
What can still come out of a ring buffer: all of the slots, which is more than any
reader can get, and the frames one reader has not read yet. Two buffers that one reader
cannot tell apart stay so under every call that is made on both.
-/

import SipCore.Audio.RingBufferDelivery

namespace SipCore.RingBuffer

open Circular

variable {α : Type}

def Op.isPut : Op α → Bool
  | .put _ => true
  | _ => false

variable {op : Op α}

theorem apply_unwritten (ring : RingBuffer α) (reads : op.isPut = false) :
    (ring.apply op).endPos = ring.endPos ∧ (ring.apply op).buffer = ring.buffer := by
  cases op with
  | put frame => cases reads
  | get callId => exact get_unwritten ring callId
  | discard toDiscard callId => exact discard_unwritten ring toDiscard callId
  | createReadOffset callId => exact ⟨rfl, rfl⟩
  | removeReadOffset callId => exact ⟨rfl, rfl⟩
  | flush callId => exact ⟨rfl, rfl⟩
  | flushAll => exact ⟨rfl, rfl⟩

variable {frame : α}

def Written (property : α → Prop) (ring : RingBuffer α) : Prop :=
  ∀ frame, some frame ∈ ring.buffer → property frame

namespace Written

variable {property other : α → Prop} {ring : RingBuffer α}

theorem create (slots : Nat) : Written property (RingBuffer.create slots) := by
  intro frame member
  have empty := List.eq_of_mem_replicate member
  cases empty

section

variable (written : Written property ring)
include written

theorem mono (weaker : ∀ frame, property frame → other frame) : Written other ring :=
  fun frame member => weaker frame (written frame member)

theorem put (fits : property frame) : Written property (ring.putToBuffer frame) := by
  by_cases empty : ring.buffer.length = 0
  · have unchanged : ring.putToBuffer frame = ring := by
      simp only [putToBuffer, if_pos empty]
    rw [unchanged]
    exact written
  · rw [putToBuffer_eq_store ring empty]
    intro stored member
    rcases List.mem_or_eq_of_mem_set member with before | new
    · exact written stored before
    · rw [Option.some.inj new]
      exact fits

theorem apply (reads : op.isPut = false) : Written property (ring.apply op) := by
  intro frame member
  rw [(apply_unwritten ring reads).2] at member
  exact written frame member

theorem get {callId : String} (got : (ring.get callId).1 = some frame) : property frame := by
  unfold RingBuffer.get at got
  cases found : ring.readoffsets.find? callId with
  | none =>
    rw [found] at got
    cases got
  | some startPos =>
    rw [found] at got
    simp only at got
    split at got
    · cases got
    · split at got
      · cases got
      · apply written
        exact List.mem_of_getElem? (Option.join_eq_some_iff.mp got)

end

end Written

theorem Located.sameFor {slots : Nat} {ring changed : RingBuffer α} {puts : List α}
    {callId : String} {position : Nat} (located : Located slots ring puts callId position)
    (same : SameFor callId ring changed) : Located slots changed puts callId position :=
  { toBacked := located.toBacked.sameFor same
    positive := located.positive
    offset := same.offset.trans located.offset
    reached := located.reached
    near := located.near }

/-- Wherever the reader stands in the history of the buffer, the frames from there
on have the property. Nothing is asked while the reader does not exist. -/
structure Unread (slots : Nat) (property : α → Prop) (callId : String) (ring : RingBuffer α) :
    Prop where
  positive : 0 < slots
  history : ∃ puts, Backed slots ring puts ∧
    (ring.readoffsets.find? callId = none ∨ ∃ position,
      Located slots ring puts callId position ∧ ∀ frame ∈ puts.drop position, property frame)

namespace Unread

variable {slots : Nat} {property other : α → Prop} {callId : String} {ring : RingBuffer α}

theorem create (positive : 0 < slots) :
    Unread slots property callId (RingBuffer.create slots) :=
  ⟨positive, [], ⟨by simp [RingBuffer.create], Holds.empty slots⟩, Or.inl rfl⟩

theorem mono (unread : Unread slots property callId ring)
    (weaker : ∀ frame, property frame → other frame) : Unread slots other callId ring := by
  obtain ⟨positive, puts, backed, reader⟩ := unread
  refine ⟨positive, puts, backed, reader.imp_right ?_⟩
  rintro ⟨position, located, pending⟩
  exact ⟨position, located, fun frame member => weaker frame (pending frame member)⟩

theorem of_caughtUp (unread : Unread slots property callId ring)
    (caughtUp : ring.hasThisReadOffset callId = false ∨ ring.getLength callId = 0) :
    Unread slots other callId ring := by
  obtain ⟨positive, puts, backed, reader⟩ := unread
  refine ⟨positive, puts, backed, ?_⟩
  rcases reader with missing | ⟨position, located, pending⟩
  · exact .inl missing
  · rcases caughtUp with missing | nothing
    · left
      exact Option.isNone_iff_eq_none.mp (Option.isSome_eq_false_iff.mp missing)
    · right
      rw [located.getLength_eq] at nothing
      refine ⟨position, located, ?_⟩
      rw [List.drop_eq_nil_of_le (Nat.le_of_sub_eq_zero nothing)]
      intro frame member
      cases member

private theorem sameFor {changed : RingBuffer α} (unread : Unread slots property callId ring)
    (same : SameFor callId ring changed) : Unread slots property callId changed := by
  obtain ⟨positive, puts, backed, reader⟩ := unread
  refine ⟨positive, puts, backed.sameFor same, ?_⟩
  rcases reader with missing | ⟨position, located, pending⟩
  · exact .inl (same.offset.trans missing)
  · exact .inr ⟨position, located.sameFor same, pending⟩

private theorem advance {puts : List α} {position count : Nat}
    (located : Located slots ring puts callId position)
    (pending : ∀ frame ∈ puts.drop position, property frame)
    (within : position + count ≤ puts.length) :
    Unread slots property callId
      (ring.storeReadOffset ((position + count) % slots) callId) := by
  have moved := located.advance count within
  refine ⟨located.positive, puts, moved.toBacked, .inr ⟨position + count, moved, ?_⟩⟩
  intro frame member
  rw [← List.drop_drop] at member
  exact pending frame (List.mem_of_mem_drop member)

section

variable (unread : Unread slots property callId ring)
include unread

theorem atEnd (reads : op.isPut = false)
    (offset : (ring.apply op).readoffsets.find? callId = none ∨
      (ring.apply op).readoffsets.find? callId = some ring.endPos) :
    Unread slots property callId (ring.apply op) := by
  obtain ⟨positive, puts, backed, _⟩ := unread
  obtain ⟨endPos, buffer⟩ := apply_unwritten ring reads
  have still : Backed slots (ring.apply op) puts :=
    ⟨endPos.trans backed.endPos, by rw [buffer]; exact backed.cells⟩
  refine ⟨positive, puts, still, offset.imp_right ?_⟩
  intro placed
  rw [← endPos] at placed
  refine ⟨puts.length, still.located_at_end positive placed, ?_⟩
  rw [List.drop_length]
  intro frame member
  cases member

theorem put (fits : property frame) : Unread slots property callId (ring.putToBuffer frame) := by
  obtain ⟨positive, puts, backed, reader⟩ := unread
  refine ⟨positive, puts ++ [frame], backed.put positive frame, ?_⟩
  rcases reader with missing | ⟨position, located, pending⟩
  · left
    rw [backed.put_readoffsets positive]
    exact missing
  · right
    have near := located.near
    rcases Nat.lt_or_ge (puts.length + 1) (position + slots) with inside | full
    · refine ⟨position, located.put frame inside, ?_⟩
      rw [List.drop_append_of_le_length located.reached]
      intro later member
      rcases List.mem_append.mp member with before | new
      · exact pending later before
      · rw [List.mem_singleton.mp new]
        exact fits
    · -- a lap is lost, and with it everything that was pending
      refine ⟨position + slots, located.put_lapping frame (by omega), ?_⟩
      rw [List.drop_eq_nil_of_le (by simp; omega)]
      intro later member
      cases member

private theorem movedToEnd (reads : op.isPut = false)
    (placed : (ring.apply op).readoffsets.find? callId =
      (ring.readoffsets.find? callId).map (fun _ => ring.endPos)) :
    Unread slots property callId (ring.apply op) := by
  apply unread.atEnd reads
  rw [placed]
  cases ring.readoffsets.find? callId with
  | none => exact .inl rfl
  | some offset => exact .inr rfl

theorem apply (reads : op.isPut = false) : Unread slots property callId (ring.apply op) := by
  obtain ⟨puts, backed, reader⟩ := unread.history
  cases op with
  | put frame => cases reads
  | createReadOffset name =>
    by_cases same : callId = name
    · subst name
      rcases reader with missing | ⟨position, located, pending⟩
      · apply unread.atEnd reads
        right
        change (ring.readoffsets.emplace callId ring.endPos).find? callId = _
        rw [AssocMap.find?_emplace, if_pos rfl, missing]
        rfl
      · apply unread.sameFor
        refine ⟨rfl, rfl, ?_⟩
        change (ring.readoffsets.emplace callId ring.endPos).find? callId = _
        rw [AssocMap.find?_emplace, if_pos rfl, located.offset]
        rfl
    · exact unread.sameFor (createReadOffset_sameFor ring same)
  | removeReadOffset name =>
    by_cases same : callId = name
    · subst name
      apply unread.atEnd reads
      left
      exact (AssocMap.find?_erase _ _ _).trans (if_pos rfl)
    · exact unread.sameFor (removeReadOffset_sameFor ring same)
  | get name =>
    by_cases same : callId = name
    · subst name
      change Unread slots property callId (ring.get callId).2
      rcases reader with missing | ⟨position, located, pending⟩
      · have unchanged : ring.get callId = (none, ring) := by simp only [RingBuffer.get, missing]
        rw [unchanged]
        exact unread
      · rcases Nat.lt_or_ge position puts.length with ahead | caughtUp
        · rw [located.get_eq_some ahead]
          exact advance located pending ahead
        · rw [located.get_eq_none (Nat.le_antisymm located.reached caughtUp)]
          exact unread
    · exact unread.sameFor (get_sameFor ring same)
  | discard toDiscard name =>
    by_cases same : callId = name
    · subst name
      change Unread slots property callId (ring.discard toDiscard callId).2
      rcases reader with missing | ⟨position, located, pending⟩
      · have unchanged : ring.discard toDiscard callId = (0, ring) := by
          simp only [RingBuffer.discard, missing, ite_self]
        rw [unchanged]
        exact unread
      · rw [located.discard_eq toDiscard]
        apply advance located pending
        have reached := located.reached
        omega
    · exact unread.sameFor (discard_sameFor ring same toDiscard)
  | flush name =>
    by_cases same : callId = name
    · subst name
      exact unread.movedToEnd reads ((AssocMap.find?_modify _ _ _ _).trans (if_pos rfl))
    · exact unread.sameFor (storeReadOffset_sameFor ring same _)
  | flushAll =>
    exact unread.movedToEnd reads (AssocMap.find?_mapValues _ _ _)

theorem get (got : (ring.get callId).1 = some frame) : property frame := by
  obtain ⟨_, puts, _, reader⟩ := unread
  rcases reader with missing | ⟨position, located, pending⟩
  · have unchanged : ring.get callId = (none, ring) := by simp only [RingBuffer.get, missing]
    rw [unchanged] at got
    cases got
  · rcases Nat.lt_or_ge position puts.length with ahead | caughtUp
    · rw [located.get_eq_some ahead] at got
      apply pending
      rw [← Option.some.inj got, List.drop_eq_getElem_cons ahead]
      exact List.mem_cons_self
    · rw [located.get_eq_none (Nat.le_antisymm located.reached caughtUp)] at got
      cases got

end

end Unread

namespace SameFor

variable {callId : String} {ring changed last : RingBuffer α}

section

variable (same : SameFor callId ring changed)
include same

theorem symm : SameFor callId changed ring :=
  ⟨same.endPos.symm, same.buffer.symm, same.offset.symm⟩

theorem trans (next : SameFor callId changed last) : SameFor callId ring last :=
  ⟨next.endPos.trans same.endPos, next.buffer.trans same.buffer, next.offset.trans same.offset⟩

theorem storeReadOffset (offset : Nat) :
    SameFor callId (ring.storeReadOffset offset callId) (changed.storeReadOffset offset callId) := by
  refine ⟨same.endPos, same.buffer, ?_⟩
  change (changed.readoffsets.modify callId _).find? callId =
    (ring.readoffsets.modify callId _).find? callId
  rw [AssocMap.find?_modify, AssocMap.find?_modify, if_pos rfl, if_pos rfl, same.offset]

theorem put (frame : α) : SameFor callId (ring.putToBuffer frame) (changed.putToBuffer frame) := by
  by_cases empty : ring.buffer.length = 0
  · have alsoEmpty : changed.buffer.length = 0 := by
      rw [same.buffer]
      exact empty
    simp only [putToBuffer, if_pos empty, if_pos alsoEmpty]
    exact same
  · rw [putToBuffer_eq_store ring empty,
      putToBuffer_eq_store changed (by rw [same.buffer]; exact empty)]
    refine ⟨?_, ?_, same.offset⟩
    · simp only [store, same.endPos, same.buffer]
    · simp only [store, same.endPos, same.buffer]

theorem getLength : changed.getLength callId = ring.getLength callId := by
  simp only [RingBuffer.getLength, getReadOffset, same.endPos, same.buffer, same.offset]

theorem get :
    (changed.get callId).1 = (ring.get callId).1 ∧
      SameFor callId (ring.get callId).2 (changed.get callId).2 := by
  unfold RingBuffer.get
  rw [same.offset]
  cases ring.readoffsets.find? callId with
  | none => exact ⟨rfl, same⟩
  | some startPos =>
    simp only [same.endPos, same.buffer]
    split
    · exact ⟨rfl, same⟩
    · split
      · exact ⟨rfl, same⟩
      · exact ⟨rfl, same.storeReadOffset _⟩

private theorem discard (toDiscard : Nat) :
    SameFor callId (ring.discard toDiscard callId).2 (changed.discard toDiscard callId).2 := by
  unfold RingBuffer.discard
  rw [same.offset]
  simp only [same.endPos, same.buffer]
  split
  · exact same
  · cases ring.readoffsets.find? callId with
    | none => exact same
    | some offset => exact same.storeReadOffset _

end

private theorem of_others {operated both : RingBuffer α} (same : SameFor callId ring changed)
    (left : SameFor callId ring operated) (right : SameFor callId changed both) :
    SameFor callId operated both :=
  (left.symm.trans same).trans right

theorem apply (same : SameFor callId ring changed) (op : Op α) :
    SameFor callId (ring.apply op) (changed.apply op) := by
  cases op with
  | put frame => exact same.put frame
  | get name =>
    by_cases mine : callId = name
    · subst name
      exact same.get.2
    · exact same.of_others (get_sameFor ring mine) (get_sameFor changed mine)
  | discard toDiscard name =>
    by_cases mine : callId = name
    · subst name
      exact same.discard toDiscard
    · exact same.of_others (discard_sameFor ring mine toDiscard)
        (discard_sameFor changed mine toDiscard)
  | flush name =>
    by_cases mine : callId = name
    · subst name
      change SameFor callId (ring.storeReadOffset ring.endPos callId)
        (changed.storeReadOffset changed.endPos callId)
      rw [same.endPos]
      exact same.storeReadOffset ring.endPos
    · exact same.of_others (storeReadOffset_sameFor ring mine _)
        (storeReadOffset_sameFor changed mine _)
  | createReadOffset name =>
    refine ⟨same.endPos, same.buffer, ?_⟩
    change (changed.readoffsets.emplace name changed.endPos).find? callId =
      (ring.readoffsets.emplace name ring.endPos).find? callId
    rw [AssocMap.find?_emplace, AssocMap.find?_emplace, same.endPos]
    split
    · rename_i mine
      rw [← mine, same.offset]
    · exact same.offset
  | removeReadOffset name =>
    refine ⟨same.endPos, same.buffer, ?_⟩
    change (changed.readoffsets.erase name).find? callId =
      (ring.readoffsets.erase name).find? callId
    rw [AssocMap.find?_erase, AssocMap.find?_erase, same.offset]
  | flushAll =>
    refine ⟨same.endPos, same.buffer, ?_⟩
    change (changed.readoffsets.mapValues _).find? callId =
      (ring.readoffsets.mapValues _).find? callId
    rw [AssocMap.find?_mapValues, AssocMap.find?_mapValues, same.offset, same.endPos]

end SameFor

/-! ### A reader among others -/

def Op.concerns (callId : String) : Op α → Bool
  | .createReadOffset name => name = callId
  | .removeReadOffset name => name = callId
  | .put _ => true
  | .get name => name = callId
  | .discard _ name => name = callId
  | .flush name => name = callId
  | .flushAll => true

def returned (callId : String) (ring : RingBuffer α) : List (Op α) → List (Option α)
  | [] => []
  | .get name :: rest =>
    if name = callId then (ring.get callId).1 :: returned callId (ring.get callId).2 rest
    else returned callId (ring.get name).2 rest
  | op :: rest => returned callId (ring.apply op) rest

section

variable {callId : String}

theorem apply_sameFor (ring : RingBuffer α) {op : Op α} (foreign : op.concerns callId = false) :
    SameFor callId ring (ring.apply op) := by
  cases op with
  | put frame => exact nomatch foreign
  | flushAll => exact nomatch foreign
  | createReadOffset name =>
    exact createReadOffset_sameFor ring (Ne.symm (of_decide_eq_false foreign))
  | removeReadOffset name =>
    exact removeReadOffset_sameFor ring (Ne.symm (of_decide_eq_false foreign))
  | get name => exact get_sameFor ring (Ne.symm (of_decide_eq_false foreign))
  | discard toDiscard name =>
    exact discard_sameFor ring (Ne.symm (of_decide_eq_false foreign)) toDiscard
  | flush name => exact storeReadOffset_sameFor ring (Ne.symm (of_decide_eq_false foreign)) _

theorem returned_foreign (ring : RingBuffer α) {op : Op α} (foreign : op.concerns callId = false)
    (rest : List (Op α)) :
    returned callId ring (op :: rest) = returned callId (ring.apply op) rest := by
  cases op with
  | get name => exact if_neg (of_decide_eq_false foreign)
  | _ => rfl

private theorem returned_filter {ring changed : RingBuffer α} (same : SameFor callId ring changed)
    (ops : List (Op α)) :
    returned callId changed (ops.filter (Op.concerns callId)) = returned callId ring ops ∧
      SameFor callId (Run.after apply ring ops)
        (Run.after apply changed (ops.filter (Op.concerns callId))) := by
  induction ops generalizing ring changed with
  | nil => exact ⟨rfl, same⟩
  | cons op rest ih =>
    cases own : op.concerns callId with
    | false =>
      rw [List.filter_cons_of_neg (Bool.eq_false_iff.mp own), returned_foreign ring own]
      exact ih ((apply_sameFor ring own).symm.trans same)
    | true =>
      rw [List.filter_cons_of_pos own]
      obtain ⟨given, after⟩ := ih (same.apply op)
      refine ⟨?_, after⟩
      cases op with
      | get name =>
        have mine := of_decide_eq_true own
        subst name
        unfold returned
        rw [if_pos rfl, if_pos rfl, same.get.1]
        exact congrArg _ given
      | _ => exact given

end

/-- What a reader gets, and what it can tell of the buffer afterwards, is as if no other
reader had ever been there. -/
theorem reader_unaffected_by_others (ring : RingBuffer α) (callId : String)
    (ops : List (Op α)) :
    returned callId ring (ops.filter (Op.concerns callId)) = returned callId ring ops ∧
      SameFor callId (Run.after apply ring ops)
        (Run.after apply ring (ops.filter (Op.concerns callId))) :=
  returned_filter (SameFor.refl callId ring) ops

end SipCore.RingBuffer
