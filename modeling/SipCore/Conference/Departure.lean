/-
A participant leaves. The conference forgets it, its call takes the microphone and the
speaker back if its own capture is on, and the manager then unbinds it from everything
it reads. That unbinding finds its readers only among those it reads itself.
-/

import SipCore.Conference.MutedParticipants

namespace SipCore.Room

open RingBufferPool (defaultId)

variable {α : Type}

def takesAudioBack (call : SIPCall) : Bool :=
  call.rtpStreams.any (fun stream => stream.mediaAttribute.type = .audio) &&
    call.rtpStreams.any (fun stream =>
      stream.mediaAttribute.type = .audio && !stream.mediaAttribute.muted)

def unmuteVideo (stream : RtpStream) : RtpStream :=
  if stream.mediaAttribute.type = .video then
    { stream with mediaAttribute := { stream.mediaAttribute with muted := false } }
  else stream

def exitConference (room : Room α) (callId : String) : Room α :=
  match room.calls.find? callId with
  | none => room
  | some call =>
    { room with
      pool :=
        if takesAudioBack call then (room.pool.bindCallID callId defaultId).flush defaultId
        else room.pool
      calls := room.calls.modify callId (fun call =>
        { call with conf := none, rtpStreams := call.rtpStreams.map unmuteVideo }) }

def clearFilters (pool : RingBufferPool α) (participantId : String) : RingBufferPool α :=
  (pool.setLocalPlaybackMuted participantId false).setMicMuted participantId false

def eraseParticipant (room : Room α) (participantId : String) : Room α :=
  { room with
    conference :=
      { room.conference with
        participants := room.conference.participants.filter (· ≠ participantId) } }

def removeParticipant (room : Room α) (participantId : String) : Room α :=
  let cleared := { room with pool := clearFilters room.pool participantId }
  if participantId ∉ room.conference.participants then cleared
  else
    let erased := cleared.eraseParticipant participantId
    if room.hasCall participantId then
      (erased.setMuted participantId false).exitConference participantId
    else erased

def destroy (room : Room α) : Room α :=
  room.conference.participants.foldl exitConference (room.overParticipants clearFilters)

end SipCore.Room

namespace SipCore.Manager

open RingBufferPool (defaultId)

variable {α : Type}

/-- What decides how a conference ends: the call in front, whether the account of
the last participant keeps conferences of one, and whether a hold succeeds. -/
structure Surroundings where
  currentCallId : String
  isRendezVous : Bool
  holdSucceeds : Bool

def removeAudio (room : Room α) (callId : String) : Room α :=
  { room with pool := room.pool.unBindAll callId }

def goesOn (surroundings : Surroundings) (room : Room α) (last : String) : Bool :=
  match room.calls.find? last with
  | none => false
  | some call => call.account.isNone || surroundings.isRendezVous

def holdsLast (surroundings : Surroundings) (room : Room α) (last : String) : Bool :=
  room.hasCall last && surroundings.currentCallId ≠ room.conference.id && surroundings.holdSucceeds

/-- With one participant left the conference is over, unless it goes on as it is. -/
def processRemainingParticipants (surroundings : Surroundings) (room : Room α) : Room α :=
  match room.conference.participants with
  | [] => room.destroy
  | [last] =>
    if goesOn surroundings room last then room
    else if holdsLast surroundings room last then (removeAudio room last).destroy
    else room.destroy
  | participants =>
    { room with
      pool := (participants.foldl RingBufferPool.flush room.pool).flush defaultId }

def removeParticipant (surroundings : Surroundings) (room : Room α) (callId : String) : Room α :=
  match (room.calls.find? callId).bind SIPCall.conf with
  | none => room
  | some _ =>
    processRemainingParticipants surroundings
      (removeAudio (room.removeParticipant callId) callId)

/-- What `bindCallToConference` does before the call joins the other conference. -/
def leaveForConference (surroundings : Surroundings) (room : Room α) (callId : String) : Room α :=
  let left := removeParticipant surroundings room callId
  { left with pool := (left.pool.unBindAll callId).unBindHalfDuplexOut defaultId callId }

end SipCore.Manager

/-! ### What becomes of the bindings -/

namespace SipCore.Room

open RingBufferPool (defaultId)

variable {α : Type}

def ReturnsToHost (room : Room α) (callId : String) : Prop :=
  (room.calls.find? callId).any takesAudioBack = true ∧ room.pool.hasRingBuffer callId = true

instance (room : Room α) (callId : String) : Decidable (room.ReturnsToHost callId) :=
  inferInstanceAs (Decidable (_ ∧ _))

theorem exitConference_conference (room : Room α) (callId : String) :
    (room.exitConference callId).conference = room.conference := by
  unfold exitConference
  split <;> rfl

theorem exitConference_hasRingBuffer (room : Room α) (callId other : String) :
    (room.exitConference callId).pool.hasRingBuffer other = room.pool.hasRingBuffer other := by
  unfold exitConference
  split
  · rfl
  · split
    · rw [RingBufferPool.hasRingBuffer_flush, RingBufferPool.hasRingBuffer_bindCallID]
    · rfl

theorem exitConference_find? (room : Room α) (callId other : String) (different : other ≠ callId) :
    (room.exitConference callId).calls.find? other = room.calls.find? other := by
  unfold exitConference
  split
  · rfl
  · rw [AssocMap.find?_modify, if_neg different]

theorem exitConference_reads (room : Room α) (callId reader other : String) :
    (room.exitConference callId).pool.Reads reader other ↔
      room.pool.Reads reader other ∨ room.ReturnsToHost callId ∧
        (reader = defaultId ∧ other = callId ∨ reader = callId ∧ other = defaultId) := by
  unfold exitConference ReturnsToHost
  cases room.calls.find? callId with
  | none => simp
  | some call =>
    simp only [Option.any_some]
    cases takesAudioBack call with
    | false => simp
    | true =>
      simp only [if_true, RingBufferPool.reads_flush, RingBufferPool.reads_bindCallID, true_and]
      have host : room.pool.hasRingBuffer defaultId = true := room.pool.defaultAlive
      rw [and_iff_left host]

def remaining (room : Room α) (callId : String) : List String :=
  room.conference.participants.filter (· ≠ callId)

theorem ne_of_mem_remaining {room : Room α} {callId participant : String}
    (member : participant ∈ room.remaining callId) : participant ≠ callId :=
  of_decide_eq_true (List.mem_filter.mp member).2

theorem remaining_of_notMem {room : Room α} {callId : String}
    (apart : callId ∉ room.conference.participants) :
    room.remaining callId = room.conference.participants := by
  apply List.filter_eq_self.mpr
  intro participant member
  exact decide_eq_true (fun same => apart (same ▸ member))

/-- All that matters of the conference's side: who stays, and which bindings the
call takes up again. -/
structure LeavesConference (callId : String) (before after : Room α) : Prop where
  participants : after.conference.participants = before.remaining callId
  id : after.conference.id = before.conference.id
  calls : ∀ other, other ≠ callId → after.calls.find? other = before.calls.find? other
  alive : ∀ other, after.pool.hasRingBuffer other = before.pool.hasRingBuffer other
  reads : ∀ reader other, after.pool.Reads reader other ↔
    before.pool.Reads reader other ∨ before.ReturnsToHost callId ∧
      (reader = defaultId ∧ other = callId ∨ reader = callId ∧ other = defaultId)

theorem removeParticipant_leaves (room : Room α) (callId : String)
    (member : callId ∈ room.conference.participants) :
    LeavesConference callId room (room.removeParticipant callId) := by
  unfold removeParticipant
  simp only [not_not.mpr member, if_false]
  cases present : room.hasCall callId with
  | true =>
    simp only [if_true]
    constructor
    · rw [exitConference_conference]
      rfl
    · rw [exitConference_conference]
      rfl
    · intro other different
      rw [exitConference_find? _ _ _ different]
      rfl
    · intro other
      rw [exitConference_hasRingBuffer]
      rfl
    · intro reader other
      rw [exitConference_reads]
      exact Iff.rfl
  | false =>
    have absent : room.calls.find? callId = none :=
      Option.isSome_eq_false_iff.mp present |> Option.isNone_iff_eq_none.mp
    refine ⟨rfl, rfl, fun _ _ => rfl, fun _ => rfl, ?_⟩
    intro reader other
    have stays : ¬ room.ReturnsToHost callId := by
      unfold ReturnsToHost
      rw [absent]
      simp
    rw [or_iff_left (fun both => stays both.1)]
    exact Iff.rfl

private theorem destroy_conference (room : Room α) : room.destroy.conference = room.conference := by
  have kept := Run.after_keeps exitConference (fun room : Room α => room.conference)
    exitConference_conference (room.overParticipants clearFilters) room.conference.participants
  exact kept

private theorem destroy_hasRingBuffer (room : Room α) (id : String) :
    room.destroy.pool.hasRingBuffer id = room.pool.hasRingBuffer id := by
  have exits := Run.after_keeps exitConference (fun room : Room α => room.pool.hasRingBuffer id)
    (fun state callId => exitConference_hasRingBuffer state callId id)
    (room.overParticipants clearFilters) room.conference.participants
  have cleared := Run.after_keeps clearFilters
    (fun pool : RingBufferPool α => pool.hasRingBuffer id) (fun _ _ => rfl)
    room.pool room.conference.participants
  exact exits.trans cleared

theorem destroy_reads (room : Room α) (callId reader other : String)
    (apart : callId ∉ room.conference.participants) (notHost : callId ≠ defaultId)
    (concerned : reader = callId ∨ other = callId) :
    room.destroy.pool.Reads reader other ↔ room.pool.Reads reader other := by
  have exits : ∀ (items : List String) (start : Room α), callId ∉ items →
      ((items.foldl exitConference start).pool.Reads reader other ↔
        start.pool.Reads reader other) := by
    intro items
    induction items with
    | nil => exact fun _ _ => Iff.rfl
    | cons item later ih =>
      intro start absent
      rw [List.mem_cons, not_or] at absent
      rw [List.foldl_cons, ih _ absent.2, exitConference_reads]
      apply or_iff_left
      rintro ⟨_, ⟨host, own⟩ | ⟨own, host⟩⟩
      · rcases concerned with same | same
        · exact notHost (same.symm.trans host)
        · exact absent.1 (same.symm.trans own)
      · rcases concerned with same | same
        · exact absent.1 (same.symm.trans own)
        · exact notHost (same.symm.trans host)
  have cleared : (room.overParticipants clearFilters).pool.readBindingsMap =
      room.pool.readBindingsMap := by
    apply Run.after_keeps clearFilters RingBufferPool.readBindingsMap
    intro pool item
    rfl
  unfold destroy
  rw [exits _ _ apart]
  unfold RingBufferPool.Reads RingBufferPool.readBindings
  rw [cleared]

end SipCore.Room

namespace SipCore.Manager

open RingBufferPool (defaultId)

variable {α : Type}

def EndsOnHold (surroundings : Surroundings) (room : Room α) (callId last : String) : Prop :=
  room.remaining callId = [last] ∧ goesOn surroundings room last = false ∧
    holdsLast surroundings room last = true

instance (surroundings : Surroundings) (room : Room α) (callId last : String) :
    Decidable (EndsOnHold surroundings room callId last) :=
  inferInstanceAs (Decidable (_ ∧ _ ∧ _))

theorem EndsOnHold.ne {surroundings : Surroundings} {room : Room α} {callId last : String}
    (held : EndsOnHold surroundings room callId last) : last ≠ callId := by
  have member : last ∈ room.remaining callId := held.1 ▸ List.mem_singleton_self last
  exact Room.ne_of_mem_remaining member

theorem removeAudio_reads (room : Room α) (callId reader other : String) :
    (removeAudio room callId).pool.Reads reader other ↔
      room.pool.Reads reader other ∧ (room.pool.hasRingBuffer callId = true →
        reader ≠ callId ∧ ¬ (other = callId ∧ room.pool.Reads callId reader)) := by
  unfold removeAudio
  cases alive : room.pool.hasRingBuffer callId with
  | true =>
    simp only [RingBufferPool.reads_unBindAll _ _ _ _ alive, forall_const]
  | false =>
    have kept : room.pool.unBindAll callId = room.pool := by
      unfold RingBufferPool.unBindAll
      rw [alive]
      rfl
    simp [kept]

private theorem flushAll_reads (pool : RingBufferPool α) (participants : List String)
    (reader other : String) :
    (participants.foldl RingBufferPool.flush pool).Reads reader other ↔ pool.Reads reader other := by
  induction participants generalizing pool with
  | nil => exact Iff.rfl
  | cons participant later ih => rw [List.foldl_cons, ih, RingBufferPool.reads_flush]

section

variable {surroundings : Surroundings} {room : Room α} {callId : String}

theorem EndsOnHold.participants {last : String} (held : EndsOnHold surroundings room callId last)
    (apart : callId ∉ room.conference.participants) : room.conference.participants = [last] :=
  (Room.remaining_of_notMem apart).symm.trans held.1

def OutlastsHold (surroundings : Surroundings) (room : Room α) (callId reader other : String) :
    Prop :=
  ∀ last, EndsOnHold surroundings room callId last → room.pool.hasRingBuffer last = true →
    reader ≠ last ∧ ¬ (other = last ∧ room.pool.Reads last reader)

theorem outlastsHold_of_nobody {reader other : String}
    (nobody : ∀ last, ¬ EndsOnHold surroundings room callId last) :
    OutlastsHold surroundings room callId reader other :=
  fun last held => absurd held (nobody last)

private theorem outlastsHold_iff {reader other last : String}
    (held : EndsOnHold surroundings room callId last) :
    OutlastsHold surroundings room callId reader other ↔
      (room.pool.hasRingBuffer last = true →
        reader ≠ last ∧ ¬ (other = last ∧ room.pool.Reads last reader)) := by
  constructor
  · intro outlasts
    exact outlasts last held
  · intro unbound another otherHeld
    have same : another = last := by
      have single := otherHeld.1
      rw [held.1] at single
      exact (List.cons.inj single).1.symm
    rw [same]
    exact unbound

theorem processLast_reads {last reader other : String}
    (participants : room.conference.participants = [last])
    (apart : callId ∉ room.conference.participants) (notHost : callId ≠ defaultId)
    (concerned : reader = callId ∨ other = callId) :
    (processRemainingParticipants surroundings room).pool.Reads reader other ↔
      room.pool.Reads reader other ∧ OutlastsHold surroundings room callId reader other := by
  have onlyLast : ∀ another, EndsOnHold surroundings room callId another → another = last := by
    intro another held
    have single := held.participants apart
    rw [participants] at single
    exact (List.cons.inj single).1.symm
  unfold processRemainingParticipants
  rw [participants]
  simp only
  cases stays : goesOn surroundings room last with
  | true =>
    apply (and_iff_left _).symm
    intro another held
    have ends := held.2.1
    rw [onlyLast another held, stays] at ends
    cases ends
  | false =>
    simp only [Bool.false_eq_true, if_false]
    cases hold : holdsLast surroundings room last with
    | true =>
      have held : EndsOnHold surroundings room callId last :=
        ⟨(Room.remaining_of_notMem apart).trans participants, stays, hold⟩
      simp only [if_true]
      rw [Room.destroy_reads (removeAudio room last) callId reader other apart notHost concerned,
        removeAudio_reads, outlastsHold_iff held]
    | false =>
      simp only [Bool.false_eq_true, if_false]
      rw [Room.destroy_reads room callId reader other apart notHost concerned]
      apply (and_iff_left _).symm
      intro another held
      have holds := held.2.2
      rw [onlyLast another held, hold] at holds
      cases holds

theorem processRemainingParticipants_reads {reader other : String}
    (apart : callId ∉ room.conference.participants) (notHost : callId ≠ defaultId)
    (concerned : reader = callId ∨ other = callId) :
    (processRemainingParticipants surroundings room).pool.Reads reader other ↔
      room.pool.Reads reader other ∧ OutlastsHold surroundings room callId reader other := by
  -- unless exactly one is left, nobody is put on hold
  have unheld (several : ∀ last, room.conference.participants ≠ [last]) :
      OutlastsHold surroundings room callId reader other :=
    outlastsHold_of_nobody (fun last held => several last (held.participants apart))
  cases participants : room.conference.participants with
  | nil =>
    unfold processRemainingParticipants
    rw [participants]
    rw [Room.destroy_reads room callId reader other apart notHost concerned]
    exact (and_iff_left (unheld (by simp [participants]))).symm
  | cons first others =>
    cases others with
    | nil => exact processLast_reads participants apart notHost concerned
    | cons second rest =>
      unfold processRemainingParticipants
      rw [participants]
      simp only [RingBufferPool.reads_flush, flushAll_reads]
      exact (and_iff_left (unheld (by simp [participants]))).symm

end

theorem processRemainingParticipants_kept (surroundings : Surroundings) (room : Room α) :
    (processRemainingParticipants surroundings room).conference = room.conference ∧
      ∀ id, (processRemainingParticipants surroundings room).pool.hasRingBuffer id =
        room.pool.hasRingBuffer id := by
  have destroyed (ended : Room α) (conference : ended.conference = room.conference)
      (alive : ∀ id, ended.pool.hasRingBuffer id = room.pool.hasRingBuffer id) :
      ended.destroy.conference = room.conference ∧
        ∀ id, ended.destroy.pool.hasRingBuffer id = room.pool.hasRingBuffer id :=
    ⟨(Room.destroy_conference ended).trans conference,
      fun id => (Room.destroy_hasRingBuffer ended id).trans (alive id)⟩
  unfold processRemainingParticipants
  split
  · exact destroyed room rfl (fun _ => rfl)
  · split
    · exact ⟨rfl, fun _ => rfl⟩
    · split
      · exact destroyed _ rfl (fun id => RingBufferPool.hasRingBuffer_unBindAll ..)
      · exact destroyed room rfl (fun _ => rfl)
  · refine ⟨rfl, fun id => ?_⟩
    rw [RingBufferPool.hasRingBuffer_flush]
    apply Run.after_keeps RingBufferPool.flush
      (fun pool : RingBufferPool α => pool.hasRingBuffer id)
    intro pool callId
    exact RingBufferPool.hasRingBuffer_flush ..

/-- Bindings towards and from a call that has left, in terms of those before. -/
structure HasLeft (surroundings : Surroundings) (callId : String) (before after : Room α) :
    Prop where
  participants : after.conference.participants = before.remaining callId
  alive : ∀ id, after.pool.hasRingBuffer id = before.pool.hasRingBuffer id
  readers : ∀ reader, reader ≠ callId →
    (after.pool.Reads reader callId ↔
      before.pool.Reads reader callId ∧ ¬ before.pool.Reads callId reader ∧
        ¬ (reader = defaultId ∧ before.ReturnsToHost callId) ∧
        ¬ (EndsOnHold surroundings before callId reader ∧ before.pool.hasRingBuffer reader = true))
  reads : ∀ other, after.pool.Reads callId other ↔
    before.pool.Reads callId other ∧ before.pool.hasRingBuffer callId = false

section

variable {surroundings : Surroundings} {room left : Room α} {callId : String}

section

variable (leaves : Room.LeavesConference callId room left)
include leaves

theorem removeAudio_readers (notHost : callId ≠ defaultId) (reader : String)
    (different : reader ≠ callId) :
    (removeAudio left callId).pool.Reads reader callId ↔
      room.pool.Reads reader callId ∧ ¬ room.pool.Reads callId reader ∧
        ¬ (reader = defaultId ∧ room.ReturnsToHost callId) := by
  rw [removeAudio_reads, leaves.reads, leaves.reads, leaves.alive]
  have bound : room.pool.Reads reader callId → room.pool.hasRingBuffer callId = true :=
    fun reads => reads.alive
  have returned : room.ReturnsToHost callId → room.pool.hasRingBuffer callId = true :=
    fun returns => returns.2
  grind

private theorem removeAudio_ownReads (other : String) :
    (removeAudio left callId).pool.Reads callId other ↔
      room.pool.Reads callId other ∧ room.pool.hasRingBuffer callId = false := by
  rw [removeAudio_reads, leaves.reads, leaves.alive]
  have returned : room.ReturnsToHost callId → room.pool.hasRingBuffer callId = true :=
    fun returns => returns.2
  cases alive : room.pool.hasRingBuffer callId with
  | true => simp
  | false =>
    have stays : ¬ room.ReturnsToHost callId := fun returns => by
      have contradiction := returned returns
      rw [alive] at contradiction
      cases contradiction
    simp [stays]

private theorem endsOnHold_iff (last : String) :
    EndsOnHold surroundings (removeAudio left callId) callId last ↔
      EndsOnHold surroundings room callId last := by
  have same : (removeAudio left callId).remaining callId = room.remaining callId := by
    change left.conference.participants.filter _ = _
    rw [leaves.participants]
    unfold Room.remaining
    rw [List.filter_filter]
    simp only [Bool.and_self]
  unfold EndsOnHold
  rw [same]
  apply and_congr_right
  intro single
  have member : last ∈ room.remaining callId := single ▸ List.mem_singleton_self last
  have different := Room.ne_of_mem_remaining member
  have found : (removeAudio left callId).calls.find? last = room.calls.find? last :=
    leaves.calls last different
  have confId : (removeAudio left callId).conference.id = room.conference.id := leaves.id
  unfold goesOn holdsLast Room.hasCall AssocMap.contains
  rw [found, confId]

private theorem removeAudio_hasRingBuffer (id : String) :
    (removeAudio left callId).pool.hasRingBuffer id = room.pool.hasRingBuffer id :=
  (RingBufferPool.hasRingBuffer_unBindAll ..).trans (leaves.alive id)

theorem notMem_of_leaves : callId ∉ (removeAudio left callId).conference.participants := by
  change callId ∉ left.conference.participants
  rw [leaves.participants]
  intro present
  exact Room.ne_of_mem_remaining present rfl

private theorem processRemaining_hasLeft (notHost : callId ≠ defaultId) :
    HasLeft surroundings callId room
      (processRemainingParticipants surroundings (removeAudio left callId)) := by
  have kept := processRemainingParticipants_kept surroundings (removeAudio left callId)
  have apart := notMem_of_leaves leaves
  constructor
  · rw [kept.1]
    exact leaves.participants
  · intro id
    rw [kept.2, removeAudio_hasRingBuffer leaves]
  · intro reader different
    rw [processRemainingParticipants_reads apart notHost (Or.inr rfl),
      removeAudio_readers leaves notHost reader different]
    unfold OutlastsHold
    simp only [endsOnHold_iff leaves, removeAudio_hasRingBuffer leaves]
    constructor
    · intro ⟨⟨reads, oneWay, notBack⟩, unheld⟩
      exact ⟨reads, oneWay, notBack, fun held => (unheld reader held.1 held.2).1 rfl⟩
    · intro ⟨reads, oneWay, notBack, unheld⟩
      refine ⟨⟨reads, oneWay, notBack⟩, ?_⟩
      intro last held lastAlive
      constructor
      · intro same
        exact unheld ⟨same ▸ held, same ▸ lastAlive⟩
      · exact fun both => held.ne both.1.symm
  · intro other
    rw [processRemainingParticipants_reads apart notHost (Or.inl rfl),
      removeAudio_ownReads leaves other]
    apply and_iff_left_of_imp
    intro ⟨_, dead⟩ last held _
    constructor
    · exact held.ne.symm
    · intro ⟨_, reads⟩
      -- nobody can read a buffer that is gone
      have gone := ((removeAudio_readers leaves notHost last held.ne).mp reads).1.alive
      rw [dead] at gone
      cases gone

end

private theorem removeParticipant_hasLeft (member : callId ∈ room.conference.participants)
    (inConference : (room.calls.find? callId).bind SIPCall.conf ≠ none)
    (notHost : callId ≠ defaultId) :
    HasLeft surroundings callId room (removeParticipant surroundings room callId) := by
  unfold removeParticipant
  split
  · rename_i absent
    exact absurd absent inConference
  · exact processRemaining_hasLeft (Room.removeParticipant_leaves room callId member) notHost

end

/-! ### A clean departure -/

/-- Nobody left in the conference, the host included, reads the call, and the
call reads nobody left in it. -/
def Departed (after : Room α) (callId : String) : Prop :=
  (∀ listener ∈ after.listeners, ¬ after.pool.Reads listener callId) ∧
    ∀ participant ∈ after.conference.participants, ¬ after.pool.Reads callId participant

instance (after : Room α) (callId : String) : Decidable (Departed after callId) :=
  inferInstanceAs (Decidable (_ ∧ _))

/-- Each of the readers is read in turn, or taken away by other means: the host
because the call returns to it first, a last participant because it is put on hold. -/
def LetGo (surroundings : Surroundings) (room : Room α) (callId : String)
    (readers : List String) : Prop :=
  (∀ reader ∈ readers, room.pool.Reads reader callId →
    room.pool.Reads callId reader ∨ reader = defaultId ∧ room.ReturnsToHost callId ∨
      EndsOnHold surroundings room callId reader ∧ room.pool.hasRingBuffer reader = true) ∧
    (room.pool.hasRingBuffer callId = true ∨
      ∀ participant ∈ room.remaining callId, ¬ room.pool.Reads callId participant)

instance (surroundings : Surroundings) (room : Room α) (callId : String) (readers : List String) :
    Decidable (LetGo surroundings room callId readers) :=
  inferInstanceAs (Decidable (_ ∧ _))

theorem HasLeft.unread_iff {surroundings : Surroundings} {room after : Room α} {callId : String}
    (left : HasLeft surroundings callId room after) (readers : List String)
    (others : ∀ reader ∈ readers, reader ≠ callId) :
    ((∀ reader ∈ readers, ¬ after.pool.Reads reader callId) ∧
        ∀ participant ∈ room.remaining callId, ¬ after.pool.Reads callId participant) ↔
      LetGo surroundings room callId readers := by
  apply and_congr
  · apply forall_congr'
    intro reader
    apply forall_congr'
    intro member
    rw [left.readers reader (others reader member)]
    tauto
  · simp only [left.reads]
    cases room.pool.hasRingBuffer callId with
    | true => simp
    | false => simp

theorem leaveForConference_readers {surroundings : Surroundings} {room : Room α} {callId : String}
    (left : HasLeft surroundings callId room (removeParticipant surroundings room callId))
    (reader : String) (different : reader ≠ callId) :
    (leaveForConference surroundings room callId).pool.Reads reader callId ↔
      (removeParticipant surroundings room callId).pool.Reads reader callId ∧
        reader ≠ defaultId := by
  unfold leaveForConference
  rw [RingBufferPool.reads_unBindHalfDuplexOut]
  apply and_congr
  · change (removeAudio (removeParticipant surroundings room callId) callId).pool.Reads _ _ ↔ _
    rw [removeAudio_reads]
    apply and_iff_left_of_imp
    intro reads _
    refine ⟨different, ?_⟩
    rintro ⟨_, own⟩
    have alive := ((left.readers reader different).mp reads).1.alive
    rw [((left.reads reader).mp own).2] at alive
    cases alive
  · simp

private theorem leaveForConference_ownReads {surroundings : Surroundings} {room : Room α}
    {callId : String}
    (left : HasLeft surroundings callId room (removeParticipant surroundings room callId))
    (notHost : callId ≠ defaultId) (other : String) :
    (leaveForConference surroundings room callId).pool.Reads callId other ↔
      (removeParticipant surroundings room callId).pool.Reads callId other := by
  unfold leaveForConference
  rw [RingBufferPool.reads_unBindHalfDuplexOut, and_iff_left (fun both => notHost both.1)]
  change (removeAudio (removeParticipant surroundings room callId) callId).pool.Reads _ _ ↔ _
  rw [removeAudio_reads]
  apply and_iff_left_of_imp
  intro reads alive
  rw [left.alive, ((left.reads other).mp reads).2] at alive
  cases alive

/-- A participant leaves cleanly exactly if every remaining reader of its buffer,
the host included, is let go. On the way to another conference the host's reading
is removed by hand, so there it is the remaining participants alone. -/
theorem removeParticipant_departed_iff (surroundings : Surroundings) (room : Room α)
    (callId : String) (member : callId ∈ room.conference.participants)
    (inConference : (room.calls.find? callId).bind SIPCall.conf ≠ none)
    (hostApart : defaultId ∉ room.conference.participants) :
    (Departed (removeParticipant surroundings room callId) callId ↔
      LetGo surroundings room callId (defaultId :: room.remaining callId)) ∧
    (Departed (leaveForConference surroundings room callId) callId ↔
      LetGo surroundings room callId (room.remaining callId)) := by
  have notHost : callId ≠ defaultId := fun same => hostApart (same ▸ member)
  have left : HasLeft surroundings callId room (removeParticipant surroundings room callId) :=
    removeParticipant_hasLeft member inConference notHost
  have others : ∀ reader ∈ room.remaining callId, reader ≠ callId :=
    fun _ present => Room.ne_of_mem_remaining present
  constructor
  · unfold Departed Room.listeners
    rw [left.participants]
    apply left.unread_iff
    intro reader present
    rcases List.mem_cons.mp present with host | remains
    · exact host ▸ notHost.symm
    · exact others reader remains
  · rw [← left.unread_iff (room.remaining callId) others]
    unfold Departed Room.listeners
    have participants : (leaveForConference surroundings room callId).conference.participants =
        room.remaining callId := left.participants
    rw [participants]
    simp only [List.forall_mem_cons, leaveForConference_ownReads left notHost]
    apply and_congr_left'
    rw [leaveForConference_readers left defaultId notHost.symm]
    simp only [ne_eq, not_true_eq_false, and_false, not_false_eq_true, true_and]
    apply forall_congr'
    intro reader
    apply forall_congr'
    intro remains
    have notSpeaker : reader ≠ defaultId :=
      fun same => hostApart (same ▸ (List.mem_filter.mp remains).1)
    rw [leaveForConference_readers left reader (others reader remains)]
    simp only [notSpeaker, ne_eq, not_false_eq_true, and_true]

def threeJoined : Room Nat :=
  let call : SIPCall := { rtpStreams := [⟨{ type := .audio, enabled := true }⟩] }
  Run.after (Room.step SIPCall.plainPlatform)
    (Room.freshRoom [("a", call), ("b", call), ("c", call)])
    [.addParticipant "a", .bindParticipant "a", .addParticipant "b", .bindParticipant "b",
      .addParticipant "c", .bindParticipant "c", .attachLocalParticipant]

def inFront : Surroundings := ⟨"conf", false, true⟩

/-- With nobody muted every reading is mutual, and a call leaves cleanly. -/
theorem unmuted_call_departs :
    Departed (removeParticipant inFront threeJoined "b") "b" ∧
      Departed (leaveForConference inFront threeJoined "b") "b" := by
  have both := removeParticipant_departed_iff inFront threeJoined "b" (by decide) (by decide)
    (by decide)
  exact ⟨both.1.mpr (by decide), both.2.mpr (by decide)⟩

/-- A muted participant still reads the others, but none of them reads it: it
keeps the one that leaves. -/
theorem muted_participant_keeps_departed :
    let muted := threeJoined.muteCall "a" true
    ¬ Departed (removeParticipant inFront muted "b") "b" ∧
      ¬ Departed (leaveForConference inFront muted "b") "b" := by
  decide +kernel

end SipCore.Manager
