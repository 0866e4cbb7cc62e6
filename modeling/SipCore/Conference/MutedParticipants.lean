/-
Who hears a muted participant. A mute takes the participant's readers away, and every
later operation may only give readers to participants that are not muted.
-/

import SipCore.Conference.Room

namespace SipCore.Room

open RingBufferPool (defaultId NoNewReaders)
open Conference (hostId)

variable {α : Type}

def IsCallId (id : String) : Prop := id ≠ hostId ∧ id ≠ defaultId

instance (id : String) : Decidable (IsCallId id) :=
  inferInstanceAs (Decidable (id ≠ hostId ∧ id ≠ defaultId))

def Quiet (room : Room α) (callId : String) : Prop :=
  callId ∈ room.conference.participantsMuted ∧ IsCallId callId

instance (room : Room α) (callId : String) : Decidable (room.Quiet callId) :=
  inferInstanceAs (Decidable (callId ∈ room.conference.participantsMuted ∧ IsCallId callId))

def listeners (room : Room α) : List String := defaultId :: room.conference.participants

def NobodyHearsMuted (room : Room α) : Prop :=
  ∀ callId ∈ room.conference.participantsMuted, IsCallId callId →
    ∀ listener ∈ room.listeners, listener ≠ callId → ¬ room.pool.Reads listener callId

instance (room : Room α) : Decidable room.NobodyHearsMuted :=
  inferInstanceAs (Decidable (∀ callId ∈ room.conference.participantsMuted, IsCallId callId →
    ∀ listener ∈ room.listeners, listener ≠ callId → ¬ room.pool.Reads listener callId))

/-- The participants stay, and whoever is muted afterwards was so before and has
no new reader. -/
structure QuietStep (before after : Room α) : Prop where
  participants : after.conference.participants = before.conference.participants
  muted : ∀ callId, after.Quiet callId → before.Quiet callId
  readers : NoNewReaders after.Quiet before.pool after.pool

namespace QuietStep

theorem refl (room : Room α) : QuietStep room room := ⟨rfl, fun _ isQuiet => isQuiet, .refl⟩

theorem trans {before between after : Room α} (first : QuietStep before between)
    (second : QuietStep between after) : QuietStep before after where
  participants := second.participants.trans first.participants
  muted := fun callId isQuiet => first.muted callId (second.muted callId isQuiet)
  readers := fun callId isQuiet reader reads =>
    first.readers callId (second.muted callId isQuiet) reader
      (second.readers callId isQuiet reader reads)

theorem ofPool {room : Room α} {pool : RingBufferPool α}
    (readers : NoNewReaders room.Quiet room.pool pool) :
    QuietStep room { room with pool := pool } :=
  ⟨rfl, fun _ isQuiet => isQuiet, readers⟩

theorem overParticipants {room : Room α} {each : RingBufferPool α → String → RingBufferPool α}
    (readers : ∀ pool item, NoNewReaders room.Quiet pool (each pool item)) :
    QuietStep room (room.overParticipants each) :=
  ofPool (NoNewReaders.foldl readers room.conference.participants)

private theorem nobodyHearsMuted {before after : Room α} (quietStep : QuietStep before after)
    (unheard : before.NobodyHearsMuted) : after.NobodyHearsMuted := by
  intro callId muted isCall listener member different reads
  have wasQuiet := quietStep.muted callId ⟨muted, isCall⟩
  unfold listeners at member
  rw [quietStep.participants] at member
  exact unheard callId wasQuiet.1 isCall listener member different
    (quietStep.readers callId ⟨muted, isCall⟩ listener reads)

end QuietStep

theorem not_quiet_defaultId (room : Room α) : ¬ room.Quiet defaultId :=
  fun isQuiet => isQuiet.2.2 rfl

theorem not_quiet_of_unmuted {room : Room α} {callId : String}
    (unmuted : room.conference.isMuted callId = false) : ¬ room.Quiet callId := by
  intro isQuiet
  have muted : room.conference.isMuted callId = true := List.contains_iff_mem.mpr isQuiet.1
  rw [unmuted] at muted
  cases muted

section

variable (room : Room α)

theorem bindParticipant_quietStep (participantId : String) (heard : ¬ room.Quiet participantId) :
    QuietStep room (room.bindParticipant participantId) := by
  have toOthers : QuietStep room (room.overParticipants (room.bindToParticipant participantId)) := by
    apply QuietStep.overParticipants
    intro pool item
    refine .trans ?_ (.flush item)
    split
    · cases muted : room.conference.isMuted item with
      | true => exact .bindHalfDuplexOut heard
      | false => exact .bindCallID heard (not_quiet_of_unmuted muted)
    · exact .refl
  unfold bindParticipant
  split
  · refine toOthers.trans (.ofPool (.trans ?_ (.flush defaultId)))
    split
    · exact .bindHalfDuplexOut (not_quiet_defaultId room)
    · split
      · exact .bindHalfDuplexOut heard
      · exact .bindCallID heard (not_quiet_defaultId room)
  · exact toOthers

theorem bindHost_quietStep : QuietStep room room.bindHost := by
  apply QuietStep.overParticipants
  intro pool item
  unfold bindHostTo
  split
  · cases muted : room.conference.isMuted item with
    | true => exact .refl
    | false =>
      refine .trans ?_ (.flush defaultId)
      split
      · exact .bindHalfDuplexOut (not_quiet_defaultId room)
      · exact .bindCallID (not_quiet_of_unmuted muted) (not_quiet_defaultId room)
  · exact .refl

theorem unbindHost_quietStep : QuietStep room room.unbindHost := by
  apply QuietStep.overParticipants
  intro pool item
  exact .unBindHalfDuplexOut item defaultId

theorem setMicMutedAll_quietStep (muted : Bool) : QuietStep room (room.setMicMutedAll muted) := by
  apply QuietStep.overParticipants
  intro pool item
  exact .refl

private theorem setMuted_hostId_quietStep (muted : Bool) :
    QuietStep room (room.setMuted hostId muted) where
  participants := rfl
  muted := by
    intro callId isQuiet
    refine ⟨?_, isQuiet.2⟩
    have member : callId ∈ (room.setMuted hostId muted).conference.participantsMuted := isQuiet.1
    cases muted with
    | true => exact (List.mem_insert_iff.mp member).resolve_left isQuiet.2.1
    | false => exact (List.mem_filter.mp member).1
  readers := NoNewReaders.refl

theorem muteHost_quietStep (state : Bool) : QuietStep room (room.muteHost state) := by
  unfold muteHost
  simp only
  split
  · refine (setMuted_hostId_quietStep room true).trans ?_
    split
    · exact unbindHost_quietStep _
    · exact setMicMutedAll_quietStep _ true
  · split
    · refine (setMuted_hostId_quietStep room false).trans ?_
      split
      · exact bindHost_quietStep _
      · exact .refl _
    · exact .refl room

private theorem setLocalHostMuteState_quietStep (type : MediaType) (muted : Bool) :
    QuietStep room (room.setLocalHostMuteState type muted) :=
  ⟨rfl, fun _ isQuiet => isQuiet, NoNewReaders.refl⟩

theorem muteLocalHost_quietStep (isMuted : Bool) (mediaType : MediaType) :
    QuietStep room (room.muteLocalHost isMuted mediaType) := by
  cases mediaType with
  | none => exact .refl room
  | all => exact .refl room
  | video =>
    unfold muteLocalHost
    simp only
    split
    · exact .refl room
    · split
      · exact .refl room
      · exact setLocalHostMuteState_quietStep room .video isMuted
  | audio =>
    unfold muteLocalHost
    simp only
    split
    · exact .refl room
    · refine .trans ?_ (setLocalHostMuteState_quietStep _ .audio isMuted)
      split
      · split
        · exact .refl room
        · split
          · exact unbindHost_quietStep room
          · exact bindHost_quietStep room
      · exact setMicMutedAll_quietStep room isMuted

private theorem playTo_noNewReaders (muted hostAudioMuted : Bool) (pool : RingBufferPool α)
    (participantId : String) :
    NoNewReaders room.Quiet pool (room.playTo muted hostAudioMuted pool participantId) := by
  refine .trans (.setMicMuted participantId hostAudioMuted)
    (NoNewReaders.trans (NoNewReaders.unBindHalfDuplexOut defaultId participantId)
      (NoNewReaders.trans ?_ (NoNewReaders.flush participantId)))
  split
  · rename_i played
    rw [Bool.and_eq_true, Bool.not_eq_true', Bool.not_eq_true'] at played
    have heard := not_quiet_of_unmuted played.2
    split
    · exact .bindHalfDuplexOut heard
    · exact .bindCallID heard (not_quiet_defaultId room)
  · exact .refl

theorem muteLocalPlayback_quietStep (muted : Bool) :
    QuietStep room (room.muteLocalPlayback muted) := by
  have marked : QuietStep room (room.markLocalPlayback muted) :=
    ⟨rfl, fun _ isQuiet => isQuiet, NoNewReaders.foldl
      (fun _ item => NoNewReaders.setLocalPlaybackMuted item muted) room.conference.participants⟩
  unfold muteLocalPlayback
  simp only
  split
  · refine marked.trans (.trans ?_ (.ofPool (.flush defaultId)))
    exact .overParticipants (playTo_noNewReaders _ muted _)
  · exact marked

theorem attachTo_noNewReaders (hostMuted : Bool) (pool : RingBufferPool α) (participant : String) :
    NoNewReaders room.Quiet pool (room.attachTo hostMuted pool participant) := by
  refine .trans ?_ (.flush participant)
  split
  · refine .trans (.setMicMuted participant hostMuted)
      (NoNewReaders.trans ?_ (NoNewReaders.flush participant))
    cases silenced : room.conference.localPlaybackMuted || room.conference.isMuted participant with
    | true =>
      -- a silenced participant is never bound to the speaker
      cases hostMuted with
      | true => exact .refl
      | false => exact .bindHalfDuplexOut (not_quiet_defaultId room)
    | false =>
      have heard := not_quiet_of_unmuted (Bool.or_eq_false_iff.mp silenced).2
      cases hostMuted with
      | true => exact .bindHalfDuplexOut heard
      | false => exact .bindCallID heard (not_quiet_defaultId room)
  · exact .refl

theorem attachLocalParticipant_quietStep : QuietStep room room.attachLocalParticipant := by
  unfold attachLocalParticipant
  split
  · have entered : QuietStep room (room.setState .activeAttached) :=
      ⟨rfl, fun _ isQuiet => isQuiet, NoNewReaders.refl⟩
    refine entered.trans (.trans ?_ (.ofPool (.flush defaultId)))
    exact .overParticipants (attachTo_noNewReaders _ _)
  · exact .refl room

end

variable (platform : Platform)

theorem detachLocalParticipant_quietStep (room : Room α) :
    QuietStep room (room.detachLocalParticipant platform) := by
  unfold detachLocalParticipant
  split
  · refine ⟨rfl, fun _ isQuiet => isQuiet, .foldl ?_ room.conference.participants⟩
    intro pool participant
    split
    · exact .unBindCallID participant defaultId
    · exact .refl
  · exact .refl room

private theorem requestMedia_quietStep (room : Room α) (mediaAttr : MediaAttribute) :
    QuietStep room (room.requestMedia platform mediaAttr).1 := by
  unfold requestMedia
  simp only
  split
  · exact muteLocalHost_quietStep room mediaAttr.muted _
  · exact .refl room

private theorem requestMediaLoop_quietStep (room : Room α) (mediaAttrList : List MediaAttribute) :
    QuietStep room (room.requestMediaLoop platform mediaAttrList).1 := by
  induction mediaAttrList generalizing room with
  | nil => exact .refl room
  | cons mediaAttr later ih => exact (requestMedia_quietStep platform room mediaAttr).trans (ih _)

theorem requestMediaChange_quietStep (room : Room α) (mediaList : List MediaMap) :
    QuietStep room (room.requestMediaChange platform mediaList).2 := by
  unfold requestMediaChange
  split
  · refine (requestMediaLoop_quietStep platform room
      (MediaAttribute.buildMediaAttributesList mediaList false)).trans ?_
    exact ⟨rfl, fun _ isQuiet => isQuiet, .refl⟩
  · exact .refl room

private theorem unmuteCall_quietStep (room : Room α) (callId : String) :
    QuietStep room ((room.setMuted callId false).bindParticipant callId) := by
  have unmuted : QuietStep room (room.setMuted callId false) :=
    ⟨rfl, fun _ isQuiet => ⟨(List.mem_filter.mp isQuiet.1).1, isQuiet.2⟩, NoNewReaders.refl⟩
  refine unmuted.trans (bindParticipant_quietStep _ callId ?_)
  intro isQuiet
  have different := (List.mem_filter.mp isQuiet.1).2
  simp at different

private theorem muteCall_nobodyHearsMuted {room : Room α} {callId : String}
    (unheard : room.NobodyHearsMuted)
    (inTurn : ∀ listener ∈ room.listeners, listener ≠ callId → room.pool.Reads listener callId →
      room.pool.Reads callId listener) :
    ((room.setMuted callId true).unbindParticipant callId).NobodyHearsMuted := by
  intro other muted isCall listener member different reads
  have before := (RingBufferPool.reads_unBindAllHalfDuplexOut ..).mp reads
  rcases List.mem_insert_iff.mp muted with same | already
  · subst other
    exact before.2 ⟨rfl, inTurn listener member different before.1⟩
  · exact unheard other already isCall listener member different before.1

theorem takeOverMedia_eq (type : MediaType) (room : Room α) (mediaList : List MediaAttribute) :
    ∃ sources, (takeOverMedia type (room, mediaList)).1 =
      { room with conference := { room.conference with hostSources := sources } } := by
  unfold takeOverMedia
  simp only
  split
  · exact ⟨room.conference.hostSources, rfl⟩
  · split
    · exact ⟨_, rfl⟩
    · exact ⟨room.conference.hostSources, rfl⟩

theorem takeOverMediaSourceControl_eq (room : Room α) (callId : String) :
    ∃ sources, (room.takeOverMediaSourceControl platform callId).1 =
      { room with conference := { room.conference with hostSources := sources } } := by
  unfold takeOverMediaSourceControl
  split
  · exact ⟨room.conference.hostSources, rfl⟩
  · split
    · exact ⟨room.conference.hostSources, rfl⟩
    · obtain ⟨audio, first⟩ := takeOverMedia_eq .audio room _
      obtain ⟨sources, second⟩ := takeOverMedia_eq .video
        (takeOverMedia .audio (room, _)).1 (takeOverMedia .audio (room, _)).2
      refine ⟨sources, second.trans ?_⟩
      rw [first]

def isPeerMuted (room : Room α) (callId : String) : Bool :=
  (room.calls.find? callId).any SIPCall.peerMuted

theorem filterPlayback_conference (room : Room α) (callId : String) :
    (room.filterPlayback callId).conference = room.conference := by
  unfold filterPlayback
  split <;> rfl

private theorem filterPlayback_reads (room : Room α) (callId reader other : String) :
    (room.filterPlayback callId).pool.Reads reader other ↔ room.pool.Reads reader other := by
  unfold filterPlayback
  split <;> exact Iff.rfl

private theorem addParticipant_effect (platform : Platform) (room : Room α) (participantId : String)
    (joins : participantId ∉ room.conference.participants) :
    let joined := room.addParticipant platform participantId
    joined.conference.participants = room.conference.participants.insert participantId ∧
      joined.conference.participantsMuted =
        (if room.isPeerMuted participantId then
          room.conference.participantsMuted.insert participantId
        else room.conference.participantsMuted) ∧
      ∀ reader callId, joined.pool.Reads reader callId ↔ room.pool.Reads reader callId := by
  intro joined
  unfold joined addParticipant isPeerMuted
  rw [if_neg joins]
  cases room.calls.find? participantId with
  | none => exact ⟨rfl, rfl, fun _ _ => Iff.rfl⟩
  | some call =>
    simp only [Option.any_some]
    obtain ⟨sources, taken⟩ := takeOverMediaSourceControl_eq platform
      (if call.peerMuted then (room.insertParticipant participantId).setMuted participantId true
        else room.insertParticipant participantId) participantId
    rw [taken]
    simp only [enterConference, filterPlayback_conference, filterPlayback_reads]
    split <;> exact ⟨rfl, rfl, fun _ _ => Iff.rfl⟩

theorem addParticipant_nobodyHearsMuted {room : Room α} {participantId : String}
    (joins : participantId ∉ room.conference.participants) (unheard : room.NobodyHearsMuted)
    (unread : room.isPeerMuted participantId = true → IsCallId participantId →
      ∀ listener ∈ room.listeners, listener ≠ participantId →
      ¬ room.pool.Reads listener participantId)
    (deaf : ∀ callId ∈ room.conference.participantsMuted, IsCallId callId →
      participantId ≠ callId → ¬ room.pool.Reads participantId callId) :
    (room.addParticipant platform participantId).NobodyHearsMuted := by
  obtain ⟨participants, muted, reads⟩ := addParticipant_effect platform room participantId joins
  intro callId isMuted isCall listener member different readsAfter
  rw [reads] at readsAfter
  unfold listeners at member
  rw [participants, List.mem_cons, List.mem_insert_iff] at member
  rw [muted] at isMuted
  have mutedCases : callId ∈ room.conference.participantsMuted ∨
      room.isPeerMuted participantId = true ∧ callId = participantId := by
    split at isMuted
    · rename_i peerMuted
      rcases List.mem_insert_iff.mp isMuted with same | before
      · exact .inr ⟨peerMuted, same⟩
      · exact .inl before
    · exact .inl isMuted
  have wasListener : listener ≠ participantId → listener ∈ room.listeners := by
    intro other
    rcases member with host | newcomer | before
    · rw [host]
      exact List.mem_cons_self
    · exact absurd newcomer other
    · exact List.mem_cons_of_mem _ before
  rcases mutedCases with before | ⟨peerMuted, same⟩
  · by_cases newcomer : listener = participantId
    · rw [newcomer] at readsAfter different
      exact deaf callId before isCall different readsAfter
    · exact unheard callId before isCall listener (wasListener newcomer) different readsAfter
  · subst callId
    exact unread peerMuted isCall listener (wasListener different) different readsAfter

/-! ### Whole runs -/

/-- What the operations need: nobody is muted who is still read, and nobody
muted is bound. All others may be called at any time. -/
def KeepsMutedUnheard (room : Room α) : Operation → Prop
  | .addParticipant participantId =>
    participantId ∈ room.conference.participants ∨
      (room.isPeerMuted participantId = true → IsCallId participantId →
        ∀ listener ∈ room.listeners, listener ≠ participantId →
          ¬ room.pool.Reads listener participantId) ∧
      ∀ callId ∈ room.conference.participantsMuted, IsCallId callId →
        participantId ≠ callId → ¬ room.pool.Reads participantId callId
  | .bindParticipant participantId => ¬ room.Quiet participantId
  | .muteCall callId state =>
    state = true → room.conference.isMuted callId = false →
      ∀ listener ∈ room.listeners, listener ≠ callId → room.pool.Reads listener callId →
        room.pool.Reads callId listener
  | _ => True

instance (room : Room α) (operation : Operation) :
    Decidable (room.KeepsMutedUnheard operation) :=
  match operation with
  | .addParticipant _ => inferInstanceAs (Decidable (_ ∨ _ ∧ _))
  | .bindParticipant _ => inferInstanceAs (Decidable (¬ _))
  | .muteCall _ _ => inferInstanceAs (Decidable (_ → _ → _))
  | .muteHost _ | .muteLocalHost _ _ | .muteLocalPlayback _ | .attachLocalParticipant
  | .detachLocalParticipant | .requestMediaChange _ | .setLocalHostDefaultMediaSource _ _
  | .callsChanged _ | .createRingBuffer _ => isTrue trivial

private theorem step_nobodyHearsMuted (room : Room α) (operation : Operation)
    (unheard : room.NobodyHearsMuted) (admissible : room.KeepsMutedUnheard operation) :
    (room.step platform operation).NobodyHearsMuted := by
  cases operation with
  | addParticipant participantId =>
    change (room.addParticipant platform participantId).NobodyHearsMuted
    by_cases member : participantId ∈ room.conference.participants
    · unfold addParticipant
      rw [if_pos member]
      exact unheard
    · rcases admissible with already | ⟨unread, deaf⟩
      · exact absurd already member
      · exact addParticipant_nobodyHearsMuted platform member unheard unread deaf
  | bindParticipant participantId =>
    exact (bindParticipant_quietStep room participantId admissible).nobodyHearsMuted unheard
  | muteCall callId state =>
    change (room.muteCall callId state).NobodyHearsMuted
    unfold muteCall
    cases state with
    | true =>
      cases muted : room.conference.isMuted callId with
      | true => exact unheard
      | false => exact muteCall_nobodyHearsMuted unheard (admissible rfl muted)
    | false =>
      cases room.conference.isMuted callId with
      | true => exact (unmuteCall_quietStep room callId).nobodyHearsMuted unheard
      | false => exact unheard
  | muteHost state => exact (muteHost_quietStep room state).nobodyHearsMuted unheard
  | muteLocalHost isMuted mediaType =>
    exact (muteLocalHost_quietStep room isMuted mediaType).nobodyHearsMuted unheard
  | muteLocalPlayback muted =>
    exact (muteLocalPlayback_quietStep room muted).nobodyHearsMuted unheard
  | attachLocalParticipant =>
    exact (attachLocalParticipant_quietStep room).nobodyHearsMuted unheard
  | detachLocalParticipant =>
    exact (detachLocalParticipant_quietStep platform room).nobodyHearsMuted unheard
  | requestMediaChange mediaList =>
    exact (requestMediaChange_quietStep platform room mediaList).nobodyHearsMuted unheard
  | setLocalHostDefaultMediaSource addVideo source => exact unheard
  | callsChanged calls => exact unheard
  | createRingBuffer id => exact unheard

/-- Along every run whose joins, bindings and mutes meet the guard, nobody ever
hears a muted participant. -/
theorem nobody_hears_muted_of_guarded (platform : Platform) (start : Room α)
    (operations : List Operation) (fresh : start.conference.participantsMuted = [])
    (guarded : Run.Guarded (step platform) KeepsMutedUnheard start operations) :
    Run.Always (step platform) NobodyHearsMuted start operations := by
  apply Run.always_of_guarded (step_nobodyHearsMuted platform) _ guarded
  intro callId muted
  rw [fresh] at muted
  cases muted

def freshRoom (calls : List (String × SIPCall)) : Room Nat :=
  { conference := { id := "conf" }
    pool := calls.foldl (fun pool entry => pool.createRingBuffer entry.1) RingBufferPool.create
    calls := calls.foldl (fun map entry => map.emplace entry.1 entry.2) AssocMap.empty }

/-- Two calls join and are bound, the host attaches, one of them is muted and the
host mutes and unmutes around it. -/
theorem muted_call_unheard_by_both :
    Run.Always (step SIPCall.plainPlatform) NobodyHearsMuted (freshRoom [("a", {}), ("b", {})])
      [.addParticipant "a", .bindParticipant "a", .addParticipant "b", .bindParticipant "b",
        .attachLocalParticipant, .muteCall "b" true, .muteHost true, .muteHost false] :=
  nobody_hears_muted_of_guarded _ _ _ rfl (by decide)

/-- A call whose peer has muted it joins as a muted participant, and binding it
lets the other participant hear it. -/
theorem peer_muted_call_heard_after_binding :
    ¬ Run.Always (step SIPCall.plainPlatform) NobodyHearsMuted
      (freshRoom [("a", {}), ("b", { peerMuted := true })])
      [.addParticipant "a", .bindParticipant "a", .addParticipant "b", .bindParticipant "b"] := by
  decide

end SipCore.Room
