/-
The microphone filter of the pool against what the conference reports. The report is
computed from the flags of the host sources and from the moderator's mute; the filter
is a set of ids in the pool, rewritten by every operation that attaches, binds or
mutes. While the host is attached they have to say the same of every participant.
-/

import SipCore.Conference.MutedParticipants

namespace SipCore

variable {muted state : Bool} {sources : List MediaAttribute} {conference : Conference}
  (platform : Platform)

namespace Conference

def AudioPresent (sources : List MediaAttribute) : Prop :=
  (∃ source ∈ sources, source.type = .audio) ∧ ∀ source ∈ sources, source.type ≠ .none

def AudioState (sources : List MediaAttribute) (muted : Bool) : Prop :=
  AudioPresent sources ∧ ∀ source ∈ sources, source.type = .audio → source.muted = muted

def AudioUniform (sources : List MediaAttribute) : Prop := ∃ muted, AudioState sources muted

instance (sources : List MediaAttribute) : Decidable (AudioPresent sources) :=
  inferInstanceAs (Decidable (_ ∧ _))

instance (sources : List MediaAttribute) (muted : Bool) : Decidable (AudioState sources muted) :=
  inferInstanceAs (Decidable (_ ∧ _))

instance (sources : List MediaAttribute) : Decidable (AudioUniform sources) :=
  inferInstanceAs (Decidable (∃ muted, AudioState sources muted))

theorem AudioState.any_silences (state : AudioState sources muted) :
    sources.any (silences .audio) = muted := by
  obtain ⟨⟨⟨source, member, audio⟩, known⟩, same⟩ := state
  cases muted with
  | true =>
    rw [List.any_eq_true]
    refine ⟨source, member, ?_⟩
    simp [silences, audio, same source member audio]
  | false =>
    rw [List.any_eq_false]
    intro other present
    have notNone := known other present
    by_cases isAudio : other.type = .audio
    · simp [silences, isAudio, same other present isAudio]
    · simp [silences, isAudio, notNone]

theorem AudioState.of_kinds {others : List MediaAttribute} (state : AudioState sources muted)
    (kinds : others.map (fun source => (source.type, source.muted)) =
      sources.map (fun source => (source.type, source.muted))) :
    AudioState others muted := by
  have counterpart : ∀ other ∈ others, ∃ source ∈ sources,
      source.type = other.type ∧ source.muted = other.muted := by
    intro other member
    have image := List.mem_map_of_mem (f := fun source => (source.type, source.muted)) member
    rw [kinds] at image
    obtain ⟨source, present, same⟩ := List.mem_map.mp image
    exact ⟨source, present, (Prod.mk.inj same).1, (Prod.mk.inj same).2⟩
  obtain ⟨⟨⟨source, member, audio⟩, known⟩, same⟩ := state
  refine ⟨⟨?_, ?_⟩, ?_⟩
  · have image := List.mem_map_of_mem (f := fun source => (source.type, source.muted)) member
    rw [← kinds] at image
    obtain ⟨other, present, equal⟩ := List.mem_map.mp image
    exact ⟨other, present, (Prod.mk.inj equal).1.trans audio⟩
  · intro other present
    obtain ⟨before, beforeMember, type, _⟩ := counterpart other present
    exact type ▸ known before beforeMember
  · intro other present isAudio
    obtain ⟨before, beforeMember, type, mute⟩ := counterpart other present
    exact mute ▸ same before beforeMember (type.trans isAudio)

theorem mem_setMuteState {type : MediaType} {source : MediaAttribute}
    (member : source ∈ setMuteState type muted sources) :
    ∃ before ∈ sources, source.type = before.type ∧
      source.muted = if before.type = type then muted else before.muted := by
  obtain ⟨before, present, changed⟩ := List.mem_map.mp member
  refine ⟨before, present, ?_⟩
  subst source
  split <;> exact ⟨rfl, rfl⟩

theorem AudioPresent.setMuteState (present : AudioPresent sources) (type : MediaType) (muted : Bool) :
    AudioPresent (setMuteState type muted sources) := by
  obtain ⟨⟨source, member, audio⟩, known⟩ := present
  constructor
  · refine ⟨_, List.mem_map_of_mem member, ?_⟩
    split <;> exact audio
  · intro changed changedMember
    obtain ⟨before, beforeMember, sameType, _⟩ := mem_setMuteState changedMember
    rw [sameType]
    exact known before beforeMember

theorem AudioPresent.audioState (present : AudioPresent sources) (muted : Bool) :
    AudioState (Conference.setMuteState .audio muted sources) muted := by
  refine ⟨present.setMuteState .audio muted, ?_⟩
  intro changed member audio
  obtain ⟨before, _, sameType, state⟩ := mem_setMuteState member
  rw [state, if_pos (sameType ▸ audio)]

theorem AudioState.setVideo (audioState : AudioState sources state) (muted : Bool) :
    AudioState (Conference.setMuteState .video muted sources) state := by
  refine ⟨audioState.1.setMuteState .video muted, ?_⟩
  intro changed member audio
  obtain ⟨before, beforeMember, sameType, kept⟩ := mem_setMuteState member
  have beforeAudio : before.type = .audio := sameType ▸ audio
  rw [kept, if_neg (by rw [beforeAudio]; decide)]
  exact audioState.2 before beforeMember beforeAudio

private theorem any_silences_setVideo (muted : Bool) (sources : List MediaAttribute) :
    (setMuteState .video muted sources).any (silences .audio) = sources.any (silences .audio) := by
  unfold setMuteState
  rw [List.any_map]
  apply congrArg
  funext source
  simp only [Function.comp_apply]
  split
  · rename_i video
    simp [silences, video]
  · rfl

theorem isMediaSourceMuted_of_attached (attached : conference.confState = .activeAttached) :
    conference.isMediaSourceMuted .audio = conference.hostSources.any (silences .audio) := by
  unfold isMediaSourceMuted
  simp [attached]

theorem isHostMuted_of_muted (muted : conference.isMuted hostId = true) :
    conference.isHostMuted = true := by
  unfold isHostMuted
  rw [muted, Bool.or_true]

theorem isHostMuted_of_source (muted : conference.isMediaSourceMuted .audio = true) :
    conference.isHostMuted = true := by
  unfold isHostMuted
  rw [muted, Bool.true_or]

end Conference

namespace Room

open RingBufferPool (defaultId)
open Conference (hostId AudioPresent AudioState AudioUniform)

variable {α : Type}

def Registered (room : Room α) : Prop :=
  ∀ participant ∈ room.conference.participants, room.hasCall participant = true

def FilterIs (room : Room α) (muted : Bool) : Prop :=
  ∀ participant ∈ room.conference.participants, room.pool.isMicMuted participant = muted

def FilterAgrees (room : Room α) : Prop :=
  room.isAttached = true → room.FilterIs room.conference.isHostMuted

theorem overParticipants_filterIs {room : Room α}
    {each : RingBufferPool α → String → RingBufferPool α} {value : Bool} (active : String → Bool)
    (effect : ∀ pool item id, (each pool item).isMicMuted id =
      if id = item ∧ active item = true then value else pool.isMicMuted id)
    (allActive : ∀ participant ∈ room.conference.participants, active participant = true) :
    (room.overParticipants each).FilterIs value := by
  intro participant member
  change (room.conference.participants.foldl each room.pool).isMicMuted participant = value
  rw [RingBufferPool.isMicMuted_foldl effect, if_pos ⟨member, allActive participant member⟩]

theorem unbindHost_filterIs (room : Room α) : room.unbindHost.FilterIs true := by
  apply overParticipants_filterIs (fun _ => true)
  · intro pool item id
    simp
  · exact fun _ _ => rfl

private theorem setMicMutedAll_filterIs (room : Room α) (muted : Bool) :
    (room.setMicMutedAll muted).FilterIs muted := by
  apply overParticipants_filterIs (fun _ => true)
  · intro pool item id
    simp
  · exact fun _ _ => rfl

theorem bindHost_filterIs {room : Room α} (registered : room.Registered) :
    room.bindHost.FilterIs false := by
  apply overParticipants_filterIs room.hasCall
  · intro pool item id
    unfold bindHostTo
    cases room.hasCall item with
    | true =>
      simp only [if_true, and_true]
      split
      · simp
      · split <;> simp
    | false => simp
  · exact registered

private theorem playTo_filterIs (room : Room α) (muted hostAudioMuted : Bool) :
    (room.overParticipants (room.playTo muted hostAudioMuted)).FilterIs hostAudioMuted := by
  apply overParticipants_filterIs (fun _ => true)
  · intro pool item id
    unfold playTo
    split
    · split <;> simp
    · simp
  · exact fun _ _ => rfl

theorem attachTo_filterIs {room : Room α} (hostMuted : Bool) (registered : room.Registered) :
    (room.overParticipants (room.attachTo hostMuted)).FilterIs hostMuted := by
  apply overParticipants_filterIs room.hasCall
  · intro pool item id
    unfold attachTo
    cases room.hasCall item with
    | true =>
      simp only [if_true, and_true, RingBufferPool.isMicMuted_flush]
      split
      · simp
      · split
        · simp
        · split <;> simp
    | false => simp
  · exact registered

/-! ### Agreement after each operation -/

theorem isAttached_iff (room : Room α) :
    room.isAttached = true ↔ room.conference.confState = .activeAttached := decide_eq_true_iff

theorem isHostMuted_of_attached {room : Room α} (attached : room.isAttached = true) :
    room.conference.isHostMuted =
      (room.conference.hostSources.any (Conference.silences .audio) ||
        room.conference.isMuted hostId) := by
  unfold Conference.isHostMuted
  rw [Conference.isMediaSourceMuted_of_attached ((isAttached_iff room).mp attached)]

theorem isMuted_setMuted (room : Room α) (id other : String) (muted : Bool) :
    (room.setMuted id muted).conference.isMuted other =
      if other = id then muted else room.conference.isMuted other := by
  unfold Conference.isMuted setMuted
  cases muted with
  | true =>
    by_cases same : other = id <;> simp [same]
  | false =>
    by_cases same : other = id <;> simp [same]

private theorem bindParticipant_isMicMuted (room : Room α) (participantId id : String) :
    (room.bindParticipant participantId).pool.isMicMuted id =
      if room.isAttached = true ∧ id = participantId then room.conference.isHostMuted
      else room.pool.isMicMuted id := by
  have others : (room.overParticipants (room.bindToParticipant participantId)).pool.isMicMuted id =
      room.pool.isMicMuted id := by
    apply Run.after_keeps (room.bindToParticipant participantId)
      (fun pool : RingBufferPool α => pool.isMicMuted id)
    intro pool item
    unfold bindToParticipant
    simp only [RingBufferPool.isMicMuted_flush]
    split
    · split
      · exact RingBufferPool.isMicMuted_bindHalfDuplexOut ..
      · exact RingBufferPool.isMicMuted_bindCallID ..
    · rfl
  unfold bindParticipant
  cases room.isAttached with
  | true =>
    simp only [if_true, bindToHost, RingBufferPool.isMicMuted_flush, true_and]
    split
    · rw [RingBufferPool.isMicMuted_bindHalfDuplexOut, RingBufferPool.isMicMuted_setMicMuted,
        others]
      rfl
    · split
      · rw [RingBufferPool.isMicMuted_bindHalfDuplexOut, RingBufferPool.isMicMuted_setMicMuted,
          others]
        rfl
      · rw [RingBufferPool.isMicMuted_bindCallID, RingBufferPool.isMicMuted_setMicMuted, others]
        rfl
  | false => simpa using others

theorem bindParticipant_conference (room : Room α) (participantId : String) :
    (room.bindParticipant participantId).conference = room.conference := by
  unfold bindParticipant
  split <;> rfl

theorem bindParticipant_filterAgrees {room : Room α} (participantId : String)
    (agrees : room.FilterAgrees) : (room.bindParticipant participantId).FilterAgrees := by
  intro attached participant member
  unfold isAttached at attached
  rw [bindParticipant_conference] at attached member ⊢
  rw [bindParticipant_isMicMuted]
  split
  · rfl
  · exact agrees attached participant member

theorem muteHost_filterAgrees {room : Room α} (state : Bool) (registered : room.Registered)
    (agrees : room.FilterAgrees) : (room.muteHost state).FilterAgrees := by
  unfold muteHost
  simp only
  split
  · intro attached
    have reported : (room.setMuted hostId true).conference.isHostMuted = true := by
      apply Conference.isHostMuted_of_muted
      rw [isMuted_setMuted, if_pos rfl]
    split
    · change (room.setMuted hostId true).unbindHost.FilterIs
        (room.setMuted hostId true).conference.isHostMuted
      rw [reported]
      exact unbindHost_filterIs _
    · change ((room.setMuted hostId true).setMicMutedAll true).FilterIs
        (room.setMuted hostId true).conference.isHostMuted
      rw [reported]
      exact setMicMutedAll_filterIs _ true
  · split
    · have unmuted : (room.setMuted hostId false).conference.isMuted hostId = false := by
        rw [isMuted_setMuted, if_pos rfl]
      have sources : (room.setMuted hostId false).conference.isMediaSourceMuted .audio =
          room.conference.isMediaSourceMuted .audio := rfl
      cases source : room.conference.isMediaSourceMuted .audio with
      | false =>
        intro attached
        change (room.setMuted hostId false).bindHost.FilterIs
          (room.setMuted hostId false).conference.isHostMuted
        unfold Conference.isHostMuted
        rw [sources, source, unmuted]
        exact bindHost_filterIs registered
      | true =>
        intro attached participant member
        -- the source keeps the host muted, so neither the filter nor the report moves
        have reported : (room.setMuted hostId false).conference.isHostMuted = true :=
          Conference.isHostMuted_of_source (sources.trans source)
        change room.pool.isMicMuted participant =
          (room.setMuted hostId false).conference.isHostMuted
        rw [reported, agrees attached participant member]
        exact Conference.isHostMuted_of_source source
    · exact agrees

theorem filterAgrees_of_detached {room : Room α} (detached : room.isAttached = false) :
    room.FilterAgrees := by
  intro attached
  rw [detached] at attached
  cases attached

theorem muteLocalHost_audio_cases (room : Room α) (muted : Bool) :
    room.muteLocalHost muted .audio = room ∧ room.isAttached = true ∧
        room.conference.isMediaSourceMuted .audio = muted ∨
      ∃ pool, room.muteLocalHost muted .audio =
        { room with
          pool := pool
          conference := room.conference.setLocalHostMuteState .audio muted } := by
  unfold muteLocalHost
  simp only
  split
  · rename_i already
    rw [Bool.and_eq_true, beq_iff_eq] at already
    exact .inl ⟨rfl, already.1, already.2.symm⟩
  · right
    split
    · split
      · exact ⟨_, rfl⟩
      · split <;> exact ⟨_, rfl⟩
    · exact ⟨_, rfl⟩

theorem muteLocalHost_video_cases (room : Room α) (muted : Bool) :
    room.muteLocalHost muted .video = room ∨
      room.muteLocalHost muted .video = room.setLocalHostMuteState .video muted := by
  unfold muteLocalHost
  simp only
  split
  · exact .inl rfl
  · split
    · exact .inl rfl
    · exact .inr rfl

private theorem isHostMuted_setLocalHostMuteState {room : Room α} (muted : Bool)
    (attached : room.isAttached = true) (unmoderated : room.conference.isMuted hostId = false)
    (present : AudioPresent room.conference.hostSources) :
    (room.setLocalHostMuteState .audio muted).conference.isHostMuted = muted := by
  have stillAttached : (room.setLocalHostMuteState .audio muted).isAttached = true := attached
  rw [isHostMuted_of_attached stillAttached]
  change (_ || room.conference.isMuted hostId) = _
  rw [unmoderated, Bool.or_false]
  exact (present.audioState muted).any_silences

theorem muteLocalHost_audio_filterAgrees {room : Room α} (muted : Bool)
    (registered : room.Registered) (agrees : room.FilterAgrees)
    (controlled : room.isAttached = true → room.conference.isMuted hostId = false →
      AudioPresent room.conference.hostSources) :
    (room.muteLocalHost muted .audio).FilterAgrees := by
  unfold muteLocalHost
  simp only
  split
  · exact agrees
  · cases attached : room.isAttached with
    | false => exact filterAgrees_of_detached attached
    | true =>
      intro _
      cases moderated : room.conference.isMuted hostId with
      | true =>
        -- the report is "muted" before and after, the filter stays
        have reported : (room.setLocalHostMuteState .audio muted).conference.isHostMuted =
            true := Conference.isHostMuted_of_muted moderated
        intro participant member
        change room.pool.isMicMuted participant =
          (room.setLocalHostMuteState .audio muted).conference.isHostMuted
        rw [reported, agrees attached participant member]
        exact Conference.isHostMuted_of_muted moderated
      | false =>
        have reported := isHostMuted_setLocalHostMuteState muted attached moderated
          (controlled attached moderated)
        cases muted with
        | true =>
          change room.unbindHost.FilterIs
            (room.setLocalHostMuteState .audio true).conference.isHostMuted
          rw [reported]
          exact unbindHost_filterIs room
        | false =>
          change room.bindHost.FilterIs
            (room.setLocalHostMuteState .audio false).conference.isHostMuted
          rw [reported]
          exact bindHost_filterIs registered

theorem muteLocalHost_video_filterAgrees {room : Room α} (muted : Bool)
    (agrees : room.FilterAgrees) : (room.muteLocalHost muted .video).FilterAgrees := by
  rcases muteLocalHost_video_cases room muted with kept | changed
  · rw [kept]
    exact agrees
  · rw [changed]
    intro attached
    have wasAttached : room.isAttached = true := attached
    have before := agrees wasAttached
    rw [isHostMuted_of_attached wasAttached] at before
    rw [isHostMuted_of_attached attached]
    change room.FilterIs ((Conference.setMuteState .video muted _).any _ || _)
    rw [Conference.any_silences_setVideo]
    exact before

private theorem muteLocalPlayback_filterAgrees (room : Room α) (muted : Bool) :
    (room.muteLocalPlayback muted).FilterAgrees := by
  unfold muteLocalPlayback
  simp only
  split
  · intro _ participant member
    rw [RingBufferPool.isMicMuted_flush]
    exact playTo_filterIs (room.markLocalPlayback muted) muted _ participant member
  · rename_i detached
    exact filterAgrees_of_detached (Bool.eq_false_iff.mpr detached)

theorem attachLocalParticipant_filterAgrees {room : Room α} (registered : room.Registered)
    (agrees : room.FilterAgrees) : room.attachLocalParticipant.FilterAgrees := by
  unfold attachLocalParticipant
  split
  · intro _ participant member
    rw [RingBufferPool.isMicMuted_flush]
    have entered : (room.setState .activeAttached).Registered := registered
    exact attachTo_filterIs _ entered participant member
  · exact agrees

private theorem detachLocalParticipant_filterAgrees {room : Room α} (agrees : room.FilterAgrees) :
    (room.detachLocalParticipant platform).FilterAgrees := by
  unfold detachLocalParticipant
  split
  · exact filterAgrees_of_detached rfl
  · exact agrees

theorem muteLocalHost_calls (room : Room α) (muted : Bool) (mediaType : MediaType) :
    (room.muteLocalHost muted mediaType).calls = room.calls := by
  cases mediaType with
  | none => rfl
  | all => rfl
  | video =>
    rcases muteLocalHost_video_cases room muted with kept | changed
    · rw [kept]
    · rw [changed]
      rfl
  | audio =>
    rcases muteLocalHost_audio_cases room muted with ⟨kept, _⟩ | ⟨pool, changed⟩
    · rw [kept]
    · rw [changed]

/-- An attached host whose audio has one mute state, and a filter that agrees. -/
structure InStep (room : Room α) (muted : Bool) : Prop where
  attached : room.isAttached = true
  audio : AudioState room.conference.hostSources muted
  registered : room.Registered
  agrees : room.FilterAgrees

theorem InStep.withSources {room after : Room α} (inStep : InStep room state)
    (sources : List MediaAttribute)
    (conference : after.conference = { room.conference with hostSources := sources })
    (calls : after.calls = room.calls) (audio : AudioState sources muted)
    (agrees : after.FilterAgrees) : InStep after muted := by
  constructor
  · unfold isAttached
    rw [conference]
    exact inStep.attached
  · rw [conference]
    exact audio
  · unfold Registered hasCall
    rw [conference, calls]
    exact inStep.registered
  · exact agrees

theorem InStep.muteAudio {room : Room α} (inStep : InStep room state) (muted : Bool) :
    InStep (room.muteLocalHost muted .audio) muted := by
  have agrees := muteLocalHost_audio_filterAgrees muted inStep.registered inStep.agrees
    (fun _ _ => inStep.audio.1)
  have calls := muteLocalHost_calls room muted .audio
  rcases muteLocalHost_audio_cases room muted with ⟨kept, _, already⟩ | ⟨pool, changed⟩
  · rw [Conference.isMediaSourceMuted_of_attached ((isAttached_iff room).mp inStep.attached),
      inStep.audio.any_silences] at already
    rw [kept, ← already]
    exact inStep
  · have conference : (room.muteLocalHost muted .audio).conference =
        room.conference.setLocalHostMuteState .audio muted := congrArg Room.conference changed
    exact inStep.withSources _ conference calls (inStep.audio.1.audioState muted) agrees

theorem InStep.muteVideo {room : Room α} (inStep : InStep room state) (muted : Bool) :
    InStep (room.muteLocalHost muted .video) state := by
  have agrees := muteLocalHost_video_filterAgrees muted inStep.agrees
  have calls := muteLocalHost_calls room muted .video
  rcases muteLocalHost_video_cases room muted with kept | changed
  · rw [kept]
    exact inStep
  · have conference : (room.muteLocalHost muted .video).conference =
        room.conference.setLocalHostMuteState .video muted := congrArg Room.conference changed
    exact inStep.withSources _ conference calls (inStep.audio.setVideo muted) agrees

theorem InStep.requestAudio {room : Room α} {mediaAttr : MediaAttribute}
    (inStep : InStep room state) (audio : mediaAttr.type = .audio) :
    InStep (room.requestMedia platform mediaAttr).1 mediaAttr.muted := by
  unfold requestMedia
  simp only [audio, if_true]
  split
  · exact inStep.muteAudio mediaAttr.muted
  · rename_i unchanged
    cases found : room.oldSource mediaAttr with
    | none =>
      rw [found] at unchanged
      exact absurd rfl unchanged
    | some old =>
      rw [found] at unchanged
      have same : mediaAttr.muted = old.muted := by simpa [muteDiffers] using unchanged
      have member := List.mem_of_find?_eq_some found
      have matching := List.find?_some found
      simp only [Bool.and_eq_true, decide_eq_true_eq] at matching
      have before := inStep.audio.2 old member (matching.2.trans audio)
      rw [same, before]
      exact inStep

theorem InStep.requestOther {room : Room α} {mediaAttr : MediaAttribute}
    (inStep : InStep room state) (other : mediaAttr.type ≠ .audio) :
    InStep (room.requestMedia platform mediaAttr).1 state := by
  unfold requestMedia
  simp only [other, if_false]
  split
  · exact inStep.muteVideo mediaAttr.muted
  · exact inStep

theorem InStep.requestMediaLoop (mediaAttrList : List MediaAttribute) {room : Room α}
    (inStep : InStep room state)
    (same : ∀ mediaAttr ∈ mediaAttrList, mediaAttr.type = .audio → mediaAttr.muted = muted)
    (reached : state = muted ∨ ∃ mediaAttr ∈ mediaAttrList, mediaAttr.type = .audio) :
    InStep (room.requestMediaLoop platform mediaAttrList).1 muted := by
  induction mediaAttrList generalizing room state with
  | nil =>
    rcases reached with already | ⟨_, member, _⟩
    · exact already ▸ inStep
    · cases member
  | cons mediaAttr later ih =>
    have laterSame : ∀ other ∈ later, other.type = .audio → other.muted = muted :=
      fun other member => same other (List.mem_cons_of_mem mediaAttr member)
    by_cases audio : mediaAttr.type = .audio
    · have own := same mediaAttr List.mem_cons_self audio
      exact ih (inStep.requestAudio platform audio) laterSame (.inl own)
    · refine ih (inStep.requestOther platform audio) laterSame ?_
      rcases reached with already | ⟨other, member, otherAudio⟩
      · exact .inl already
      · rcases List.mem_cons.mp member with here | there
        · exact absurd (here ▸ otherAudio) audio
        · exact .inr ⟨other, there, otherAudio⟩

private theorem requestMediaLoop_kinds (room : Room α) (mediaAttrList : List MediaAttribute) :
    (room.requestMediaLoop platform mediaAttrList).2.map (fun source => (source.type, source.muted)) =
      mediaAttrList.map (fun source => (source.type, source.muted)) := by
  induction mediaAttrList generalizing room with
  | nil => rfl
  | cons mediaAttr later ih =>
    have own : ((placeSource platform (room.oldSource mediaAttr) mediaAttr).type,
        (placeSource platform (room.oldSource mediaAttr) mediaAttr).muted) =
        (mediaAttr.type, mediaAttr.muted) := by
      unfold placeSource
      split <;> rfl
    change (_, _) :: List.map _ (requestMediaLoop platform _ later).2 = _
    rw [ih]
    exact congrArg (· :: _) own

private theorem requestMediaChange_filterAgrees {room : Room α} (mediaList : List MediaMap)
    (registered : room.Registered) (agrees : room.FilterAgrees)
    (controlled : room.isAttached = true → AudioUniform room.conference.hostSources ∧
      AudioUniform (MediaAttribute.buildMediaAttributesList mediaList false)) :
    (room.requestMediaChange platform mediaList).2.FilterAgrees := by
  unfold requestMediaChange
  split
  · rename_i attached
    obtain ⟨⟨state, hostAudio⟩, muted, listAudio⟩ := controlled attached
    have inStep : InStep room state := ⟨attached, hostAudio, registered, agrees⟩
    have final := inStep.requestMediaLoop platform _ listAudio.2 (Or.inr listAudio.1.1)
    have placed := listAudio.of_kinds (requestMediaLoop_kinds platform room _)
    have before := final.agrees final.attached
    rw [isHostMuted_of_attached final.attached, final.audio.any_silences] at before
    intro stillAttached
    rw [isHostMuted_of_attached stillAttached]
    rw [placed.any_silences]
    exact before
  · exact agrees

theorem Registered.of_kept {before after : Room α} (registered : before.Registered)
    (participants : after.conference.participants = before.conference.participants)
    (calls : after.calls = before.calls) : after.Registered := by
  unfold Registered hasCall
  rw [participants, calls]
  exact registered

theorem Registered.after_quiet {before after : Room α} (registered : before.Registered)
    (quietStep : QuietStep before after) (calls : after.calls = before.calls) : after.Registered :=
  registered.of_kept quietStep.participants calls

section

variable (room : Room α)

theorem muteHost_calls (state : Bool) : (room.muteHost state).calls = room.calls := by
  unfold muteHost
  simp only
  split
  · split <;> rfl
  · split
    · split <;> rfl
    · rfl

theorem bindParticipant_calls (participantId : String) :
    (room.bindParticipant participantId).calls = room.calls := by
  unfold bindParticipant
  split <;> rfl

private theorem muteLocalPlayback_calls (muted : Bool) :
    (room.muteLocalPlayback muted).calls = room.calls := by
  unfold muteLocalPlayback
  simp only
  split <;> rfl

theorem attachLocalParticipant_calls : room.attachLocalParticipant.calls = room.calls := by
  unfold attachLocalParticipant
  split <;> rfl

theorem detachLocalParticipant_calls :
    (room.detachLocalParticipant platform).calls = room.calls := by
  unfold detachLocalParticipant
  split <;> rfl

private theorem requestMediaLoop_calls (mediaAttrList : List MediaAttribute) :
    (room.requestMediaLoop platform mediaAttrList).1.calls = room.calls := by
  induction mediaAttrList generalizing room with
  | nil => rfl
  | cons mediaAttr later ih =>
    change (requestMediaLoop platform (room.requestMedia platform mediaAttr).1 later).1.calls = _
    rw [ih]
    unfold requestMedia
    simp only
    split
    · exact muteLocalHost_calls room mediaAttr.muted _
    · rfl

private theorem requestMediaChange_calls (mediaList : List MediaMap) :
    (room.requestMediaChange platform mediaList).2.calls = room.calls := by
  unfold requestMediaChange
  split
  · exact requestMediaLoop_calls platform room _
  · rfl

end

private theorem addParticipant_registered {room : Room α} {participantId : String}
    (registered : room.Registered) (present : room.hasCall participantId = true)
    (detached : room.isAttached = false) :
    (room.addParticipant platform participantId).Registered ∧
      (room.addParticipant platform participantId).isAttached = false := by
  unfold addParticipant
  split
  · exact ⟨registered, detached⟩
  · cases found : room.calls.find? participantId with
    | none =>
      unfold hasCall AssocMap.contains at present
      rw [found] at present
      cases present
    | some call =>
      simp only
      obtain ⟨sources, taken⟩ := takeOverMediaSourceControl_eq platform
        (if call.peerMuted then (room.insertParticipant participantId).setMuted participantId true
          else room.insertParticipant participantId) participantId
      rw [taken]
      constructor
      · intro participant member
        have joined : participant = participantId ∨ participant ∈ room.conference.participants := by
          simp only [enterConference, filterPlayback_conference] at member
          split at member <;> exact List.mem_insert_iff.mp member
        unfold hasCall enterConference
        simp only [AssocMap.contains_modify]
        unfold filterPlayback
        have known : room.calls.contains participant = true := by
          rcases joined with same | before
          · rw [same]
            exact present
          · exact registered participant before
        split <;> (split <;> exact known)
      · unfold isAttached enterConference
        simp only [filterPlayback_conference]
        split <;> exact detached

/-! ### Whole runs -/

instance (room : Room α) : Decidable room.Registered :=
  inferInstanceAs (Decidable (∀ participant ∈ room.conference.participants,
    room.hasCall participant = true))

instance (room : Room α) (muted : Bool) : Decidable (room.FilterIs muted) :=
  inferInstanceAs (Decidable (∀ participant ∈ room.conference.participants,
    room.pool.isMicMuted participant = muted))

instance (room : Room α) : Decidable room.FilterAgrees :=
  inferInstanceAs (Decidable (room.isAttached = true → room.FilterIs room.conference.isHostMuted))

/-- While the host is attached, the mute of its audio needs an audio source to
note it in, and a new list of sources one mute state for its audio before and
after. Joins and default sources belong before the host attaches. -/
def KeepsFilter (room : Room α) : Operation → Prop
  | .addParticipant participantId =>
    participantId ∈ room.conference.participants ∨
      room.isAttached = false ∧ room.hasCall participantId = true
  | .muteCall callId _ => callId ≠ hostId
  | .muteLocalHost _ mediaType =>
    mediaType = .audio → room.isAttached = true → room.conference.isMuted hostId = false →
      AudioPresent room.conference.hostSources
  | .requestMediaChange mediaList =>
    room.isAttached = true → AudioUniform room.conference.hostSources ∧
      AudioUniform (MediaAttribute.buildMediaAttributesList mediaList false)
  | .setLocalHostDefaultMediaSource _ _ => room.isAttached = false
  | .callsChanged calls =>
    ∀ participant ∈ room.conference.participants, calls.contains participant = true
  | _ => True

instance (room : Room α) (operation : Operation) : Decidable (room.KeepsFilter operation) :=
  match operation with
  | .addParticipant _ => inferInstanceAs (Decidable (_ ∨ _ ∧ _))
  | .muteCall _ _ => inferInstanceAs (Decidable (_ ≠ _))
  | .muteLocalHost _ _ => inferInstanceAs (Decidable (_ → _ → _ → _))
  | .requestMediaChange _ => inferInstanceAs (Decidable (_ → _ ∧ _))
  | .setLocalHostDefaultMediaSource _ _ => inferInstanceAs (Decidable (_ = _))
  | .callsChanged calls =>
    inferInstanceAs (Decidable (∀ participant ∈ room.conference.participants,
      calls.contains participant = true))
  | .bindParticipant _ | .muteHost _ | .muteLocalPlayback _ | .attachLocalParticipant
  | .detachLocalParticipant | .createRingBuffer _ => isTrue trivial

private theorem muteCall_filterAgrees {room : Room α} {callId : String} (state : Bool)
    (notHost : callId ≠ hostId) (agrees : room.FilterAgrees) :
    (room.muteCall callId state).FilterAgrees := by
  have marked (muted : Bool) : (room.setMuted callId muted).FilterAgrees := by
    intro attached participant member
    have wasAttached : room.isAttached = true := attached
    have before := agrees wasAttached participant member
    rw [isHostMuted_of_attached wasAttached] at before
    rw [isHostMuted_of_attached attached, isMuted_setMuted, if_neg notHost.symm]
    exact before
  unfold muteCall
  simp only
  split
  · intro attached participant member
    change RingBufferPool.isMicMuted (RingBufferPool.unBindAllHalfDuplexOut _ _) _ = _
    rw [RingBufferPool.isMicMuted_unBindAllHalfDuplexOut]
    exact marked true attached participant member
  · split
    · exact bindParticipant_filterAgrees callId (marked false)
    · exact agrees

private theorem muteCall_registered {room : Room α} (callId : String) (state : Bool)
    (registered : room.Registered) : (room.muteCall callId state).Registered := by
  unfold muteCall
  simp only
  split
  · exact registered
  · split
    · apply registered.of_kept
      · rw [bindParticipant_conference]
        rfl
      · rw [bindParticipant_calls]
        rfl
    · exact registered

private theorem step_filterAgrees (room : Room α) (operation : Operation)
    (invariant : room.Registered ∧ room.FilterAgrees) (admissible : room.KeepsFilter operation) :
    (room.step platform operation).Registered ∧ (room.step platform operation).FilterAgrees := by
  obtain ⟨registered, agrees⟩ := invariant
  cases operation with
  | addParticipant participantId =>
    rcases admissible with already | ⟨detached, present⟩
    · have kept : room.step platform (.addParticipant participantId) = room := by
        change room.addParticipant platform participantId = room
        unfold addParticipant
        rw [if_pos already]
      rw [kept]
      exact ⟨registered, agrees⟩
    · have joined := addParticipant_registered platform registered present detached
      exact ⟨joined.1, filterAgrees_of_detached joined.2⟩
  | bindParticipant participantId =>
    constructor
    · refine registered.of_kept ?_ (bindParticipant_calls room participantId)
      change (room.bindParticipant participantId).conference.participants = _
      rw [bindParticipant_conference]
    · exact bindParticipant_filterAgrees participantId agrees
  | muteCall callId state =>
    exact ⟨muteCall_registered callId state registered,
      muteCall_filterAgrees state admissible agrees⟩
  | muteHost state =>
    exact ⟨registered.after_quiet (muteHost_quietStep room state) (muteHost_calls room state),
      muteHost_filterAgrees state registered agrees⟩
  | muteLocalHost muted mediaType =>
    constructor
    · exact registered.after_quiet (muteLocalHost_quietStep room muted mediaType)
        (muteLocalHost_calls room muted mediaType)
    · cases mediaType with
      | none => exact agrees
      | all => exact agrees
      | video => exact muteLocalHost_video_filterAgrees muted agrees
      | audio => exact muteLocalHost_audio_filterAgrees muted registered agrees (admissible rfl)
  | muteLocalPlayback muted =>
    exact ⟨registered.after_quiet (muteLocalPlayback_quietStep room muted)
      (muteLocalPlayback_calls room muted), muteLocalPlayback_filterAgrees room muted⟩
  | attachLocalParticipant =>
    exact ⟨registered.after_quiet (attachLocalParticipant_quietStep room)
      (attachLocalParticipant_calls room), attachLocalParticipant_filterAgrees registered agrees⟩
  | detachLocalParticipant =>
    exact ⟨registered.after_quiet (detachLocalParticipant_quietStep platform room)
      (detachLocalParticipant_calls platform room),
      detachLocalParticipant_filterAgrees platform agrees⟩
  | requestMediaChange mediaList =>
    exact ⟨registered.after_quiet (requestMediaChange_quietStep platform room mediaList)
      (requestMediaChange_calls platform room mediaList),
      requestMediaChange_filterAgrees platform mediaList registered agrees admissible⟩
  | setLocalHostDefaultMediaSource addVideo source =>
    exact ⟨registered, filterAgrees_of_detached admissible⟩
  | callsChanged calls => exact ⟨admissible, agrees⟩
  | createRingBuffer id => exact ⟨registered, agrees⟩

/-- Along every run whose steps meet the guard, the filter of every participant is
set exactly if the conference reports the host's audio as muted. -/
theorem mic_filter_agrees_of_guarded (platform : Platform) (start : Room α)
    (operations : List Operation) (registered : start.Registered) (agrees : start.FilterAgrees)
    (guarded : Run.Guarded (step platform) KeepsFilter start operations) :
    Run.Always (step platform) FilterAgrees start operations :=
  (Run.always_of_guarded (step_filterAgrees platform) ⟨registered, agrees⟩ guarded).imp
    (fun _ invariant => invariant.2)

def attachOne : List Operation :=
  [.addParticipant "a", .bindParticipant "a", .setLocalHostDefaultMediaSource false "",
    .attachLocalParticipant]

/-- The host mutes itself, is muted by a moderator, and unmutes by a new list. -/
theorem mic_filter_agrees_through_mutes :
    Run.Always (step SIPCall.plainPlatform) FilterAgrees (freshRoom [("a", {})])
      (attachOne ++ [.muteLocalHost true .audio, .muteHost true, .muteHost false,
        .requestMediaChange
          [MediaAttribute.toMediaMap { type := .audio, enabled := true },
            MediaAttribute.toMediaMap { type := .video, enabled := true }]]) :=
  mic_filter_agrees_of_guarded _ _ _ (by decide) (by decide) (by decide)

/-- The host mutes its audio and then asks for video alone: the conference no
longer reports it as muted, but the filter stays. -/
theorem mic_filter_differs_without_audio_source :
    ¬ Run.Always (step SIPCall.plainPlatform) FilterAgrees (freshRoom [("a", {})])
      (attachOne ++ [.muteLocalHost true .audio,
        .requestMediaChange [MediaAttribute.toMediaMap { type := .video, enabled := true }]]) := by
  decide

end Room

end SipCore
