/-
What becomes of the host's mute when the host leaves the conference and comes back.
Attaching computes the microphone filter from the flags of the host's sources;
detaching, and setting up the default sources, replaces them by unmuted ones.
-/

import SipCore.Conference.HostMute

namespace SipCore.Room

open Conference (hostId)

variable {α : Type}

inductive MuteRequest where
  | muteLocalHost
  | muteHost
  deriving DecidableEq, Repr

def requestMute (room : Room α) : MuteRequest → Room α
  | .muteLocalHost => room.muteLocalHost true .audio
  | .muteHost => room.muteHost true

inductive HostOperation where
  | detachLocalParticipant
  | setLocalHostDefaultMediaSource (addVideo : Bool) (source : String)
  | attachLocalParticipant
  deriving DecidableEq, Repr

def HostOperation.isDetach : HostOperation → Bool
  | .detachLocalParticipant => true
  | _ => false

def HostOperation.isAttach : HostOperation → Bool
  | .attachLocalParticipant => true
  | _ => false

def HostOperation.isDefaultSource : HostOperation → Bool
  | .setLocalHostDefaultMediaSource _ _ => true
  | _ => false

def hostStep (platform : Platform) (room : Room α) : HostOperation → Room α
  | .detachLocalParticipant => room.detachLocalParticipant platform
  | .setLocalHostDefaultMediaSource addVideo source =>
    room.setLocalHostDefaultMediaSource platform addVideo source
  | .attachLocalParticipant => room.attachLocalParticipant

/-- When the mute survives: it is a moderator's; or the host is attached and is
never detached; or it is detached with an audio source to note the mute in, comes
back before the default sources are set, and then stays. -/
def KeepsMute (room : Room α) (request : MuteRequest) (operations : List HostOperation) : Prop :=
  request = .muteHost ∨ room.conference.isMuted hostId = true ∨
    room.isAttached = true ∧ operations.all (fun operation => !operation.isDetach) = true ∨
    room.isAttached = false ∧
      (∃ source ∈ room.conference.hostSources, source.type = .audio ∨ source.type = .none) ∧
      (operations.takeWhile (fun operation => !operation.isAttach)).all
        (fun operation => !operation.isDefaultSource) = true ∧
      (operations.dropWhile (fun operation => !operation.isAttach)).all
        (fun operation => !operation.isDetach) = true

instance (room : Room α) (request : MuteRequest) (operations : List HostOperation) :
    Decidable (room.KeepsMute request operations) :=
  inferInstanceAs (Decidable (_ ∨ _ ∨ _ ∨ _))

theorem hostStep_participants (platform : Platform) (room : Room α) (operation : HostOperation) :
    (room.hostStep platform operation).conference.participants = room.conference.participants := by
  cases operation with
  | detachLocalParticipant => exact (detachLocalParticipant_quietStep platform room).participants
  | setLocalHostDefaultMediaSource addVideo source => rfl
  | attachLocalParticipant => exact (attachLocalParticipant_quietStep room).participants

variable {room : Room α}

theorem hostStep_registered (platform : Platform) (operation : HostOperation)
    (registered : room.Registered) : (room.hostStep platform operation).Registered := by
  apply registered.of_kept (hostStep_participants platform room operation)
  cases operation with
  | detachLocalParticipant => exact detachLocalParticipant_calls platform room
  | setLocalHostDefaultMediaSource addVideo source => rfl
  | attachLocalParticipant => exact attachLocalParticipant_calls room

theorem hostStep_isMuted (platform : Platform) (room : Room α) (operation : HostOperation)
    (id : String) :
    (room.hostStep platform operation).conference.isMuted id = room.conference.isMuted id := by
  cases operation with
  | detachLocalParticipant =>
    change (room.detachLocalParticipant platform).conference.isMuted id = _
    unfold detachLocalParticipant
    split <;> rfl
  | setLocalHostDefaultMediaSource addVideo source => rfl
  | attachLocalParticipant =>
    change room.attachLocalParticipant.conference.isMuted id = _
    unfold attachLocalParticipant
    split <;> rfl

theorem attachLocalParticipant_isAttached (detached : room.conference.confState = .activeDetached) :
    room.attachLocalParticipant.isAttached = true := by
  unfold attachLocalParticipant
  rw [if_pos detached]
  rfl

@[simp] theorem attachLocalParticipant_hostSources (room : Room α) :
    room.attachLocalParticipant.conference.hostSources = room.conference.hostSources := by
  unfold attachLocalParticipant
  split <;> rfl

theorem attachLocalParticipant_filterIs (registered : room.Registered)
    (detached : room.conference.confState = .activeDetached) :
    room.attachLocalParticipant.FilterIs
      (room.conference.hostSources.any (Conference.silences .audio) ||
        room.conference.isMuted hostId) := by
  have attached := attachLocalParticipant_isAttached detached
  have agrees := attachLocalParticipant_filterAgrees registered
    (filterAgrees_of_detached (by unfold isAttached; rw [detached]; rfl)) attached
  unfold attachLocalParticipant at agrees ⊢
  rw [if_pos detached] at agrees ⊢
  exact agrees

structure Moderated (room : Room α) : Prop where
  registered : room.Registered
  muted : room.conference.isMuted hostId = true
  filtered : room.isAttached = true → room.FilterIs true

structure Opened (room : Room α) : Prop where
  registered : room.Registered
  unmuted : room.conference.isMuted hostId = false
  sources : room.conference.hostSources.any (Conference.silences .audio) = false
  filtered : room.isAttached = true → room.FilterIs false

theorem detached_of_detach (platform : Platform) (attached : room.isAttached = true) :
    (room.detachLocalParticipant platform).isAttached = false ∧
      (room.detachLocalParticipant platform).conference.hostSources =
        [Conference.defaultAudioSource] := by
  unfold detachLocalParticipant
  rw [if_pos attached]
  refine ⟨rfl, ?_⟩
  unfold setState setLocalHostDefaultMediaSource Conference.setLocalHostDefaultMediaSource
  simp

theorem detach_of_not_attached (platform : Platform) (detached : room.isAttached = false) :
    room.detachLocalParticipant platform = room := by
  unfold detachLocalParticipant
  simp [detached]

theorem attach_of_not_detached (elsewhere : room.conference.confState ≠ .activeDetached) :
    room.attachLocalParticipant = room := by
  unfold attachLocalParticipant
  rw [if_neg elsewhere]

section

variable (platform : Platform)

private theorem any_silences_default (conference : Conference) (addVideo : Bool) (source : String) :
    (conference.setLocalHostDefaultMediaSource platform addVideo source).hostSources.any
      (Conference.silences .audio) = false := by
  unfold Conference.setLocalHostDefaultMediaSource
  split <;> rfl

theorem hostStep_moderated (room : Room α) (operation : HostOperation) (moderated : room.Moderated) :
    (room.hostStep platform operation).Moderated := by
  refine ⟨hostStep_registered platform operation moderated.registered, ?_, ?_⟩
  · rw [hostStep_isMuted]
    exact moderated.muted
  · cases operation with
    | setLocalHostDefaultMediaSource addVideo source => exact moderated.filtered
    | detachLocalParticipant =>
      cases attached : room.isAttached with
      | true =>
        intro still
        change (room.detachLocalParticipant platform).isAttached = true at still
        rw [(detached_of_detach platform attached).1] at still
        cases still
      | false =>
        change (room.detachLocalParticipant platform).isAttached = true →
          (room.detachLocalParticipant platform).FilterIs true
        rw [detach_of_not_attached platform attached]
        exact moderated.filtered
    | attachLocalParticipant =>
      change room.attachLocalParticipant.isAttached = true → room.attachLocalParticipant.FilterIs _
      by_cases detached : room.conference.confState = .activeDetached
      · intro _
        have filtered := attachLocalParticipant_filterIs moderated.registered detached
        rw [moderated.muted, Bool.or_true] at filtered
        exact filtered
      · rw [attach_of_not_detached detached]
        exact moderated.filtered

theorem opened_after_detach (registered : room.Registered)
    (unmuted : room.conference.isMuted hostId = false) (attached : room.isAttached = true) :
    (room.hostStep platform .detachLocalParticipant).Opened := by
  have detached := detached_of_detach platform attached
  constructor
  · exact hostStep_registered platform _ registered
  · rw [hostStep_isMuted]
    exact unmuted
  · change (room.detachLocalParticipant platform).conference.hostSources.any _ = false
    rw [detached.2]
    rfl
  · intro still
    change (room.detachLocalParticipant platform).isAttached = true at still
    rw [detached.1] at still
    cases still

theorem opened_after_default (addVideo : Bool) (source : String) (registered : room.Registered)
    (unmuted : room.conference.isMuted hostId = false)
    (filtered : room.isAttached = true → room.FilterIs false) :
    (room.hostStep platform (.setLocalHostDefaultMediaSource addVideo source)).Opened :=
  ⟨registered, unmuted, any_silences_default platform _ addVideo source, filtered⟩

theorem opened_after_attach (registered : room.Registered)
    (unmuted : room.conference.isMuted hostId = false)
    (sources : room.conference.hostSources.any (Conference.silences .audio) = false)
    (detached : room.conference.confState = .activeDetached) :
    (room.hostStep platform .attachLocalParticipant).Opened := by
  have filtered := attachLocalParticipant_filterIs registered detached
  rw [sources, unmuted] at filtered
  constructor
  · exact hostStep_registered platform _ registered
  · rw [hostStep_isMuted]
    exact unmuted
  · change room.attachLocalParticipant.conference.hostSources.any _ = false
    rw [attachLocalParticipant_hostSources]
    exact sources
  · intro _
    exact filtered

private theorem hostStep_opened (room : Room α) (operation : HostOperation) (opened : room.Opened) :
    (room.hostStep platform operation).Opened := by
  cases operation with
  | setLocalHostDefaultMediaSource addVideo source =>
    exact opened_after_default platform addVideo source opened.registered opened.unmuted
      opened.filtered
  | detachLocalParticipant =>
    cases attached : room.isAttached with
    | true => exact opened_after_detach platform opened.registered opened.unmuted attached
    | false =>
      change (room.detachLocalParticipant platform).Opened
      rw [detach_of_not_attached platform attached]
      exact opened
  | attachLocalParticipant =>
    by_cases detached : room.conference.confState = .activeDetached
    · exact opened_after_attach platform opened.registered opened.unmuted opened.sources detached
    · change room.attachLocalParticipant.Opened
      rw [attach_of_not_detached detached]
      exact opened

end

/-! ### Whole runs -/

section

variable (platform : Platform)

private theorem after_participants (room : Room α) (operations : List HostOperation) :
    (Run.after (hostStep platform) room operations).conference.participants =
      room.conference.participants :=
  Run.after_keeps (hostStep platform) (fun room : Room α => room.conference.participants)
    (hostStep_participants platform) room operations

theorem opened_filterIs_iff (opened : room.Opened) (operations : List HostOperation)
    (ends : (Run.after (hostStep platform) room operations).isAttached = true) :
    (Run.after (hostStep platform) room operations).FilterIs true ↔
      room.conference.participants = [] := by
  have final : (Run.after (hostStep platform) room operations).Opened :=
    (Run.always_of_preserved (hostStep_opened platform) opened operations).last
  have unfiltered := final.filtered ends
  unfold FilterIs at unfiltered ⊢
  rw [after_participants] at unfiltered ⊢
  constructor
  · intro filtered
    cases participants : room.conference.participants with
    | nil => rfl
    | cons participant others =>
      have member : participant ∈ room.conference.participants := by
        rw [participants]
        exact List.mem_cons_self
      have impossible := (filtered participant member).symm.trans (unfiltered participant member)
      cases impossible
  · intro empty participant member
    rw [empty] at member
    cases member

theorem attached_filterIs_iff (registered : room.Registered)
    (unmuted : room.conference.isMuted hostId = false) (attached : room.isAttached = true)
    (filtered : room.FilterIs true) (operations : List HostOperation)
    (ends : (Run.after (hostStep platform) room operations).isAttached = true) :
    (Run.after (hostStep platform) room operations).FilterIs true ↔
      room.conference.participants = [] ∨
        operations.all (fun operation => !operation.isDetach) = true := by
  induction operations generalizing room with
  | nil => exact iff_of_true filtered (.inr rfl)
  | cons operation later ih =>
    cases operation with
    | detachLocalParticipant =>
      have opened := opened_after_detach platform registered unmuted attached
      have never : ¬ ((HostOperation.detachLocalParticipant :: later).all
          (fun operation => !operation.isDetach) = true) := by
        simp [HostOperation.isDetach]
      rw [Run.after_cons, opened_filterIs_iff platform opened later ends,
        hostStep_participants, or_iff_left never]
    | setLocalHostDefaultMediaSource addVideo source =>
      exact @ih (room.setLocalHostDefaultMediaSource platform addVideo source)
        registered unmuted attached filtered ends
    | attachLocalParticipant =>
      have stays : room.hostStep platform .attachLocalParticipant = room := by
        apply attach_of_not_detached
        rw [(isAttached_iff room).mp attached]
        decide
      rw [Run.after_cons, stays] at ends ⊢
      exact ih registered unmuted attached filtered ends

private theorem attached_again_filterIs_iff (registered : room.Registered)
    (unmuted : room.conference.isMuted hostId = false)
    (detached : room.conference.confState = .activeDetached) (later : List HostOperation)
    (ends : (Run.after (hostStep platform) (room.hostStep platform .attachLocalParticipant)
      later).isAttached = true) :
    (Run.after (hostStep platform) (room.hostStep platform .attachLocalParticipant)
        later).FilterIs true ↔
      room.conference.participants = [] ∨
        room.conference.hostSources.any (Conference.silences .audio) = true ∧
        later.all (fun operation => !operation.isDetach) = true := by
  cases silenced : room.conference.hostSources.any (Conference.silences .audio) with
  | true =>
    have stillUnmuted := (hostStep_isMuted platform room .attachLocalParticipant hostId).trans unmuted
    have filtered := attachLocalParticipant_filterIs registered detached
    rw [silenced] at filtered
    rw [attached_filterIs_iff platform (hostStep_registered platform _ registered) stillUnmuted
      (attachLocalParticipant_isAttached detached) filtered later ends, hostStep_participants]
    simp
  | false =>
    have opened := opened_after_attach platform registered unmuted silenced detached
    rw [opened_filterIs_iff platform opened later ends, hostStep_participants]
    simp

def OnHold (room : Room α) : Prop := room.conference.confState = .hold

theorem hostStep_onHold (room : Room α) (operation : HostOperation) (onHold : room.OnHold) :
    (room.hostStep platform operation).OnHold := by
  have notAttached : room.isAttached = false := by
    unfold isAttached
    rw [onHold]
    rfl
  cases operation with
  | detachLocalParticipant =>
    change (room.detachLocalParticipant platform).OnHold
    rw [detach_of_not_attached platform notAttached]
    exact onHold
  | setLocalHostDefaultMediaSource addVideo source => exact onHold
  | attachLocalParticipant =>
    change room.attachLocalParticipant.OnHold
    rw [attach_of_not_detached (by rw [onHold]; decide)]
    exact onHold

private theorem not_attached_after_hold (onHold : room.OnHold) (operations : List HostOperation) :
    (Run.after (hostStep platform) room operations).isAttached = false := by
  have final : (Run.after (hostStep platform) room operations).OnHold :=
    (Run.always_of_preserved (hostStep_onHold platform) onHold operations).last
  unfold isAttached
  rw [final]
  rfl

/-- From a detached host: the first attachment decides by the sources of that
moment, and from then on the host must not leave. -/
theorem detached_filterIs_iff (registered : room.Registered)
    (unmuted : room.conference.isMuted hostId = false) (detached : room.isAttached = false)
    (operations : List HostOperation)
    (ends : (Run.after (hostStep platform) room operations).isAttached = true) :
    (Run.after (hostStep platform) room operations).FilterIs true ↔
      room.conference.participants = [] ∨
        room.conference.hostSources.any (Conference.silences .audio) = true ∧
        (operations.takeWhile (fun operation => !operation.isAttach)).all
          (fun operation => !operation.isDefaultSource) = true ∧
        (operations.dropWhile (fun operation => !operation.isAttach)).all
          (fun operation => !operation.isDetach) = true := by
  induction operations with
  | nil =>
    rw [Run.after_nil, detached] at ends
    cases ends
  | cons operation later ih =>
    cases operation with
    | detachLocalParticipant =>
      have stays : room.hostStep platform .detachLocalParticipant = room :=
        detach_of_not_attached platform detached
      rw [Run.after_cons, stays] at ends ⊢
      rw [ih ends]
      rfl
    | setLocalHostDefaultMediaSource addVideo source =>
      have opened := opened_after_default platform addVideo source registered unmuted
        (by rw [detached]; intro attached; cases attached)
      rw [Run.after_cons, opened_filterIs_iff platform opened later ends]
      apply (or_iff_left _).symm
      rintro ⟨_, early, _⟩
      cases early
    | attachLocalParticipant =>
      rw [Run.after_cons] at ends ⊢
      cases confState : room.conference.confState with
      | activeAttached =>
        rw [(isAttached_iff room).mpr confState] at detached
        cases detached
      | hold =>
        have onHold := hostStep_onHold platform room .attachLocalParticipant confState
        rw [not_attached_after_hold platform onHold later] at ends
        cases ends
      | activeDetached =>
        rw [attached_again_filterIs_iff platform registered unmuted confState later ends]
        simp [HostOperation.isAttach, HostOperation.isDetach]

end

theorem requestMute_registered (request : MuteRequest) (registered : room.Registered) :
    (room.requestMute request).Registered := by
  cases request with
  | muteLocalHost =>
    exact registered.after_quiet (muteLocalHost_quietStep room true .audio)
      (muteLocalHost_calls room true .audio)
  | muteHost =>
    exact registered.after_quiet (muteHost_quietStep room true) (muteHost_calls room true)

theorem muteHost_isMuted (room : Room α) : (room.muteHost true).conference.isMuted hostId = true := by
  have marked : (room.setMuted hostId true).conference.isMuted hostId = true := by
    rw [isMuted_setMuted, if_pos rfl]
  unfold muteHost
  cases already : room.conference.isMuted hostId with
  | true => exact already
  | false =>
    simp only [Bool.not_false, Bool.and_self, if_true]
    split <;> exact marked

private theorem muteHost_moderated (registered : room.Registered) (agrees : room.FilterAgrees) :
    (room.requestMute .muteHost).Moderated := by
  refine ⟨requestMute_registered .muteHost registered, muteHost_isMuted room, ?_⟩
  intro attached
  have after := muteHost_filterAgrees true registered agrees attached
  rw [Conference.isHostMuted_of_muted (muteHost_isMuted room)] at after
  exact after

theorem muteLocalHost_isMuted (room : Room α) (muted : Bool) (id : String) :
    (room.muteLocalHost muted .audio).conference.isMuted id = room.conference.isMuted id := by
  rcases muteLocalHost_audio_cases room muted with ⟨kept, _⟩ | ⟨pool, changed⟩
  · rw [kept]
  · rw [changed]
    rfl

private theorem muteLocalHost_moderated (registered : room.Registered) (agrees : room.FilterAgrees)
    (moderated : room.conference.isMuted hostId = true) :
    (room.requestMute .muteLocalHost).Moderated := by
  have stillMuted : (room.muteLocalHost true .audio).conference.isMuted hostId = true := by
    rw [muteLocalHost_isMuted]
    exact moderated
  refine ⟨requestMute_registered .muteLocalHost registered, stillMuted, ?_⟩
  intro attached
  have after := muteLocalHost_audio_filterAgrees true registered agrees
    (fun _ unmuted => by rw [moderated] at unmuted; cases unmuted) attached
  rw [Conference.isHostMuted_of_muted stillMuted] at after
  exact after

theorem muteLocalHost_attached (agrees : room.FilterAgrees) (attached : room.isAttached = true)
    (unmuted : room.conference.isMuted hostId = false) :
    (room.muteLocalHost true .audio).isAttached = true ∧
      (room.muteLocalHost true .audio).FilterIs true := by
  unfold muteLocalHost
  simp only [attached, unmuted, Bool.true_and, if_true]
  split
  · rename_i already
    have reported : room.conference.isHostMuted = true :=
      Conference.isHostMuted_of_source (beq_iff_eq.mp already).symm
    exact ⟨attached, reported ▸ agrees attached⟩
  · exact ⟨attached, unbindHost_filterIs room⟩

private theorem muteLocalHost_detached (detached : room.isAttached = false) :
    (room.muteLocalHost true .audio).isAttached = false ∧
      ((room.muteLocalHost true .audio).conference.hostSources.any
          (Conference.silences .audio) = true ↔
        ∃ source ∈ room.conference.hostSources, source.type = .audio ∨ source.type = .none) := by
  unfold muteLocalHost
  simp only [detached, Bool.false_and, Bool.false_eq_true, if_false]
  refine ⟨detached, ?_⟩
  change (Conference.setMuteState .audio true room.conference.hostSources).any _ = true ↔ _
  unfold Conference.setMuteState
  rw [List.any_map, List.any_eq_true]
  apply exists_congr
  intro source
  apply and_congr_right
  intro _
  by_cases audio : source.type = .audio
  · simp [audio, Conference.silences]
  · simp [audio, Conference.silences]

/-- After a request to mute, and whatever hosts do on hold and back, an attached
host is filtered for every participant exactly if the mute was kept. -/
theorem host_mute_survives_iff (platform : Platform) (room : Room α) (request : MuteRequest)
    (operations : List HostOperation) (registered : room.Registered) (agrees : room.FilterAgrees)
    (ends : (Run.after (hostStep platform) (room.requestMute request) operations).isAttached =
      true) :
    (Run.after (hostStep platform) (room.requestMute request) operations).FilterIs true ↔
      room.conference.participants = [] ∨ room.KeepsMute request operations := by
  have moderatedCase (moderated : (room.requestMute request).Moderated) :
      (Run.after (hostStep platform) (room.requestMute request) operations).FilterIs true :=
    (Run.always_of_preserved (hostStep_moderated platform) moderated operations).last.filtered ends
  cases request with
  | muteHost =>
    exact iff_of_true (moderatedCase (muteHost_moderated registered agrees))
      (Or.inr (Or.inl rfl))
  | muteLocalHost =>
    have entered := requestMute_registered .muteLocalHost registered
    have participants := (muteLocalHost_quietStep room true .audio).participants
    cases moderator : room.conference.isMuted hostId with
    | true =>
      exact iff_of_true (moderatedCase (muteLocalHost_moderated registered agrees moderator))
        (Or.inr (Or.inr (Or.inl moderator)))
    | false =>
      have unmuted : (room.requestMute .muteLocalHost).conference.isMuted hostId = false :=
        (muteLocalHost_isMuted room true hostId).trans moderator
      unfold KeepsMute
      rw [moderator]
      cases attached : room.isAttached with
      | true =>
        have muted := muteLocalHost_attached agrees attached moderator
        rw [attached_filterIs_iff platform entered unmuted muted.1 muted.2 operations ends]
        change (room.muteLocalHost true .audio).conference.participants = [] ∨ _ ↔ _
        rw [participants]
        simp
      | false =>
        have muted := muteLocalHost_detached attached
        rw [detached_filterIs_iff platform entered unmuted muted.1 operations ends]
        change (room.muteLocalHost true .audio).conference.participants = [] ∨
          (room.muteLocalHost true .audio).conference.hostSources.any _ = true ∧ _ ↔ _
        rw [participants, muted.2]
        simp

def attachedRoom : Room Nat :=
  Run.after (step SIPCall.plainPlatform) (freshRoom [("a", {})]) attachOne

/-- A moderator's mute survives a hold. -/
theorem moderator_mute_survives_hold :
    (Run.after (hostStep SIPCall.plainPlatform) (attachedRoom.requestMute .muteHost)
      [.detachLocalParticipant, .attachLocalParticipant]).FilterIs true :=
  (host_mute_survives_iff SIPCall.plainPlatform attachedRoom .muteHost
    [.detachLocalParticipant, .attachLocalParticipant] (by decide) (by decide) (by decide)).mpr
    (Or.inr (Or.inl rfl))

/-- The host's own mute does not: the microphone is open after the hold. -/
theorem own_mute_lost_on_hold :
    let after := Run.after (hostStep SIPCall.plainPlatform)
      (attachedRoom.requestMute .muteLocalHost) [.detachLocalParticipant, .attachLocalParticipant]
    after.isAttached = true ∧ ¬ after.FilterIs true := by
  decide

end SipCore.Room
