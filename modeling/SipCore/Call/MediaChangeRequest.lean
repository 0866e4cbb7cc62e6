/-
A client's request to change the media of a call. Of the list it passes, the last audio
entry and the last video entry are kept under the default labels; the stream vector is
updated with the two and, if need be, a re-INVITE is sent.
-/

import SipCore.Call.LocalPorts
import SipCore.Call.MediaUpdate
import SipCore.Conference.HostSources

namespace SipCore

open Rtp Sdp Conference

structure PickedMedia where
  audio : Option MediaAttribute := none
  video : Option MediaAttribute := none
  deriving DecidableEq, Repr

def labelled (label : String) (mediaAttr : MediaAttribute) : MediaAttribute :=
  { mediaAttr with label := label }

def PickedMedia.pick (picked : PickedMedia) (mediaAttr : MediaAttribute) : PickedMedia :=
  if mediaAttr.type = .video && picked.video.isNone then
    { picked with video := some (labelled defaultVideoStreamId mediaAttr) }
  else if mediaAttr.type = .audio && picked.audio.isNone then
    { picked with audio := some (labelled defaultAudioStreamId mediaAttr) }
  else picked

def pickMedia : List MediaAttribute → PickedMedia → PickedMedia
  | [], picked => picked
  | mediaAttr :: earlier, picked =>
    if (picked.pick mediaAttr).video.isSome && (picked.pick mediaAttr).audio.isSome then
      picked.pick mediaAttr
    else pickMedia earlier (picked.pick mediaAttr)

def PickedMedia.mediaAttrList (picked : PickedMedia) : List MediaAttribute :=
  picked.audio.getD {} :: picked.video.toList

def maxSdpMedia : Nat := 16

/-- What PJSIP makes of a re-INVITE: it refuses it, keeps it for later, or has a message
that is then sent or not. -/
inductive ReinviteResult where
  | refused
  | kept
  | message (sent : Bool)
  deriving DecidableEq, Repr

structure InviteSession where
  inviteTsx : Bool
  isValid : SdpSession → Bool
  reinvite : SdpSession → ReinviteResult

namespace MediaCall

variable (call : MediaCall)

def clearPendingLocalReservations (sockets : Sockets) : MediaCall × Sockets :=
  (applyPendingLocalPortsToSdp { call with pendingSocketPair := fun _ => none },
    resetPending (call.pendingSocketPair .video)
      (resetPending (call.pendingSocketPair .audio) sockets))

def withSdp (sdp : Sdp) : MediaCall := { call with call := { call.call with sdp := sdp } }

def sendReinvite (session : InviteSession) (offer : Option SdpSession) (sockets : Sockets) :
    Bool × MediaCall × Sockets :=
  match offer.map session.reinvite with
  | some .kept | some (.message true) => (true, call, sockets)
  | _ => (false, call.clearPendingLocalReservations sockets)

/-- The second half of `SIPSessionReinvite`, behind the reservations. -/
def offerMedia (session : InviteSession) (mediaAttrList : List MediaAttribute)
    (sockets : Sockets) : Except SdpException (Bool × MediaCall × Sockets) :=
  if call.call.account.isNone then .ok (false, call, sockets)
  else
    match createOffer maxSdpMedia session.isValid call.call.sdp mediaAttrList with
    | .error failure => .error failure
    | .ok none => .ok (false, call.clearPendingLocalReservations sockets)
    | .ok (some sdp) => .ok ((call.withSdp sdp).sendReinvite session sdp.localSession sockets)

def sipSessionReinvite (ports : PortPlatform) (inviteSession : Option InviteSession)
    (mediaAttrList : List MediaAttribute) (sockets : Sockets) :
    Except SdpException (Bool × MediaCall × Sockets) :=
  match inviteSession with
  | none => .ok (false, call, sockets)
  | some session =>
    if session.inviteTsx then .ok (false, call, sockets)
    else
      match call.prepareLocalMediaReservations ports mediaAttrList sockets with
      | (false, failed, after) => .ok (false, failed, after)
      | (true, prepared, reserved) =>
        (prepared.withSdp
          { prepared.call.sdp with
            activeRemoteSession := none
            activeLocalSession := none }).offerMedia session mediaAttrList reserved

def needsReinvite (streams : List RtpStream) (newAttr : MediaAttribute) : Bool :=
  match (SIPCall.findRtpStreamIndex streams newAttr.label).bind (fun index => streams[index]?) with
  | none => true
  | some stream =>
    newAttr.onHold ≠ stream.mediaAttribute.onHold ||
      newAttr.enabled ≠ stream.mediaAttribute.enabled

def isReinviteRequired (mediaAttrList : List MediaAttribute) : Bool :=
  mediaAttrList.length ≠ call.call.rtpStreams.length ||
    mediaAttrList.any (needsReinvite call.call.rtpStreams)

def withStreams (updated : SIPCall) : MediaCall :=
  { call with
    call := updated
    sessions :=
      (call.sessions ++ List.replicate (updated.rtpStreams.length - call.sessions.length)
          ({} : RtpSession)).take
        updated.rtpStreams.length }

def changeMedia (platform : Platform) (ports : PortPlatform)
    (inviteSession : Option InviteSession) (mediaAttrList : List MediaAttribute)
    (sockets : Sockets) : Except String (Bool × MediaCall × Sockets) :=
  match SIPCall.updateAllMediaStreams platform call.call mediaAttrList with
  | .error failure => .error failure
  | .ok (false, _) => .ok (false, call, sockets)
  | .ok (true, updated) =>
    if call.isReinviteRequired mediaAttrList then
      match (call.withStreams updated).sipSessionReinvite ports inviteSession mediaAttrList
          sockets with
      | .error failure => .error failure.what
      | .ok (_, after, left) => .ok (true, after, left)
    else .ok (true, call.withStreams updated, sockets)

/-- Whether the account allows video is asked of the account there is. -/
def requestMediaChange (platform : Platform) (ports : PortPlatform)
    (inviteSession : Option InviteSession) (isVideoEnabled : SIPAccount → Bool)
    (mediaList : List MediaMap) (sockets : Sockets) :
    Except String (Bool × MediaCall × Sockets) :=
  let mediaAttrList := MediaAttribute.buildMediaAttributesList mediaList call.call.srtpEnabled
  match call.call.account with
  | none => .ok (false, call, sockets)
  | some account =>
    if !isVideoEnabled account && mediaAttrList.any (fun mediaAttr => mediaAttr.type = .video) then
      .ok (false, call, sockets)
    else
      call.changeMedia platform ports inviteSession
        (pickMedia mediaAttrList.reverse {}).mediaAttrList sockets

end MediaCall

def lastOf (type : MediaType) (mediaAttrList : List MediaAttribute) : Option MediaAttribute :=
  (mediaAttrList.filter (fun mediaAttr => mediaAttr.type = type)).getLast?

/-- What a client asks for: the last audio entry, then the last video entry, each if
there is one. -/
def requested (mediaAttrList : List MediaAttribute) : List MediaAttribute :=
  ((lastOf .audio mediaAttrList).map (labelled defaultAudioStreamId)).toList ++
    ((lastOf .video mediaAttrList).map (labelled defaultVideoStreamId)).toList

theorem pickMedia_eq (entries : List MediaAttribute) (picked : PickedMedia) :
    pickMedia entries picked =
      ⟨picked.audio.or ((entries.find? (fun entry => entry.type = .audio)).map
          (labelled defaultAudioStreamId)),
        picked.video.or ((entries.find? (fun entry => entry.type = .video)).map
          (labelled defaultVideoStreamId))⟩ := by
  induction entries generalizing picked with
  | nil =>
    obtain ⟨audio, video⟩ := picked
    cases audio <;> cases video <;> rfl
  | cons mediaAttr earlier ih =>
    -- one entry changes at most one of the two, and only if it was still missing
    have step : ((picked.pick mediaAttr).audio.or
          ((earlier.find? (fun entry => entry.type = .audio)).map
            (labelled defaultAudioStreamId)) =
        picked.audio.or (((mediaAttr :: earlier).find? (fun entry => entry.type = .audio)).map
          (labelled defaultAudioStreamId))) ∧
        ((picked.pick mediaAttr).video.or
          ((earlier.find? (fun entry => entry.type = .video)).map
            (labelled defaultVideoStreamId)) =
        picked.video.or (((mediaAttr :: earlier).find? (fun entry => entry.type = .video)).map
          (labelled defaultVideoStreamId))) := by
      obtain ⟨audio, video⟩ := picked
      unfold PickedMedia.pick
      cases type : mediaAttr.type <;> cases audio <;> cases video <;>
        simp [type]
    unfold pickMedia
    split
    · rename_i both
      rw [Bool.and_eq_true] at both
      rw [← step.1, ← step.2, Option.or_of_isSome both.1, Option.or_of_isSome both.2]
    · rw [ih, step.1, step.2]

theorem find?_reverse_eq_lastOf (type : MediaType) (mediaAttrList : List MediaAttribute) :
    mediaAttrList.reverse.find? (fun mediaAttr => mediaAttr.type = type) =
      lastOf type mediaAttrList := by
  unfold lastOf
  rw [List.getLast?_eq_head?_reverse, ← List.filter_reverse, List.head?_filter]

theorem rebuilt_eq (mediaAttrList : List MediaAttribute) :
    (pickMedia mediaAttrList.reverse {}).mediaAttrList =
      if (lastOf .audio mediaAttrList).isSome then requested mediaAttrList
      else {} :: requested mediaAttrList := by
  rw [pickMedia_eq, find?_reverse_eq_lastOf, find?_reverse_eq_lastOf]
  unfold PickedMedia.mediaAttrList requested
  cases lastOf .audio mediaAttrList with
  | none => rfl
  | some audio => rfl

theorem lastOf_isSome (type : MediaType) (mediaAttrList : List MediaAttribute) :
    (lastOf type mediaAttrList).isSome = mediaAttrList.any (fun entry => entry.type = type) := by
  rw [← find?_reverse_eq_lastOf, Bool.eq_iff_iff, List.find?_isSome, List.any_eq_true]
  simp only [List.mem_reverse]

private theorem lastOf_type {type : MediaType} {mediaAttrList : List MediaAttribute}
    {found : MediaAttribute} (last : lastOf type mediaAttrList = some found) :
    found.type = type := by
  have member := List.mem_of_getLast? last
  exact of_decide_eq_true (List.mem_filter.mp member).2

theorem requested_types (mediaAttrList : List MediaAttribute) :
    ∀ mediaAttr ∈ requested mediaAttrList, mediaAttr.type = .audio ∨ mediaAttr.type = .video := by
  intro mediaAttr member
  rcases List.mem_append.mp member with audio | video
  · rw [Option.mem_toList, Option.map_eq_some_iff] at audio
    obtain ⟨found, last, rfl⟩ := audio
    have type := lastOf_type last
    exact .inl type
  · rw [Option.mem_toList, Option.map_eq_some_iff] at video
    obtain ⟨found, last, rfl⟩ := video
    have type := lastOf_type last
    exact .inr type

theorem rebuilt_labels_nodup (mediaAttrList : List MediaAttribute) :
    ((pickMedia mediaAttrList.reverse {}).mediaAttrList.map MediaAttribute.label).Nodup := by
  rw [pickMedia_eq]
  cases mediaAttrList.reverse.find? (fun entry => entry.type = .audio) with
  | none =>
    cases mediaAttrList.reverse.find? (fun entry => entry.type = .video) with
    | none => exact List.nodup_singleton _
    | some video =>
      change ["", defaultVideoStreamId].Nodup
      decide
  | some audio =>
    cases mediaAttrList.reverse.find? (fun entry => entry.type = .video) with
    | none => exact List.nodup_singleton _
    | some video =>
      change [defaultAudioStreamId, defaultVideoStreamId].Nodup
      decide

private theorem rebuilt_length (mediaAttrList : List MediaAttribute) :
    (pickMedia mediaAttrList.reverse {}).mediaAttrList.length =
      1 + (lastOf .video mediaAttrList).toList.length := by
  rw [pickMedia_eq, find?_reverse_eq_lastOf, find?_reverse_eq_lastOf]
  cases lastOf .video mediaAttrList with
  | none => rfl
  | some video => rfl

namespace MediaCall

variable {call : MediaCall} {ports : PortPlatform} {inviteSession : Option InviteSession}
  {mediaAttrList : List MediaAttribute} {sockets : Sockets}

private theorem prepareLocalMediaReservations_streams (call : MediaCall) (ports : PortPlatform)
    (mediaAttrList : List MediaAttribute) (sockets : Sockets) :
    (call.prepareLocalMediaReservations ports mediaAttrList sockets).2.1.call.rtpStreams =
      call.call.rtpStreams := by
  unfold prepareLocalMediaReservations
  split
  · rfl
  · split
    · rfl
    · split
      · rfl
      · split <;> rfl

theorem sendReinvite_streams (session : InviteSession) (offer : Option SdpSession) :
    (call.sendReinvite session offer sockets).2.1.call.rtpStreams = call.call.rtpStreams := by
  unfold sendReinvite
  split <;> rfl

private theorem offerMedia_streams {session : InviteSession} {outcome : Bool × MediaCall × Sockets}
    (done : call.offerMedia session mediaAttrList sockets = .ok outcome) :
    outcome.2.1.call.rtpStreams = call.call.rtpStreams := by
  unfold offerMedia at done
  split at done
  · cases done
    rfl
  · split at done
    · cases done
    · cases done
      rfl
    · cases done
      exact sendReinvite_streams session _

private theorem sipSessionReinvite_streams {outcome : Bool × MediaCall × Sockets}
    (done : call.sipSessionReinvite ports inviteSession mediaAttrList sockets = .ok outcome) :
    outcome.2.1.call.rtpStreams = call.call.rtpStreams := by
  have reserved := call.prepareLocalMediaReservations_streams ports mediaAttrList sockets
  unfold sipSessionReinvite at done
  split at done
  · cases done
    rfl
  · split at done
    · cases done
      rfl
    · split at done
      · rename_i failed
        cases done
        rw [failed] at reserved
        exact reserved
      · rename_i prepared _ succeeded
        rw [succeeded] at reserved
        exact (offerMedia_streams done).trans reserved

private theorem offerLines_ok (sdp : Sdp)
    (known : ∀ mediaAttr ∈ mediaAttrList, mediaAttr.type = .audio ∨ mediaAttr.type = .video) :
    ∃ lines, sdp.offerLines mediaAttrList = .ok lines := by
  induction mediaAttrList generalizing sdp with
  | nil => exact ⟨[], rfl⟩
  | cons media later ih =>
    have laterKnown := fun mediaAttr member => known mediaAttr (List.mem_cons_of_mem media member)
    have described : ∃ changed, sdp.addMediaDescription media none = .ok changed := by
      unfold addMediaDescription
      rcases known media List.mem_cons_self with audio | video
      · rw [audio]
        cases sdp.sdpDirection <;> exact ⟨_, rfl⟩
      · rw [video]
        cases sdp.sdpDirection <;> exact ⟨_, rfl⟩
    unfold offerLines
    split
    · obtain ⟨⟨changed, line⟩, added⟩ := described
      obtain ⟨lines, rest⟩ := ih changed laterKnown
      rw [added]
      dsimp only
      rw [rest]
      exact ⟨line :: lines, rfl⟩
    · exact ih sdp laterKnown

theorem sipSessionReinvite_ok (call : MediaCall) (ports : PortPlatform)
    (inviteSession : Option InviteSession) (sockets : Sockets)
    (few : mediaAttrList.length < maxSdpMedia)
    (known : ∀ mediaAttr ∈ mediaAttrList, mediaAttr.type = .audio ∨ mediaAttr.type = .video) :
    ∃ outcome,
      call.sipSessionReinvite ports inviteSession mediaAttrList sockets = .ok outcome := by
  have offered (other : MediaCall) (session : InviteSession) (left : Sockets) :
      ∃ outcome, other.offerMedia session mediaAttrList left = .ok outcome := by
    obtain ⟨lines, built⟩ := offerLines_ok (other.call.sdp.createLocalSession .offer) known
    unfold offerMedia createOffer
    rw [if_neg (Nat.not_le.mpr few), built]
    split
    · exact ⟨_, rfl⟩
    · dsimp only
      split
      · rename_i failure impossible
        split at impossible <;> cases impossible
      · exact ⟨_, rfl⟩
      · exact ⟨_, rfl⟩
  unfold sipSessionReinvite
  split
  · exact ⟨_, rfl⟩
  · split
    · exact ⟨_, rfl⟩
    · split
      · exact ⟨_, rfl⟩
      · exact offered _ _ _

/-! ### What the change comes to -/

variable {platform : Platform}

theorem changeMedia_streams {accepted : Bool} {after : MediaCall} {left : Sockets}
    (done : call.changeMedia platform ports inviteSession mediaAttrList sockets =
      .ok (accepted, after, left)) :
    ∃ updated, SIPCall.updateAllMediaStreams platform call.call mediaAttrList =
        .ok (accepted, updated) ∧
      after.call.rtpStreams = if accepted then updated.rtpStreams else call.call.rtpStreams := by
  unfold changeMedia at done
  split at done
  · cases done
  · rename_i updated refused
    cases done
    refine ⟨updated, refused, ?_⟩
    rw [if_neg Bool.false_ne_true]
  · rename_i updated changed
    split at done
    · split at done
      · cases done
      · rename_i reinvited
        cases done
        refine ⟨updated, changed, ?_⟩
        exact sipSessionReinvite_streams reinvited
    · cases done
      refine ⟨updated, changed, ?_⟩
      rfl

theorem changeMedia_ok (ports : PortPlatform) (inviteSession : Option InviteSession)
    (sockets : Sockets) {accepted : Bool} {updated : SIPCall}
    (few : mediaAttrList.length < maxSdpMedia)
    (known : ∀ mediaAttr ∈ mediaAttrList, mediaAttr.type = .audio ∨ mediaAttr.type = .video)
    (result : SIPCall.updateAllMediaStreams platform call.call mediaAttrList =
      .ok (accepted, updated)) :
    ∃ after left, call.changeMedia platform ports inviteSession mediaAttrList sockets =
      .ok (accepted, after, left) := by
  unfold changeMedia
  rw [result]
  cases accepted with
  | false => exact ⟨_, _, rfl⟩
  | true =>
    dsimp only
    split
    · obtain ⟨⟨sent, after, left⟩, reinvited⟩ := (call.withStreams updated).sipSessionReinvite_ok
        ports inviteSession sockets few known
      rw [reinvited]
      exact ⟨after, left, rfl⟩
    · exact ⟨_, _, rfl⟩

end MediaCall

open SIPCall

/-- A stream shows all that the entry of a client says: a video stream has the source
that was named, or the default one. -/
structure Shows (platform : Platform) (attr : MediaAttribute) (stream : RtpStream) : Prop extends
    Carries attr stream where
  onHold : stream.mediaAttribute.onHold = attr.onHold
  source : attr.type = .video → stream.mediaAttribute.sourceUri =
    if attr.sourceUri = "" then platform.defaultMrl else attr.sourceUri

theorem shows_updateMediaStream_iff (platform : Platform) (attr : MediaAttribute)
    (stream : RtpStream) :
    Shows platform attr (updateMediaStream platform attr stream) ↔
      Carries attr (updateMediaStream platform attr stream) := by
  refine ⟨Shows.toCarries, fun carried => ⟨carried, ?_, ?_⟩⟩
  · unfold updateMediaStream
    dsimp only
    split <;> rfl
  · intro video
    have type := ((carries_updateMediaStream_iff platform attr stream).mp carried).2.1
    unfold updateMediaStream
    rw [if_pos (type.trans video)]

theorem shows_newStream_iff (platform : Platform) (inConference : Bool) (attr : MediaAttribute) :
    Shows platform attr (newStream platform inConference attr) ↔
      Carries attr (newStream platform inConference attr) := by
  refine ⟨Shows.toCarries, fun carried => ⟨carried, ?_, fun _ => ?_⟩⟩
  · unfold newStream normalizedAttr
    split <;> rfl
  · unfold newStream normalizedAttr
    split <;> rfl

def Followed (platform : Platform) (mediaAttrList : List MediaAttribute)
    (streams : List RtpStream) : Prop :=
  streams.length = (requested mediaAttrList).length ∧
  (∀ (i : Nat) attr stream, (requested mediaAttrList)[i]? = some attr →
    streams[i]? = some stream → Shows platform attr stream) ∧
  ∀ stream ∈ streams, stream.mediaAttribute.type = .audio ∨ stream.mediaAttribute.type = .video

def Answers (platform : Platform) (call : MediaCall) (mediaAttrList : List MediaAttribute) :
    Except String (Bool × MediaCall × Sockets) → Prop
  | .error _ => False
  | .ok (accepted, after, _) =>
    (accepted = false ∧ after.call.rtpStreams = call.call.rtpStreams) ∨
      Followed platform mediaAttrList after.call.rtpStreams

/-- The request is refused at once, exceeds the limit on streams, or names an audio
entry and fits the streams there are. -/
def Honoured (platform : Platform) (isVideoEnabled : SIPAccount → Bool) (call : SIPCall)
    (mediaAttrList : List MediaAttribute) : Prop :=
  call.account = none ∨
  (∃ account, call.account = some account ∧ isVideoEnabled account = false ∧
    (lastOf .video mediaAttrList).isSome = true) ∨
  platform.iceMaxComp / 2 < 1 + (lastOf .video mediaAttrList).toList.length ∨
  ((lastOf .audio mediaAttrList).isSome = true ∧ Fits call (requested mediaAttrList))

theorem updateStreams_ok {platform : Platform} {inConference : Bool} {streams : List RtpStream}
    {mediaAttrList : List MediaAttribute}
    (known : ∀ mediaAttr ∈ mediaAttrList, mediaAttr.type = .audio ∨ mediaAttr.type = .video) :
    ∃ final, updateStreams platform inConference streams mediaAttrList = .ok final := by
  induction mediaAttrList generalizing streams with
  | nil => exact ⟨streams, rfl⟩
  | cons newAttr later ih =>
    have supported : (newAttr.type = .audio || newAttr.type = .video) = true := by
      rcases known newAttr List.mem_cons_self with audio | video
      · simp [audio]
      · simp [video]
    have laterKnown := fun mediaAttr member => known mediaAttr (List.mem_cons_of_mem newAttr member)
    unfold updateStreams updateStream
    cases findRtpStreamIndex streams newAttr.label with
    | some index => exact ih laterKnown
    | none =>
      rw [if_pos supported]
      exact ih laterKnown

private theorem followed_iff {platform : Platform} {call updated : SIPCall}
    {mediaAttrList : List MediaAttribute}
    (distinct : ((requested mediaAttrList).map MediaAttribute.label).Nodup)
    (result : updateAllMediaStreams platform call (requested mediaAttrList) = .ok (true, updated)) :
    Followed platform mediaAttrList updated.rtpStreams ↔ Fits call (requested mediaAttrList) := by
  have length := updateAllMediaStreams_length platform distinct result
  have labelled (attr : MediaAttribute) (stream : RtpStream) (shown : Shows platform attr stream) :
      stream.mediaAttribute.label = attr.label := shown.label
  have positions := updated_agrees_iff labelled distinct result
  simp only [shows_updateMediaStream_iff, shows_newStream_iff, carries_updateMediaStream_iff,
    carries_newStream_iff] at positions
  constructor
  · intro followed
    exact positions.mp followed.2.1
  · intro fits
    have shown := positions.mpr fits
    refine ⟨length, shown, ?_⟩
    intro stream member
    obtain ⟨i, stored⟩ := List.mem_iff_getElem?.mp member
    have within : i < (requested mediaAttrList).length := by
      rw [← length]
      exact (List.getElem?_eq_some_iff.mp stored).1
    rw [(shown i _ stream (List.getElem?_eq_getElem within) stored).type]
    exact requested_types mediaAttrList _ (List.getElem_mem within)

section Change

variable {platform : Platform} {mediaAttrList : List MediaAttribute} (call : MediaCall)
  (ports : PortPlatform) (inviteSession : Option InviteSession) (sockets : Sockets)

theorem changeMedia_exceeded {list : List MediaAttribute}
    (exceeded : platform.iceMaxComp / 2 < list.length) :
    call.changeMedia platform ports inviteSession list sockets = .ok (false, call, sockets) := by
  unfold MediaCall.changeMedia updateAllMediaStreams
  rw [if_pos exceeded]

theorem changeMedia_answers_iff_fits
    (distinct : ((requested mediaAttrList).map MediaAttribute.label).Nodup)
    (few : (requested mediaAttrList).length < maxSdpMedia)
    (within : (requested mediaAttrList).length ≤ platform.iceMaxComp / 2) :
    Answers platform call mediaAttrList
        (call.changeMedia platform ports inviteSession (requested mediaAttrList) sockets) ↔
      Fits call.call (requested mediaAttrList) := by
  have updates : ∃ updated, updateAllMediaStreams platform call.call (requested mediaAttrList) =
      .ok (true, updated) := by
    obtain ⟨final, loop⟩ := updateStreams_ok (requested_types mediaAttrList)
    unfold updateAllMediaStreams
    rw [if_neg (Nat.not_lt.mpr within), loop]
    exact ⟨_, rfl⟩
  obtain ⟨updated, result⟩ := updates
  obtain ⟨after, left, done⟩ := MediaCall.changeMedia_ok ports inviteSession sockets few
    (requested_types mediaAttrList) result
  obtain ⟨same, again, streams⟩ := MediaCall.changeMedia_streams done
  cases again.symm.trans result
  rw [if_pos rfl] at streams
  rw [done, ← followed_iff distinct result, ← streams]
  constructor
  · intro answered
    rcases answered with ⟨refused, _⟩ | followed
    · cases refused
    · exact followed
  · exact .inr

theorem changeMedia_unanswered {list : List MediaAttribute}
    (distinct : (list.map MediaAttribute.label).Nodup)
    (longer : (requested mediaAttrList).length < list.length)
    (within : list.length ≤ platform.iceMaxComp / 2) :
    ¬ Answers platform call mediaAttrList
      (call.changeMedia platform ports inviteSession list sockets) := by
  intro answered
  cases done : call.changeMedia platform ports inviteSession list sockets with
  | error failure =>
    rw [done] at answered
    exact answered
  | ok outcome =>
    obtain ⟨accepted, after, left⟩ := outcome
    obtain ⟨updated, result, streams⟩ := MediaCall.changeMedia_streams done
    have accepts : accepted = true := by
      unfold updateAllMediaStreams at result
      rw [if_neg (Nat.not_lt.mpr within)] at result
      split at result
      · cases result
      · cases result
        rfl
    subst accepts
    rw [if_pos rfl] at streams
    rw [done] at answered
    rcases answered with ⟨refused, _⟩ | followed
    · cases refused
    · have length := updateAllMediaStreams_length platform distinct result
      rw [← streams, followed.1] at length
      exact absurd length (Nat.ne_of_lt longer)

private theorem changeMedia_answers_iff :
    Answers platform call mediaAttrList
        (call.changeMedia platform ports inviteSession
          (pickMedia mediaAttrList.reverse {}).mediaAttrList sockets) ↔
      platform.iceMaxComp / 2 < 1 + (lastOf .video mediaAttrList).toList.length ∨
      ((lastOf .audio mediaAttrList).isSome = true ∧ Fits call.call (requested mediaAttrList)) := by
  have length := rebuilt_length mediaAttrList
  have distinct := rebuilt_labels_nodup mediaAttrList
  have rebuilt := rebuilt_eq mediaAttrList
  rw [← length]
  by_cases exceeded :
      platform.iceMaxComp / 2 < (pickMedia mediaAttrList.reverse {}).mediaAttrList.length
  · rw [changeMedia_exceeded call ports inviteSession sockets exceeded]
    exact ⟨fun _ => .inl exceeded, fun _ => .inl ⟨rfl, rfl⟩⟩
  · rw [or_iff_right exceeded]
    cases audio : (lastOf .audio mediaAttrList).isSome with
    | true =>
      rw [audio, if_pos rfl] at rebuilt
      rw [rebuilt] at exceeded distinct length ⊢
      have few : (requested mediaAttrList).length < maxSdpMedia := by
        rw [length]
        cases lastOf .video mediaAttrList with
        | none => decide
        | some video => exact (by decide : 2 < 16)
      rw [changeMedia_answers_iff_fits call ports inviteSession sockets distinct few
        (Nat.not_lt.mp exceeded)]
      exact (and_iff_right rfl).symm
    | false =>
      rw [audio] at rebuilt
      have longer : (requested mediaAttrList).length <
          (pickMedia mediaAttrList.reverse {}).mediaAttrList.length := by
        rw [rebuilt]
        exact Nat.lt_succ_self _
      have unanswered := changeMedia_unanswered call ports inviteSession sockets distinct longer
        (Nat.not_lt.mp exceeded)
      exact ⟨fun answered => absurd answered unanswered,
        fun honoured => absurd honoured.1 Bool.false_ne_true⟩

end Change

/-- A request is refused without a trace or followed exactly if it is refused, too
long, or names an audio entry and fits the streams there are. -/
theorem requestMediaChange_answers_iff (platform : Platform) (ports : PortPlatform)
    (inviteSession : Option InviteSession) (isVideoEnabled : SIPAccount → Bool) (call : MediaCall)
    (mediaList : List MediaMap) (sockets : Sockets) :
    Answers platform call
        (MediaAttribute.buildMediaAttributesList mediaList call.call.srtpEnabled)
        (call.requestMediaChange platform ports inviteSession isVideoEnabled mediaList sockets) ↔
      Honoured platform isVideoEnabled call.call
        (MediaAttribute.buildMediaAttributesList mediaList call.call.srtpEnabled) := by
  unfold MediaCall.requestMediaChange Honoured
  cases owner : call.call.account with
  | none => exact ⟨fun _ => .inl rfl, fun _ => .inl ⟨rfl, rfl⟩⟩
  | some account =>
    dsimp only
    split
    · rename_i refused
      rw [Bool.and_eq_true, Bool.not_eq_true', ← lastOf_isSome] at refused
      exact ⟨fun _ => .inr (.inl ⟨account, rfl, refused⟩), fun _ => .inl ⟨rfl, rfl⟩⟩
    · rename_i allowed
      rw [Bool.and_eq_true, Bool.not_eq_true', ← lastOf_isSome] at allowed
      rw [changeMedia_answers_iff]
      constructor
      · intro honoured
        exact .inr (.inr honoured)
      · intro honoured
        rcases honoured with gone | ⟨other, same, refused⟩ | honoured
        · cases gone
        · cases same
          exact absurd refused allowed
        · exact honoured

def audioCall : MediaCall :=
  MediaCall.plainCall [MediaCall.audioAttribute "audio_0"]

/-- A request for video alone raises an exception. -/
theorem video_alone_raises :
    let videoOnly := [(MediaAttribute.toMediaMap
      { type := .video, enabled := true, muted := true, label := "video_0" })]
    let result := audioCall.requestMediaChange plainPlatform MediaCall.plainPorts none (fun _ => true)
      videoOnly quietSockets
    ¬ Answers plainPlatform audioCall
        (MediaAttribute.buildMediaAttributesList videoOnly audioCall.call.srtpEnabled) result ∧
      ∃ failure, result = .error failure := by
  intro videoOnly result
  exact ⟨id, _, rfl⟩

end SipCore
