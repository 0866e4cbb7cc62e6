/-
A conference together with what its operations touch: the ring buffer pool and
the table of calls. Participants are ids; a participant whose call is gone is
skipped wherever the code looks the call up. Loops over the participants are
folds, the order of the set plays no part.
-/

import SipCore.Audio.RingBufferPool
import SipCore.Conference.HostSources

namespace SipCore

structure Room (α : Type) where
  conference : Conference
  pool : RingBufferPool α
  calls : AssocMap String SIPCall

namespace Room

open RingBufferPool (defaultId)
open Conference (hostId)

variable {α : Type}

def hasCall (room : Room α) (callId : String) : Bool := room.calls.contains callId

def isAttached (room : Room α) : Bool := room.conference.confState = .activeAttached

def overParticipants (room : Room α)
    (each : RingBufferPool α → String → RingBufferPool α) : Room α :=
  { room with pool := room.conference.participants.foldl each room.pool }

/-- A muted participant still hears the new one, but is not heard. -/
def bindToParticipant (room : Room α) (participantId : String) (pool : RingBufferPool α)
    (item : String) : RingBufferPool α :=
  let bound :=
    if participantId ≠ item ∧ room.hasCall item then
      if room.conference.isMuted item then pool.bindHalfDuplexOut item participantId
      else pool.bindCallID participantId item
    else pool
  bound.flush item

def bindToHost (room : Room α) (participantId : String) : Room α :=
  let hostMuted := room.conference.isHostMuted
  let filtered := room.pool.setMicMuted participantId hostMuted
  let bound :=
    if room.conference.localPlaybackMuted then filtered.bindHalfDuplexOut participantId defaultId
    else if hostMuted then filtered.bindHalfDuplexOut defaultId participantId
    else filtered.bindCallID participantId defaultId
  { room with pool := bound.flush defaultId }

def bindParticipant (room : Room α) (participantId : String) : Room α :=
  let bound := room.overParticipants (room.bindToParticipant participantId)
  if room.isAttached then bound.bindToHost participantId else bound

def unbindParticipant (room : Room α) (participantId : String) : Room α :=
  { room with pool := room.pool.unBindAllHalfDuplexOut participantId }

def bindHostTo (room : Room α) (pool : RingBufferPool α) (item : String) : RingBufferPool α :=
  if room.hasCall item then
    let filtered := pool.setMicMuted item false
    if room.conference.isMuted item then filtered
    else
      let bound :=
        if room.conference.localPlaybackMuted then filtered.bindHalfDuplexOut item defaultId
        else filtered.bindCallID item defaultId
      bound.flush defaultId
  else pool

def bindHost (room : Room α) : Room α := room.overParticipants room.bindHostTo

def unbindHost (room : Room α) : Room α :=
  room.overParticipants (fun pool item =>
    (pool.unBindHalfDuplexOut item defaultId).setMicMuted item true)

def setMicMutedAll (room : Room α) (muted : Bool) : Room α :=
  room.overParticipants (fun pool item => pool.setMicMuted item muted)

def setMuted (room : Room α) (id : String) (muted : Bool) : Room α :=
  { room with
    conference :=
      { room.conference with
        participantsMuted :=
          if muted then room.conference.participantsMuted.insert id
          else room.conference.participantsMuted.filter (· ≠ id) } }

def muteHost (room : Room α) (state : Bool) : Room α :=
  let isHostMuted := room.conference.isMuted hostId
  let sourceMuted := room.conference.isMediaSourceMuted .audio
  if state && !isHostMuted then
    let muted := room.setMuted hostId true
    if !sourceMuted then muted.unbindHost else muted.setMicMutedAll true
  else if !state && isHostMuted then
    let unmuted := room.setMuted hostId false
    if !sourceMuted then unmuted.bindHost else unmuted
  else room

def muteCall (room : Room α) (callId : String) (state : Bool) : Room α :=
  let isPartMuted := room.conference.isMuted callId
  if state && !isPartMuted then (room.setMuted callId true).unbindParticipant callId
  else if !state && isPartMuted then (room.setMuted callId false).bindParticipant callId
  else room

def setLocalHostMuteState (room : Room α) (type : MediaType) (muted : Bool) : Room α :=
  { room with conference := room.conference.setLocalHostMuteState type muted }

/-- Only the two media types the interface names do anything. -/
def muteLocalHost (room : Room α) (isMuted : Bool) (mediaType : MediaType) : Room α :=
  match mediaType with
  | .audio =>
    if room.isAttached && isMuted == room.conference.isMediaSourceMuted .audio then room
    else
      let bound :=
        if room.isAttached then
          if room.conference.isMuted hostId then room
          else if isMuted then room.unbindHost
          else room.bindHost
        else room.setMicMutedAll isMuted
      bound.setLocalHostMuteState .audio isMuted
  | .video =>
    if !room.conference.videoEnabled then room
    else if isMuted == room.conference.isMediaSourceMuted .video then room
    else room.setLocalHostMuteState .video isMuted
  | _ => room

def playTo (room : Room α) (muted hostAudioMuted : Bool) (pool : RingBufferPool α)
    (participantId : String) : RingBufferPool α :=
  let unbound :=
    (pool.setMicMuted participantId hostAudioMuted).unBindHalfDuplexOut defaultId participantId
  let bound :=
    if !muted && !room.conference.isMuted participantId then
      if hostAudioMuted then unbound.bindHalfDuplexOut defaultId participantId
      else unbound.bindCallID participantId defaultId
    else unbound
  bound.flush participantId

def markLocalPlayback (room : Room α) (muted : Bool) : Room α :=
  let marked := room.overParticipants
    (fun pool participantId => pool.setLocalPlaybackMuted participantId muted)
  { marked with conference := { room.conference with localPlaybackMuted := muted } }

def muteLocalPlayback (room : Room α) (muted : Bool) : Room α :=
  let marked := room.markLocalPlayback muted
  if marked.isAttached then
    let played := marked.overParticipants
      (marked.playTo muted marked.conference.isHostMuted)
    { played with pool := played.pool.flush defaultId }
  else marked

def setState (room : Room α) (state : Conference.State) : Room α :=
  { room with conference := { room.conference with confState := state } }

def attachTo (room : Room α) (hostMuted : Bool) (pool : RingBufferPool α) (participant : String) :
    RingBufferPool α :=
  let attached :=
    if room.hasCall participant then
      let filtered := pool.setMicMuted participant hostMuted
      let participantSilenced :=
        room.conference.localPlaybackMuted || room.conference.isMuted participant
      let bound :=
        if hostMuted && participantSilenced then filtered
        else if hostMuted then filtered.bindHalfDuplexOut defaultId participant
        else if participantSilenced then filtered.bindHalfDuplexOut participant defaultId
        else filtered.bindCallID participant defaultId
      bound.flush participant
    else pool
  attached.flush participant

def attachLocalParticipant (room : Room α) : Room α :=
  if room.conference.confState = .activeDetached then
    let entered := room.setState .activeAttached
    let bound := entered.overParticipants (entered.attachTo entered.conference.isHostMuted)
    { bound with pool := bound.pool.flush defaultId }
  else room

def setLocalHostDefaultMediaSource (platform : Platform) (room : Room α) (addVideo : Bool)
    (source : String) : Room α :=
  { room with
    conference := room.conference.setLocalHostDefaultMediaSource platform addVideo source }

def detachLocalParticipant (platform : Platform) (room : Room α) : Room α :=
  if room.isAttached then
    let unbound := room.overParticipants (fun pool participant =>
      if room.hasCall participant then pool.unBindCallID participant defaultId else pool)
    (unbound.setLocalHostDefaultMediaSource platform false "").setState .activeDetached
  else room

def oldSource (room : Room α) (mediaAttr : MediaAttribute) : Option MediaAttribute :=
  room.conference.hostSources.find? (fun oldAttr =>
    oldAttr.sourceUri = mediaAttr.sourceUri && oldAttr.type = mediaAttr.type)

def placeSource (platform : Platform) (old : Option MediaAttribute) (mediaAttr : MediaAttribute) :
    MediaAttribute :=
  if old.isNone && mediaAttr.type = .video && mediaAttr.sourceUri = "" then
    { mediaAttr with sourceUri := platform.defaultMrl }
  else mediaAttr

def muteDiffers (old : Option MediaAttribute) (mediaAttr : MediaAttribute) : Bool :=
  match old with
  | none => true
  | some oldAttr => mediaAttr.muted ≠ oldAttr.muted

/-- One entry of the new list. Its mute is for its kind of media as a whole,
anything but audio counting as video. -/
def requestMedia (platform : Platform) (room : Room α) (mediaAttr : MediaAttribute) :
    Room α × MediaAttribute :=
  let old := room.oldSource mediaAttr
  (if muteDiffers old mediaAttr then
      room.muteLocalHost mediaAttr.muted (if mediaAttr.type = .audio then .audio else .video)
    else room,
    placeSource platform old mediaAttr)

def requestMediaLoop (platform : Platform) :
    Room α → List MediaAttribute → Room α × List MediaAttribute
  | room, [] => (room, [])
  | room, mediaAttr :: later =>
    let (changed, placed) := requestMedia platform room mediaAttr
    let (final, others) := requestMediaLoop platform changed later
    (final, placed :: others)

def requestMediaChange (platform : Platform) (room : Room α) (mediaList : List MediaMap) :
    Bool × Room α :=
  if room.isAttached then
    let (changed, mediaAttrList) := requestMediaLoop platform room
      (MediaAttribute.buildMediaAttributesList mediaList false)
    (true, { changed with conference := { changed.conference with hostSources := mediaAttrList } })
  else (false, room)

def modifyFirst (found : MediaAttribute → Bool) (change : MediaAttribute → MediaAttribute)
    (mediaList : List MediaAttribute) : List MediaAttribute :=
  mediaList.modify (mediaList.findIdx found) change

def upgradeToVideo (platform : Platform) (mediaList : List MediaAttribute) :
    List MediaAttribute :=
  if mediaList.any (fun media => media.type = .video) then
    modifyFirst (fun media => media.type = .video)
      (fun media =>
        { media with
          enabled := true
          label := if media.label = "" then Conference.defaultVideoStreamId else media.label
          sourceUri := if media.sourceUri = "" then platform.defaultMrl else media.sourceUri })
      mediaList
  else mediaList ++ [Conference.defaultVideoSource platform platform.defaultMrl]

/-- The first stream of one type: its mute state becomes the host's if it is the
first participant's, and the conference holds and mutes from now on. -/
def takeOverMedia (type : MediaType) (state : Room α × List MediaAttribute) :
    Room α × List MediaAttribute :=
  let (room, mediaList) := state
  match mediaList.find? (fun media => media.type = type) with
  | none => (room, mediaList)
  | some media =>
    let room :=
      if room.isAttached && room.conference.participants.length = 1 then
        room.setLocalHostMuteState type media.muted
      else room
    (room, modifyFirst (fun media => media.type = type)
      (fun media => { media with onHold := false, muted := false }) mediaList)

/-- The second component is the media change the call is asked for. -/
def takeOverMediaSourceControl (platform : Platform) (room : Room α) (callId : String) :
    Room α × Option (List MediaMap) :=
  match room.calls.find? callId with
  | none => (room, none)
  | some call =>
    if call.account.isNone then (room, none)
    else
      let mediaList := call.getMediaAttributeList
      let wanted :=
        if !mediaList.any MediaAttribute.hasValidVideo && room.conference.videoEnabled then
          upgradeToVideo platform mediaList
        else mediaList
      let (taken, requested) := takeOverMedia .video (takeOverMedia .audio (room, wanted))
      (taken, some (MediaAttribute.mediaAttributesToMediaMaps requested))

def insertParticipant (room : Room α) (participantId : String) : Room α :=
  { room with
    conference :=
      { room.conference with
        participants := room.conference.participants.insert participantId } }

def filterPlayback (room : Room α) (callId : String) : Room α :=
  if room.conference.localPlaybackMuted then
    { room with pool := room.pool.setLocalPlaybackMuted callId true }
  else room

def enterConference (room : Room α) (callId : String) : Room α :=
  { room with
    calls := room.calls.modify callId (fun call => { call with conf := some room.conference.id }) }

def addParticipant (platform : Platform) (room : Room α) (participantId : String) : Room α :=
  if participantId ∈ room.conference.participants then room
  else
    let joined := room.insertParticipant participantId
    match room.calls.find? participantId with
    | none => joined
    | some call =>
      let marked := if call.peerMuted then joined.setMuted participantId true else joined
      let taken := (marked.takeOverMediaSourceControl platform participantId).1
      (taken.filterPlayback participantId).enterConference participantId

/-! ### Runs -/

/-- The operations on a conference, and two of its surroundings: the table of
calls changes, and a ring buffer appears. -/
inductive Operation where
  | addParticipant (participantId : String)
  | bindParticipant (participantId : String)
  | muteCall (callId : String) (state : Bool)
  | muteHost (state : Bool)
  | muteLocalHost (isMuted : Bool) (mediaType : MediaType)
  | muteLocalPlayback (muted : Bool)
  | attachLocalParticipant
  | detachLocalParticipant
  | requestMediaChange (mediaList : List MediaMap)
  | setLocalHostDefaultMediaSource (addVideo : Bool) (source : String)
  | callsChanged (calls : AssocMap String SIPCall)
  | createRingBuffer (id : String)

def step (platform : Platform) (room : Room α) : Operation → Room α
  | .addParticipant participantId => room.addParticipant platform participantId
  | .bindParticipant participantId => room.bindParticipant participantId
  | .muteCall callId state => room.muteCall callId state
  | .muteHost state => room.muteHost state
  | .muteLocalHost isMuted mediaType => room.muteLocalHost isMuted mediaType
  | .muteLocalPlayback muted => room.muteLocalPlayback muted
  | .attachLocalParticipant => room.attachLocalParticipant
  | .detachLocalParticipant => room.detachLocalParticipant platform
  | .requestMediaChange mediaList => (room.requestMediaChange platform mediaList).2
  | .setLocalHostDefaultMediaSource addVideo source =>
    room.setLocalHostDefaultMediaSource platform addVideo source
  | .callsChanged calls => { room with calls := calls }
  | .createRingBuffer id => { room with pool := room.pool.createRingBuffer id }

end Room

end SipCore
