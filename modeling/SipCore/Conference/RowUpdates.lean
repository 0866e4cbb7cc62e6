/-
The rows of the conference description and the calls they stand for. A row is written
when the mixer reports its sources and keeps the id of its call. When a mute or a
recording changes, each row looks for a call by the uri and the device in it.
-/

import SipCore.Conference.Hangup
import SipCore.Conference.ReceivedJson
import SipCore.Video.MixerSources

namespace SipCore

open SipUri

structure SourceInfo where
  source : StreamInfo := {}
  x : Int := 0
  y : Int := 0
  w : Int := 0
  h : Int := 0
  hasVideo : Bool := true
  callId : String := ""
  streamId : String := ""
  deriving DecidableEq, Repr

/-- A conference with what its rows are written from: the participants and all calls,
the sets of call ids (or "host") that are muted or have their hand raised, the streams
with voice, the user names of the participants' accounts, the mute of the host's own
audio, and the ids of the calls whose peer has muted itself or is recording. No call
has the empty id. -/
structure Roster where
  attendance : Attendance
  named : attendance.calls.find? "" = none
  participantsMuted : List String := []
  handsRaised : List String := []
  streamsVoiceActive : List String := []
  moderators : List String := []
  usernames : List String := []
  activeStream : String := ""
  mediaSourceMuted : Bool := false
  isRecording : Bool := false
  peersMuted : List String := []
  peersRecording : List String := []
  confInfo : List ParticipantInfo := []

namespace Roster

variable (conference : Roster)

def getCall (callId : String) : Option PeerCall := conference.attendance.calls.find? callId

def getCallWith (accountUri deviceId : String) : Option String :=
  conference.attendance.getCallWith accountUri deviceId

def isMuted (callId : String) : Bool := conference.participantsMuted.contains callId

def isPeerMuted (callId : String) : Bool := conference.peersMuted.contains callId

def isPeerRecording (callId : String) : Bool := conference.peersRecording.contains callId

def isHandRaised (id : String) : Bool := conference.handsRaised.contains id

def isVoiceActive (streamId : String) : Bool := conference.streamsVoiceActive.contains streamId

def isHost (uri : String) : Bool := uri == "" || conference.usernames.contains uri

def isModerator (uri : String) : Bool := conference.moderators.contains uri || conference.isHost uri

def verifyActive (streamId : String) : Bool := conference.activeStream == streamId

def hostVideoStream : String := "host_video_0"

def peerNumber (callId : String) : String :=
  ((conference.getCall callId).map PeerCall.peerNumber).getD ""

def hasCall (callId : String) : Bool := (conference.getCall callId).isSome

def callRow (info : SourceInfo) : ParticipantInfo :=
  { uri := conference.peerNumber info.callId
    device := ""
    sinkId := info.streamId
    active := conference.verifyActive info.streamId
    x := info.x
    y := info.y
    w := info.w
    h := info.h
    videoMuted := !info.hasVideo
    audioLocalMuted := conference.hasCall info.callId && conference.isPeerMuted info.callId
    audioModeratorMuted := conference.isMuted info.callId
    isModerator := conference.isModerator (stripSipUriPrefix (conference.peerNumber info.callId))
    handRaised := conference.isHandRaised info.callId
    voiceActivity := conference.isVoiceActive info.streamId
    recording := conference.hasCall info.callId && conference.isPeerRecording info.callId
    callId := info.callId }

def streamCall (info : SourceInfo) : String :=
  if info.source.streamId ≠ "" ∧ conference.hasCall info.source.callId then info.source.callId
  else ""

def streamSink (info : SourceInfo) : String :=
  if info.source.streamId ≠ "" then info.source.streamId else hostVideoStream

def streamUri (info : SourceInfo) : String := conference.peerNumber (conference.streamCall info)

def isFirstHost (hostAdded : Bool) (info : SourceInfo) : Bool :=
  conference.streamUri info == "" && !hostAdded

def streamRow (hostAdded : Bool) (info : SourceInfo) : ParticipantInfo :=
  { uri := conference.streamUri info
    device := ""
    sinkId := streamSink info
    active := conference.verifyActive (streamSink info)
    x := info.x
    y := info.y
    w := info.w
    h := info.h
    videoMuted := !info.hasVideo
    audioLocalMuted :=
      if conference.isFirstHost hostAdded info then conference.mediaSourceMuted
      else conference.hasCall (conference.streamCall info) &&
        conference.isPeerMuted (conference.streamCall info)
    audioModeratorMuted :=
      info.source.streamId ≠ "" && conference.isMuted info.source.callId
    isModerator := conference.isModerator (stripSipUriPrefix (conference.streamUri info))
    handRaised := conference.isHandRaised
      (if conference.streamUri info = "" then "host" else conference.streamCall info)
    voiceActivity := conference.isVoiceActive (streamSink info)
    recording :=
      if conference.isFirstHost hostAdded info then conference.isRecording
      else conference.hasCall (conference.streamCall info) &&
        conference.isPeerRecording (conference.streamCall info)
    callId := conference.streamCall info }

def hostRow : ParticipantInfo :=
  { uri := "", device := "", sinkId := "", active := false, x := 0, y := 0, w := 0, h := 0
    videoMuted := true
    audioLocalMuted := conference.mediaSourceMuted
    audioModeratorMuted := false
    isModerator := true
    handRaised := false
    voiceActivity := false
    recording := false
    callId := "" }

def sourceRows : Bool → List SourceInfo → List ParticipantInfo
  | hostAdded, [] => if hostAdded then [] else [conference.hostRow]
  | hostAdded, info :: later =>
    if info.callId ≠ "" then conference.callRow info :: sourceRows hostAdded later
    else
      conference.streamRow hostAdded info ::
        sourceRows (hostAdded || (conference.streamRow hostAdded info).uri == "") later

def onSourcesUpdated (infos : List SourceInfo) : Roster :=
  { conference with confInfo := conference.sourceRows false infos }

def updateRecordingRow (info : ParticipantInfo) : ParticipantInfo :=
  if info.uri = "" then { info with recording := conference.isRecording }
  else
    match conference.getCallWith (removeDomain info.uri) info.device with
    | some callId => { info with recording := conference.isPeerRecording callId }
    | none => info

def updateRecording : Roster :=
  { conference with confInfo := conference.confInfo.map conference.updateRecordingRow }

structure MuteState where
  uri : String
  device : String
  callId : String := ""
  audioModeratorMuted : Bool := false
  audioLocalMuted : Bool := false
  deriving DecidableEq, Repr

def callStates : List MuteState :=
  (conference.confInfo.filter (fun info => info.uri ≠ "")).map
    (fun info => { uri := removeDomain info.uri, device := info.device })

def queryCall (state : MuteState) : MuteState :=
  match conference.getCallWith state.uri state.device with
  | some callId =>
    { state with
      callId := callId
      audioModeratorMuted := conference.isMuted callId
      audioLocalMuted := conference.isPeerMuted callId }
  | none => state

def applyMuteState (states : List MuteState) (info : ParticipantInfo) : ParticipantInfo :=
  if info.uri = "" then
    { info with
      audioModeratorMuted := conference.isMuted "host"
      audioLocalMuted := conference.mediaSourceMuted }
  else
    match states.find? (fun state =>
      state.uri = removeDomain info.uri ∧ state.device = info.device) with
    | some state =>
      if state.callId = "" then info
      else
        { info with
          audioModeratorMuted := state.audioModeratorMuted
          audioLocalMuted := state.audioLocalMuted }
    | none => info

def updateMuted : Roster :=
  { conference with
    confInfo := conference.confInfo.map
      (conference.applyMuteState (conference.callStates.map conference.queryCall)) }

/-! ### What a row shows -/

def showsMutes (info : ParticipantInfo) : Bool :=
  info.audioModeratorMuted == conference.isMuted info.callId &&
    info.audioLocalMuted == conference.isPeerMuted info.callId

def showsRecording (info : ParticipantInfo) : Bool :=
  info.recording == conference.isPeerRecording info.callId

def RowsFollow : Prop :=
  (∀ info ∈ conference.updateMuted.confInfo,
    conference.hasCall info.callId → conference.showsMutes info) ∧
  (∀ info ∈ conference.updateRecording.confInfo,
    conference.hasCall info.callId → conference.showsRecording info)

def sameFlags (left right : String) : Bool :=
  conference.isMuted left == conference.isMuted right &&
    conference.isPeerMuted left == conference.isPeerMuted right &&
    conference.isPeerRecording left == conference.isPeerRecording right

def hostFlags (callId : String) : Bool :=
  conference.isMuted "host" == conference.isMuted callId &&
    conference.mediaSourceMuted == conference.isPeerMuted callId &&
    conference.isRecording == conference.isPeerRecording callId

/-- The call found by the row's uri and device has the flags of the row's own call; if
none is found, the row shows them already. A row without a uri is taken for the host's. -/
def attributed (info : ParticipantInfo) : Bool :=
  if info.uri = "" then conference.hostFlags info.callId
  else
    match conference.getCallWith (removeDomain info.uri) info.device with
    | some found => conference.sameFlags found info.callId
    | none => conference.showsMutes info && conference.showsRecording info

variable {conference}

private theorem hasCall_of_getCallWith {uri device callId : String}
    (found : conference.getCallWith uri device = some callId) :
    conference.hasCall callId = true := by
  have matched := List.find?_some found
  unfold hasCall getCall
  split at matched
  · cases matched
  · rename_i call stored
    rw [stored]
    rfl

theorem id_of_getCallWith {uri device callId : String}
    (found : conference.getCallWith uri device = some callId) : callId ≠ "" := by
  intro unnamed
  have present := hasCall_of_getCallWith found
  rw [unnamed] at present
  unfold hasCall getCall at present
  rw [conference.named] at present
  cases present

section

variable {info : ParticipantInfo} (listed : info ∈ conference.confInfo)
include listed

private theorem find_queried (remote : info.uri ≠ "") :
    (conference.callStates.map conference.queryCall).find? (fun state =>
      state.uri = removeDomain info.uri ∧ state.device = info.device) =
      some (conference.queryCall { uri := removeDomain info.uri, device := info.device }) := by
  have keeps : ∀ state, (conference.queryCall state).uri = state.uri ∧
      (conference.queryCall state).device = state.device := by
    intro state
    unfold queryCall
    split <;> exact ⟨rfl, rfl⟩
  have asked : { uri := removeDomain info.uri, device := info.device } ∈ conference.callStates := by
    apply List.mem_map.mpr
    exact ⟨info, List.mem_filter.mpr ⟨listed, by simpa using remote⟩, rfl⟩
  rw [List.find?_map]
  cases first : conference.callStates.find? ((fun state : MuteState => decide
      (state.uri = removeDomain info.uri ∧ state.device = info.device)) ∘ conference.queryCall) with
  | none =>
    have missed := List.find?_eq_none.mp first _ asked
    simp [keeps] at missed
  | some state =>
    have matched := List.find?_some first
    obtain ⟨other, _, made⟩ := List.mem_map.mp (List.mem_of_find?_eq_some first)
    subst made
    simp only [Function.comp_apply, keeps, decide_eq_true_eq] at matched
    rw [Option.map_some, matched.1, matched.2]

theorem applyMuteState_eq (remote : info.uri ≠ "") :
    conference.applyMuteState (conference.callStates.map conference.queryCall) info =
      match conference.getCallWith (removeDomain info.uri) info.device with
      | some callId =>
        { info with
          audioModeratorMuted := conference.isMuted callId
          audioLocalMuted := conference.isPeerMuted callId }
      | none => info := by
  unfold applyMuteState
  rw [if_neg remote, find_queried listed remote]
  unfold queryCall
  dsimp only
  cases found : conference.getCallWith (removeDomain info.uri) info.device with
  | none => rfl
  | some callId =>
    rw [if_neg (id_of_getCallWith found)]

theorem row_follows_iff :
    (conference.showsMutes
        (conference.applyMuteState (conference.callStates.map conference.queryCall) info) = true ∧
      conference.showsRecording (conference.updateRecordingRow info) = true) ↔
      conference.attributed info = true := by
  unfold attributed updateRecordingRow
  by_cases isHost : info.uri = ""
  · unfold applyMuteState
    rw [if_pos isHost, if_pos isHost, if_pos isHost]
    simp [showsMutes, showsRecording, hostFlags]
  · rw [if_neg isHost, if_neg isHost, applyMuteState_eq listed isHost]
    cases conference.getCallWith (removeDomain info.uri) info.device with
    | none => simp
    | some found => simp [showsMutes, showsRecording, sameFlags]

end

theorem applyMuteState_callId (states : List MuteState) (info : ParticipantInfo) :
    (conference.applyMuteState states info).callId = info.callId := by
  unfold applyMuteState
  split
  · rfl
  · split
    · split <;> rfl
    · rfl

theorem updateRecordingRow_callId (info : ParticipantInfo) :
    (conference.updateRecordingRow info).callId = info.callId := by
  unfold updateRecordingRow
  split
  · rfl
  · split <;> rfl

variable (conference)

theorem rows_follow_iff_attributed :
    conference.RowsFollow ↔
      ∀ info ∈ conference.confInfo, conference.hasCall info.callId →
        conference.attributed info := by
  unfold RowsFollow updateMuted updateRecording
  simp only [List.forall_mem_map, applyMuteState_callId, updateRecordingRow_callId]
  constructor
  · intro follow info listed present
    exact (row_follows_iff listed).mp
      ⟨follow.1 info listed present, follow.2 info listed present⟩
  · intro attributed
    constructor
    · intro info listed present
      exact ((row_follows_iff listed).mpr (attributed info listed present)).1
    · intro info listed present
      exact ((row_follows_iff listed).mpr (attributed info listed present)).2

def twoCallsOfOnePeer : Roster :=
  { attendance :=
      { account := none
        participants := ["c1", "c2"]
        calls := (AssocMap.empty.emplace "c1" ⟨"<sip:100@pbx>", ""⟩).emplace "c2"
          ⟨"<sip:100@pbx>", ""⟩
        callSets := .empty
        remoteHosts := [] }
    named := by decide
    peersMuted := ["c2"] }

/-- The rows are the ones the conference writes for the two calls. -/
theorem second_call_of_one_peer_not_followed :
    ¬ (twoCallsOfOnePeer.onSourcesUpdated
      [{ callId := "c1", streamId := "c1_video_0" },
        { callId := "c2", streamId := "c2_video_0" }]).RowsFollow := by
  unfold RowsFollow
  decide +kernel

end Roster
end SipCore
