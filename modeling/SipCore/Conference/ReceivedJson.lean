/-
The JSON a peer of a conference can send: orders to the host, the description of a
conference and voice activity. Each is read member by member with conversions that
throw. The call that reads is alone, or part of a conference, which may be gone.
-/

import SipCore.Conference.Protocol

namespace SipCore

open JsonValue Emission

def JsonValue.field {β : Type} (value : JsonValue) (key : String)
    (read : JsonValue → Except JsonError β) : Except JsonError β :=
  match value.index key with
  | .error error => .error error
  | .ok found => read found

variable {β : Type}

theorem JsonValue.field_of_isObject {value : JsonValue} (object : value.isObject = true)
    (key : String) (read : JsonValue → Except JsonError β) :
    value.field key read = read (value.memberOrNull key) := by
  unfold field
  rw [index_of_isObject object]
  rfl

namespace ConfProtocolParser

def MemberFits (registered : Bool) (value : JsonValue) (key : String)
    (fits : JsonValue → Prop) : Prop :=
  registered = true → ∀ found, value.member? key = some found → fits found

theorem finishes_withMember_iff {value : JsonValue} (object : value.isObject = true)
    {registered : Bool} {key : String} {read : JsonValue → Except JsonError β}
    {act : β → Parsing Unit} {fits : JsonValue → Prop}
    (each : ∀ found, (∃ converted, read found = .ok converted ∧ Finishes (act converted)) ↔ fits found) :
    Finishes (withMember registered value key read act) ↔ MemberFits registered value key fits := by
  unfold withMember MemberFits
  cases registered with
  | false => exact ⟨nofun, fun _ => finishes_pure ()⟩
  | true =>
    rw [isMember_of_isObject object, index_of_isObject object]
    cases member : value.member? key with
    | none => exact ⟨nofun, fun _ => ⟨(), rfl⟩⟩
    | some found =>
      simp only [finishes_lift_ok_bind_iff, Option.isSome_some, Option.getD_some, if_true]
      rw [finishes_lift_bind_iff, each found]
      constructor
      · intro fit _ other equal
        cases equal
        exact fit
      · intro fit
        exact fit trivial found rfl

theorem finishes_read_call {read : JsonValue → Except JsonError β} {fits : JsonValue → Prop}
    (accepted : ∀ found, (∃ converted, read found = .ok converted) ↔ fits found)
    (made : β → Callback) (found : JsonValue) :
    (∃ converted, read found = .ok converted ∧ Finishes (call (made converted) : Parsing Unit)) ↔
      fits found := by
  rw [← accepted found]
  constructor
  · rintro ⟨converted, result, _⟩
    exact ⟨converted, result⟩
  · rintro ⟨converted, result⟩
    exact ⟨converted, result, finishes_call _⟩

theorem exists_asItIs {act : JsonValue → Parsing Unit} (found : JsonValue) :
    (∃ converted, asItIs found = .ok converted ∧ Finishes (act converted)) ↔
      Finishes (act found) := by
  constructor
  · rintro ⟨converted, same, finishes⟩
    cases same
    exact finishes
  · intro finishes
    exact ⟨found, rfl, finishes⟩

variable (handlers : Handlers) (isPeerModerator : Bool)

def MediaReadable (media : JsonValue) : Prop :=
  media.isObject = true →
    MemberFits handlers.voiceActivity media "voiceActivity" FitsBool ∧
      (isPeerModerator = true →
        MemberFits handlers.muteStreamVideo media "muteVideo" FitsBool ∧
          MemberFits handlers.muteStreamAudio media "muteAudio" FitsBool ∧
          MemberFits handlers.setActiveStream media "active" FitsBool)

def DeviceReadable (device : JsonValue) : Prop :=
  device.isObject = true →
    MemberFits handlers.raiseHand device "raiseHand" FitsBool ∧
      MemberFits true device "medias" (fun medias =>
        ∀ media ∈ medias.elements, MediaReadable handlers isPeerModerator media.2)

def MemberReadable (key : String) (value : JsonValue) : Prop :=
  key ≠ "version" →
    if isPeerModerator = true ∧ key = "layout" then handlers.setLayout = true → value.FitsInt
    else value.isObject = true → MemberFits true value "devices" (fun devices =>
      ∀ device ∈ devices.elements, DeviceReadable handlers isPeerModerator device.2)

def V0Readable (data : JsonValue) : Prop :=
  MemberFits true data "handRaised" (fun handRaised =>
      (data.memberOrNull "handState").FitsString ∧ handRaised.FitsString) ∧
    (isPeerModerator = true →
      MemberFits handlers.setLayout data "layout" FitsInt ∧
        MemberFits handlers.setActiveParticipant data "activeParticipant" FitsString ∧
        MemberFits handlers.muteParticipant data "muteParticipant" (fun muted =>
          MemberFits true data "muteState" (fun muteState =>
            muted.FitsString ∧ muteState.FitsString)) ∧
        MemberFits handlers.kickParticipant data "hangupParticipant" FitsString)

def V1Readable (data : JsonValue) : Prop :=
  ∀ entry ∈ data.elements, MemberReadable handlers isPeerModerator entry.1 entry.2

/-- Null, or an object whose version is a number, and of version 1 or without a
version and then with members of the types the version asks for. -/
def OrderReadable (data : JsonValue) : Prop :=
  match data with
  | .null => True
  | .object _ =>
    match data.member? "version" with
    | some version => version.FitsUInt ∧
        (version.asUInt = .ok 1 → V1Readable handlers isPeerModerator data)
    | none => V0Readable handlers isPeerModerator data
  | _ => False

variable {handlers isPeerModerator}

theorem finishes_parseMedia_iff (accountUri deviceId streamId : String) (media : JsonValue) :
    Finishes (parseMedia handlers isPeerModerator accountUri deviceId streamId media) ↔
      MediaReadable handlers isPeerModerator media := by
  unfold parseMedia MediaReadable
  split
  · rename_i object
    rw [finishes_seq_iff,
      finishes_withMember_iff object (finishes_read_call asBool_ok_iff _)]
    simp only [object, forall_const]
    apply and_congr_right'
    split
    · rename_i moderator
      rw [finishes_seq_iff, finishes_seq_iff,
        finishes_withMember_iff object (finishes_read_call asBool_ok_iff _),
        finishes_withMember_iff object (finishes_read_call asBool_ok_iff _),
        finishes_withMember_iff object (finishes_read_call asBool_ok_iff _)]
      simp only [moderator, forall_const]
    · rename_i guest
      exact ⟨fun _ moderator => absurd moderator guest, fun _ => finishes_pure ()⟩
  · rename_i scalar
    exact ⟨fun _ object => absurd object scalar, fun _ => finishes_pure ()⟩

theorem finishes_parseDevice_iff (peerId accountUri deviceId : String) (device : JsonValue) :
    Finishes (parseDevice handlers peerId isPeerModerator accountUri deviceId device) ↔
      DeviceReadable handlers isPeerModerator device := by
  unfold parseDevice DeviceReadable
  split
  · rename_i object
    have hand : ∀ found, (∃ converted, asBool found = .ok converted ∧
        Finishes (if (peerId == accountUri || !converted && isPeerModerator) = true then
          call (.raiseHand accountUri deviceId converted) else (pure () : Parsing Unit))) ↔
        found.FitsBool := by
      intro found
      rw [← asBool_ok_iff found]
      constructor
      · rintro ⟨converted, result, _⟩
        exact ⟨converted, result⟩
      · rintro ⟨converted, result⟩
        refine ⟨converted, result, ?_⟩
        split
        · exact finishes_call _
        · exact finishes_pure ()
    have hangup : Finishes (withMember (handlers.hangupParticipant && isPeerModerator) device
        "hangup" asItIs (fun _ => call (.hangupParticipant accountUri deviceId))) := by
      rw [finishes_withMember_iff object (fun found => exists_asItIs found)]
      intro _ found _
      exact finishes_call _
    have medias : ∀ found, (∃ converted, asItIs found = .ok converted ∧
        Finishes (forEach converted.elements (fun media =>
          parseMedia handlers isPeerModerator accountUri deviceId media.1 media.2))) ↔
        ∀ media ∈ found.elements, MediaReadable handlers isPeerModerator media.2 := by
      intro found
      rw [exists_asItIs, finishes_forEach_iff]
      simp only [finishes_parseMedia_iff]
    rw [finishes_seq_iff, finishes_seq_iff, finishes_withMember_iff object hand,
      finishes_withMember_iff object medias]
    simp only [object, hangup, true_and, forall_const]
  · rename_i scalar
    exact ⟨fun _ object => absurd object scalar, fun _ => finishes_pure ()⟩

theorem finishes_parseMember_iff (peerId key : String) (value : JsonValue) :
    Finishes (parseMember handlers peerId isPeerModerator key value) ↔
      MemberReadable handlers isPeerModerator key value := by
  unfold parseMember MemberReadable
  by_cases version : key = "version"
  · rw [if_pos version]
    exact ⟨fun _ other => absurd version other, fun _ => finishes_pure ()⟩
  · rw [if_neg version]
    simp only [ne_eq, version, not_false_eq_true, forall_const]
    split
    · split
      · rename_i set
        rw [finishes_lift_bind_iff, finishes_read_call asInt_ok_iff]
        exact ⟨fun fits _ => fits, fun fits => fits set⟩
      · rename_i unset
        exact ⟨fun _ set => absurd set unset, fun _ => finishes_pure ()⟩
    · split
      · rename_i object
        have devices : ∀ found, (∃ converted, asItIs found = .ok converted ∧
            Finishes (forEach converted.elements (fun device =>
              parseDevice handlers peerId isPeerModerator key device.1 device.2))) ↔
            ∀ device ∈ found.elements, DeviceReadable handlers isPeerModerator device.2 := by
          intro found
          rw [exists_asItIs, finishes_forEach_iff]
          simp only [finishes_parseDevice_iff]
        rw [finishes_withMember_iff object devices]
        simp only [object, forall_const]
      · rename_i scalar
        exact ⟨fun _ object => absurd object scalar, fun _ => finishes_pure ()⟩

theorem finishes_moveHand (peerId uri : String) (state : Bool) :
    Finishes (moveHand handlers peerId isPeerModerator uri state) := by
  unfold moveHand
  split
  · exact finishes_call _
  · exact finishes_pure ()

private theorem finishes_parseHandRaised_iff (peerId : String) {data : JsonValue}
    (object : data.isObject = true) :
    Finishes (parseHandRaised handlers peerId isPeerModerator data) ↔
      MemberFits true data "handRaised" (fun handRaised =>
        (data.memberOrNull "handState").FitsString ∧ handRaised.FitsString) := by
  apply finishes_withMember_iff object
  intro handRaised
  rw [exists_asItIs, index_of_isObject object, finishes_lift_ok_bind_iff, finishes_lift_bind_iff,
    ← asString_ok_iff, ← asString_ok_iff]
  constructor
  · rintro ⟨stateText, stateRead, finishes⟩
    rw [finishes_lift_bind_iff] at finishes
    obtain ⟨uri, uriRead, _⟩ := finishes
    exact ⟨⟨stateText, stateRead⟩, uri, uriRead⟩
  · rintro ⟨⟨stateText, stateRead⟩, uri, uriRead⟩
    refine ⟨stateText, stateRead, ?_⟩
    rw [finishes_lift_bind_iff]
    exact ⟨uri, uriRead, finishes_moveHand peerId uri _⟩

theorem finishes_mute_iff (muted muteState : JsonValue) :
    Finishes (do
      let participant ← lift muted.asString
      let stateText ← lift muteState.asString
      call (.muteParticipant participant (stateText == "true")) : Parsing Unit) ↔
      muted.FitsString ∧ muteState.FitsString := by
  rw [finishes_lift_bind_iff, ← asString_ok_iff muted]
  constructor
  · rintro ⟨participant, read, finishes⟩
    rw [finishes_lift_bind_iff, finishes_read_call asString_ok_iff] at finishes
    exact ⟨⟨participant, read⟩, finishes⟩
  · rintro ⟨⟨participant, read⟩, fits⟩
    refine ⟨participant, read, ?_⟩
    rw [finishes_lift_bind_iff, finishes_read_call asString_ok_iff]
    exact fits

section

variable {check : String → Bool} {peerId : String}
  (registered : handlers.checkAuthorization = some check)
include registered

private theorem finishes_parseV0_iff {data : JsonValue} (object : data.isObject = true) :
    Finishes (parseV0 handlers peerId data) ↔ V0Readable handlers (check peerId) data := by
  have mute : ∀ found, (∃ converted, asItIs found = .ok converted ∧
      Finishes (withMember true data "muteState" asItIs (fun muteState => do
        let participant ← lift converted.asString
        let stateText ← lift muteState.asString
        call (.muteParticipant participant (stateText == "true"))))) ↔
      MemberFits true data "muteState" (fun muteState =>
        found.FitsString ∧ muteState.FitsString) := by
    intro found
    rw [exists_asItIs]
    apply finishes_withMember_iff object
    intro muteState
    rw [exists_asItIs, finishes_mute_iff]
  unfold parseV0 V0Readable
  rw [registered]
  rw [finishes_seq_iff, finishes_parseHandRaised_iff peerId object]
  apply and_congr_right'
  split
  · rename_i moderator
    rw [finishes_seq_iff, finishes_seq_iff, finishes_seq_iff,
      finishes_withMember_iff object (finishes_read_call asInt_ok_iff _),
      finishes_withMember_iff object (finishes_read_call asString_ok_iff _),
      finishes_withMember_iff object mute,
      finishes_withMember_iff object (finishes_read_call asString_ok_iff _)]
    simp only [moderator, forall_const]
  · rename_i guest
    exact ⟨fun _ moderator => absurd moderator guest, fun _ => finishes_pure ()⟩

theorem finishes_parseV1_iff (data : JsonValue) :
    Finishes (parseV1 handlers peerId data) ↔ V1Readable handlers (check peerId) data := by
  unfold parseV1 V1Readable
  rw [registered]
  rw [finishes_forEach_iff]
  simp only [finishes_parseMember_iff]

private theorem finishes_parseVersion_iff (data version : JsonValue) :
    Finishes (parseVersion handlers peerId data version) ↔
      version.FitsUInt ∧ (version.asUInt = .ok 1 → V1Readable handlers (check peerId) data) := by
  have reported : ∀ number, Finishes (reportVersion handlers number) := by
    intro number
    unfold reportVersion
    split
    · exact finishes_call _
    · exact finishes_pure ()
  unfold parseVersion
  rw [finishes_lift_bind_iff, ← asUInt_ok_iff version]
  constructor
  · rintro ⟨number, read, finishes⟩
    refine ⟨⟨number, read⟩, ?_⟩
    intro one
    have same : number = 1 := Except.ok.inj (read.symm.trans one)
    rw [finishes_seq_iff, if_pos same, finishes_parseV1_iff registered] at finishes
    exact finishes.2
  · rintro ⟨⟨number, read⟩, readable⟩
    refine ⟨number, read, ?_⟩
    rw [finishes_seq_iff]
    refine ⟨reported number, ?_⟩
    split
    · rename_i one
      rw [one] at read
      exact (finishes_parseV1_iff registered data).mpr (readable read)
    · exact finishes_pure ()

private theorem finishes_parse_iff (data : JsonValue) :
    Finishes (parse handlers peerId data) ↔ OrderReadable handlers (check peerId) data := by
  cases data with
  | object members =>
    have object : (JsonValue.object members).isObject = true := rfl
    unfold parse OrderReadable
    rw [isMember_of_isObject object, index_of_isObject object]
    cases (JsonValue.object members).member? "version" with
    | none => exact finishes_parseV0_iff registered object
    | some version => exact finishes_parseVersion_iff registered _ version
  | null =>
    -- null has no members: neither the version nor any key of version 0
    refine ⟨fun _ => trivial, fun _ => ?_⟩
    change Finishes (parseV0 handlers peerId .null)
    unfold parseV0
    rw [registered]
    rw [finishes_seq_iff]
    refine ⟨⟨(), rfl⟩, ?_⟩
    split
    · simp only [finishes_seq_iff]
      have nothing : ∀ {β : Type} (registered : Bool) key (read : JsonValue → Except JsonError β)
          act, Finishes (withMember registered .null key read act) := by
        intro β registered key read act
        cases registered with
        | false => exact finishes_pure ()
        | true => exact ⟨(), rfl⟩
      exact ⟨nothing _ _ _ _, nothing _ _ _ _, nothing _ _ _ _, nothing _ _ _ _⟩
    · exact finishes_pure ()
  | _ =>
    constructor
    · rintro ⟨value, result⟩
      cases result
    · intro impossible
      cases impossible

end

end ConfProtocolParser

open ConfProtocolParser

def conferenceHandlers (isModerator : String → Bool) : Handlers :=
  { version := true
    checkAuthorization := some isModerator
    hangupParticipant := true
    raiseHand := true
    setActiveStream := true
    muteStreamAudio := true
    muteStreamVideo := false
    setLayout := true
    kickParticipant := true
    setActiveParticipant := true
    muteParticipant := true
    raiseHandUri := true
    voiceActivity := true }

/-- The peer is that of the call the order came with, if the call exists; the
value is there if the text was JSON. -/
def onConfOrder (isModerator : String → Bool) (peerId : Option String)
    (root : Option JsonValue) : Parsing Unit :=
  match peerId, root with
  | some peerId, some root => parse (conferenceHandlers isModerator) peerId root
  | _, _ => pure ()

structure ParticipantInfo where
  uri : String
  device : String
  sinkId : String
  active : Bool
  x : Int
  y : Int
  w : Int
  h : Int
  videoMuted : Bool
  audioLocalMuted : Bool
  audioModeratorMuted : Bool
  isModerator : Bool
  handRaised : Bool
  voiceActivity : Bool
  recording : Bool
  callId : String
deriving DecidableEq, Repr

def ParticipantInfo.fromJson (v : JsonValue) : Except JsonError ParticipantInfo := do
  let uri ← v.field "uri" asString
  let device ← v.field "device" asString
  let sinkId ← v.field "sinkId" asString
  let active ← v.field "active" asBool
  let x ← v.field "x" asInt
  let y ← v.field "y" asInt
  let w ← v.field "w" asInt
  let h ← v.field "h" asInt
  let videoMuted ← v.field "videoMuted" asBool
  let audioLocalMuted ← v.field "audioLocalMuted" asBool
  let audioModeratorMuted ← v.field "audioModeratorMuted" asBool
  let isModerator ← v.field "isModerator" asBool
  let handRaised ← v.field "handRaised" asBool
  let voiceActivity ← v.field "voiceActivity" asBool
  let recording ← v.field "recording" asBool
  return { uri, device, sinkId, active, x, y, w, h, videoMuted, audioLocalMuted,
           audioModeratorMuted, isModerator, handRaised, voiceActivity, recording, callId := "" }

structure ConfInfo where
  participants : List ParticipantInfo
  h : Int
  w : Int
  v : Int
  layout : Int
deriving DecidableEq, Repr

def ConfInfo.empty : ConfInfo :=
  { participants := [], h := 0, w := 0, v := 1, layout := 0 }

/-- Where a call stands: alone, in a conference, or in one that is gone. -/
inductive ConferenceLink where
  | uninitialized
  | expired
  | alive
deriving DecidableEq, Repr

inductive InfoEffect where
  | peerConfProtocol (version : Int)
  | confInfo (info : ConfInfo)
  | mergeConfInfo (info : ConfInfo)
deriving DecidableEq, Repr

def readParticipant (participants : List ParticipantInfo) (participantInfo : JsonValue) :
    Emission JsonError InfoEffect (List ParticipantInfo) := do
  let hasUri ← lift (participantInfo.isMember "uri")
  if hasUri then do
    let pInfo ← lift (ParticipantInfo.fromJson participantInfo)
    pure (participants ++ [pInfo])
  else pure participants

def readParticipants (participants : JsonValue) :
    Emission JsonError InfoEffect (List ParticipantInfo) :=
  foldEach (participants.elements.map Prod.snd) [] readParticipant

def readNumber (json : JsonValue) (key : String) (default : Int) : Except JsonError Int :=
  match json.member? key with
  | none => .ok default
  | some _ => json.field key asInt

def notePeerConfProtocol (json : JsonValue) (version : Int) : Emission JsonError InfoEffect Unit :=
  if (json.member? "v").isSome then call (.peerConfProtocol version) else pure ()

def readConfInfo (json : JsonValue) : Emission JsonError InfoEffect ConfInfo :=
  if json.isObject then do
    let participants ← readParticipants (json.memberOrNull "p")
    let v ← lift (readNumber json "v" ConfInfo.empty.v)
    notePeerConfProtocol json v
    let w ← lift (readNumber json "w" ConfInfo.empty.w)
    let h ← lift (readNumber json "h" ConfInfo.empty.h)
    pure { ConfInfo.empty with participants, v, w, h }
  else do
    let participants ← readParticipants json
    pure { ConfInfo.empty with participants }

def storeConfInfo (link : ConferenceLink) (newInfo : ConfInfo) :
    Emission JsonError InfoEffect Unit :=
  match link with
  | .uninitialized => call (.confInfo newInfo)
  | .alive => call (.mergeConfInfo newInfo)
  | .expired => pure ()

/-- A text that is no JSON leaves an empty description, which is stored. -/
def setConferenceInfo (link : ConferenceLink) (json : Option JsonValue) :
    Emission JsonError InfoEffect Unit :=
  match json with
  | none => storeConfInfo link ConfInfo.empty
  | some json => do
      let newInfo ← readConfInfo json
      storeConfInfo link newInfo

def textFields : List String := ["uri", "device", "sinkId"]

def numberFields : List String := ["x", "y", "w", "h"]

def flagFields : List String :=
  ["active", "videoMuted", "audioLocalMuted", "audioModeratorMuted", "isModerator", "handRaised",
    "voiceActivity", "recording"]

/-- Null, or an object which, if it has a uri, has only fields of the types of a
participant. A field may be missing. -/
def ParticipantReadable (participantInfo : JsonValue) : Prop :=
  match participantInfo with
  | .null => True
  | .object _ => (participantInfo.member? "uri").isSome = true →
      (∀ key ∈ textFields, (participantInfo.memberOrNull key).FitsString) ∧
        (∀ key ∈ numberFields, (participantInfo.memberOrNull key).FitsInt) ∧
        (∀ key ∈ flagFields, (participantInfo.memberOrNull key).FitsBool)
  | _ => False

def InfoReadable (json : JsonValue) : Prop :=
  if json.isObject = true then
    (∀ entry ∈ (json.memberOrNull "p").elements, ParticipantReadable entry.2) ∧
      (json.memberOrNull "v").FitsInt ∧ (json.memberOrNull "w").FitsInt ∧
      (json.memberOrNull "h").FitsInt
  else ∀ entry ∈ json.elements, ParticipantReadable entry.2

theorem fromJson_ok_iff {v : JsonValue} (object : v.isObject = true) :
    (∃ info, ParticipantInfo.fromJson v = .ok info) ↔
      (∀ key ∈ textFields, (v.memberOrNull key).FitsString) ∧
        (∀ key ∈ numberFields, (v.memberOrNull key).FitsInt) ∧
        (∀ key ∈ flagFields, (v.memberOrNull key).FitsBool) := by
  have done : ∀ info : ParticipantInfo,
      (∃ result, (return info : Except JsonError ParticipantInfo) = .ok result) :=
    fun info => ⟨info, rfl⟩
  unfold ParticipantInfo.fromJson
  simp only [exists_bind_ok_iff, field_of_isObject object, done, and_true, exists_and_right]
  simp only [asString_ok_iff, asBool_ok_iff, asInt_ok_iff, textFields, numberFields, flagFields,
    List.forall_mem_cons, List.not_mem_nil, false_implies, implies_true, and_true]
  tauto

private theorem finishes_readParticipant_iff (participants : List ParticipantInfo)
    (participantInfo : JsonValue) :
    Finishes (readParticipant participants participantInfo) ↔
      ParticipantReadable participantInfo := by
  cases participantInfo with
  | object members =>
    have object : (JsonValue.object members).isObject = true := rfl
    unfold readParticipant ParticipantReadable
    rw [isMember_of_isObject object, finishes_lift_ok_bind_iff]
    split
    · rename_i hasUri
      rw [finishes_lift_bind_iff]
      simp only [finishes_pure, and_true, fromJson_ok_iff object, hasUri, forall_const]
    · rename_i noUri
      exact ⟨fun _ hasUri => absurd hasUri noUri, fun _ => finishes_pure participants⟩
  | null => exact ⟨fun _ => trivial, fun _ => ⟨participants, rfl⟩⟩
  | _ =>
    constructor
    · rintro ⟨value, result⟩
      cases result
    · intro impossible
      cases impossible

theorem finishes_readParticipants_iff (participants : JsonValue) :
    Finishes (readParticipants participants) ↔
      ∀ entry ∈ participants.elements, ParticipantReadable entry.2 := by
  unfold readParticipants
  rw [finishes_foldEach_iff finishes_readParticipant_iff]
  exact List.forall_mem_map

theorem readNumber_ok_iff {json : JsonValue} (object : json.isObject = true) (key : String)
    (default : Int) :
    (∃ number, readNumber json key default = .ok number) ↔ (json.memberOrNull key).FitsInt := by
  unfold readNumber
  cases member : json.member? key with
  | none =>
    have missing : json.memberOrNull key = .null := by
      unfold memberOrNull
      rw [member]
      rfl
    rw [missing]
    exact ⟨fun _ => trivial, fun _ => ⟨default, rfl⟩⟩
  | some found =>
    rw [field_of_isObject object, asInt_ok_iff]

private theorem finishes_readConfInfo_iff (json : JsonValue) :
    Finishes (readConfInfo json) ↔ InfoReadable json := by
  have noted : ∀ version, Finishes (notePeerConfProtocol json version) := by
    intro version
    unfold notePeerConfProtocol
    split
    · exact finishes_call _
    · exact finishes_pure ()
  unfold readConfInfo InfoReadable
  split
  · rename_i object
    rw [finishes_bind_iff]
    simp only [finishes_lift_bind_iff, finishes_seq_iff, noted, true_and, finishes_pure, and_true,
      exists_and_right, readNumber_ok_iff object]
    rw [← finishes_readParticipants_iff]
    exact Iff.rfl
  · rw [finishes_bind_iff, ← finishes_readParticipants_iff]
    simp only [finishes_pure, and_true]
    exact Iff.rfl

theorem finishes_setConferenceInfo_iff (link : ConferenceLink) (json : JsonValue) :
    Finishes (setConferenceInfo link (some json)) ↔ InfoReadable json := by
  have stored : ∀ info, Finishes (storeConfInfo link info) := by
    intro info
    cases link with
    | uninitialized => exact finishes_call _
    | expired => exact finishes_pure ()
    | alive => exact finishes_call _
  unfold setConferenceInfo
  rw [finishes_bind_iff, ← finishes_readConfInfo_iff]
  simp only [stored, and_true]
  exact Iff.rfl

/-- Both readers of voice activity take a list, a list under `p`, or one entry. -/
def voiceItems (json : JsonValue) : List JsonValue :=
  match json with
  | .array items => items
  | .object _ =>
    match json.member? "p" with
    | some (.array items) => items
    | _ => [json]
  | _ => []

structure VoiceUpdate where
  uri : String
  sinkId : String
  state : Bool
deriving DecidableEq, Repr

inductive VoiceEffect where
  | confInfosUpdated (participants : List ParticipantInfo)
  | voiceActive (sinkId : String) (state : Bool)
  | updateVoiceActivity
deriving DecidableEq, Repr

def readText (participantInfo : JsonValue) (key : String) : Except JsonError String :=
  match participantInfo.member? key with
  | none => .ok ""
  | some _ => participantInfo.field key asString

def keepUpdate (updates : List VoiceUpdate) (update : VoiceUpdate) : List VoiceUpdate :=
  if update.uri = "" ∧ update.sinkId = "" then updates else updates ++ [update]

def parseUpdate (updates : List VoiceUpdate) (participantInfo : JsonValue) :
    Emission JsonError VoiceEffect (List VoiceUpdate) :=
  if participantInfo.isObject && (participantInfo.member? "state").isSome then do
    let uri ← lift (readText participantInfo "uri")
    let sinkId ← lift (readText participantInfo "sinkId")
    let state ← lift (participantInfo.field "state" asBool)
    pure (keepUpdate updates ⟨uri, sinkId, state⟩)
  else pure updates

def updatedIndex (participants : List ParticipantInfo) (update : VoiceUpdate) : Option Nat :=
  let bySink :=
    if update.sinkId = "" then none
    else participants.findIdx? (fun participant => update.sinkId == participant.sinkId)
  match bySink with
  | some index => some index
  | none =>
    if update.uri = "" then none
    else participants.findIdx? (fun participant => update.uri == participant.uri)

/-- The flag says that some update changed something, even if a later one
changed it back. -/
def applyUpdate (state : List ParticipantInfo × Bool) (update : VoiceUpdate) :
    List ParticipantInfo × Bool :=
  match updatedIndex state.1 update with
  | none => state
  | some index =>
    match state.1[index]? with
    | none => state
    | some participant =>
      if participant.voiceActivity = update.state then state
      else (state.1.set index { participant with voiceActivity := update.state }, true)

def applyUpdates (participants : List ParticipantInfo) (updates : List VoiceUpdate) :
    Emission JsonError VoiceEffect Unit :=
  if (updates.foldl applyUpdate (participants, false)).2 then
    call (.confInfosUpdated (updates.foldl applyUpdate (participants, false)).1)
  else pure ()

/-- The streams a conference knows, those with a voice, and whether any changed. -/
structure VoiceState where
  sinkIds : List String
  streamsVoiceActive : List String
  needsUpdate : Bool
deriving DecidableEq, Repr

def noteVoice (voices : VoiceState) (sinkId : String) (state : Bool) :
    Emission JsonError VoiceEffect VoiceState :=
  if sinkId = "" ∨ sinkId ∉ voices.sinkIds ∨ voices.streamsVoiceActive.contains sinkId = state then
    pure voices
  else do
    call (.voiceActive sinkId state)
    pure { voices with
      streamsVoiceActive :=
        if state then voices.streamsVoiceActive.insert sinkId
        else voices.streamsVoiceActive.filter (· ≠ sinkId)
      needsUpdate := true }

def applyVoiceState (voices : VoiceState) (participantInfo : JsonValue) :
    Emission JsonError VoiceEffect VoiceState :=
  if participantInfo.isObject && (participantInfo.member? "sinkId").isSome &&
      (participantInfo.member? "state").isSome then do
    let sinkId ← lift (participantInfo.field "sinkId" asString)
    let state ← lift (participantInfo.field "state" asBool)
    noteVoice voices sinkId state
  else pure voices

def setVoiceActivity (voices : VoiceState) (json : JsonValue) :
    Emission JsonError VoiceEffect Unit := do
  let after ← foldEach (voiceItems json) { voices with needsUpdate := false } applyVoiceState
  if after.needsUpdate then call .updateVoiceActivity else pure ()

def setConferenceVoiceActivity (link : ConferenceLink) (confInfo : List ParticipantInfo)
    (voices : VoiceState) (json : Option JsonValue) : Emission JsonError VoiceEffect Unit :=
  match json with
  | none => pure ()
  | some json =>
    match link with
    | .uninitialized => do
        let updates ← foldEach (voiceItems json) [] parseUpdate
        applyUpdates confInfo updates
    | .alive => setVoiceActivity voices json
    | .expired => pure ()

def UpdateReadable (participantInfo : JsonValue) : Prop :=
  participantInfo.isObject = true → (participantInfo.member? "state").isSome = true →
    (participantInfo.memberOrNull "uri").FitsString ∧
      (participantInfo.memberOrNull "sinkId").FitsString ∧
      (participantInfo.memberOrNull "state").FitsBool

def VoiceStateReadable (participantInfo : JsonValue) : Prop :=
  participantInfo.isObject = true → (participantInfo.member? "sinkId").isSome = true →
    (participantInfo.member? "state").isSome = true →
      (participantInfo.memberOrNull "sinkId").FitsString ∧
        (participantInfo.memberOrNull "state").FitsBool

def VoiceReadable (link : ConferenceLink) (json : JsonValue) : Prop :=
  match link with
  | .uninitialized => ∀ item ∈ voiceItems json, UpdateReadable item
  | .alive => ∀ item ∈ voiceItems json, VoiceStateReadable item
  | .expired => True

theorem readText_ok_iff {participantInfo : JsonValue} (object : participantInfo.isObject = true)
    (key : String) :
    (∃ text, readText participantInfo key = .ok text) ↔
      (participantInfo.memberOrNull key).FitsString := by
  unfold readText
  cases member : participantInfo.member? key with
  | none =>
    have missing : participantInfo.memberOrNull key = .null := by
      unfold memberOrNull
      rw [member]
      rfl
    rw [missing]
    exact ⟨fun _ => trivial, fun _ => ⟨"", rfl⟩⟩
  | some found =>
    rw [field_of_isObject object, asString_ok_iff]

theorem finishes_parseUpdate_iff (updates : List VoiceUpdate) (participantInfo : JsonValue) :
    Finishes (parseUpdate updates participantInfo) ↔ UpdateReadable participantInfo := by
  unfold parseUpdate UpdateReadable
  split
  · rename_i both
    obtain ⟨object, hasState⟩ := Bool.and_eq_true _ _ ▸ both
    simp only [finishes_lift_bind_iff, finishes_pure, and_true, exists_and_right,
      readText_ok_iff object, field_of_isObject object, asBool_ok_iff, object, hasState,
      forall_const]
  · rename_i missing
    refine ⟨fun _ object hasState => ?_, fun _ => finishes_pure updates⟩
    exact absurd (by rw [object, hasState]; rfl) missing

theorem finishes_noteVoice (voices : VoiceState) (sinkId : String) (state : Bool) :
    Finishes (noteVoice voices sinkId state) := by
  unfold noteVoice
  split
  · exact finishes_pure voices
  · exact ⟨_, rfl⟩

private theorem finishes_applyVoiceState_iff (voices : VoiceState) (participantInfo : JsonValue) :
    Finishes (applyVoiceState voices participantInfo) ↔ VoiceStateReadable participantInfo := by
  unfold applyVoiceState VoiceStateReadable
  split
  · rename_i all
    simp only [Bool.and_eq_true] at all
    obtain ⟨⟨object, hasSink⟩, hasState⟩ := all
    simp only [finishes_lift_bind_iff, finishes_noteVoice, and_true, exists_and_right,
      field_of_isObject object, asString_ok_iff, asBool_ok_iff, object, hasSink, hasState,
      forall_const]
  · rename_i missing
    refine ⟨fun _ object hasSink hasState => ?_, fun _ => finishes_pure voices⟩
    exact absurd (by rw [object, hasSink, hasState]; rfl) missing

private theorem finishes_setConferenceVoiceActivity_iff (link : ConferenceLink)
    (confInfo : List ParticipantInfo) (voices : VoiceState) (json : JsonValue) :
    Finishes (setConferenceVoiceActivity link confInfo voices (some json)) ↔
      VoiceReadable link json := by
  cases link with
  | expired => exact ⟨fun _ => trivial, fun _ => finishes_pure ()⟩
  | uninitialized =>
    have applied : ∀ updates, Finishes (applyUpdates confInfo updates) := by
      intro updates
      unfold applyUpdates
      split
      · exact finishes_call _
      · exact finishes_pure ()
    unfold VoiceReadable
    rw [← finishes_foldEach_iff finishes_parseUpdate_iff (voiceItems json) []]
    change Finishes (foldEach (voiceItems json) [] parseUpdate >>= applyUpdates confInfo) ↔ _
    rw [finishes_bind_iff]
    simp only [applied, and_true]
    exact Iff.rfl
  | alive =>
    unfold VoiceReadable
    rw [← finishes_foldEach_iff finishes_applyVoiceState_iff (voiceItems json)
      { voices with needsUpdate := false }]
    change Finishes (setVoiceActivity voices json) ↔ _
    unfold setVoiceActivity
    rw [finishes_bind_iff]
    constructor
    · rintro ⟨after, result, _⟩
      exact ⟨after, result⟩
    · rintro ⟨after, result⟩
      refine ⟨after, result, ?_⟩
      split
      · exact finishes_call _
      · exact finishes_pure ()

/-! ### All three -/

/-- What a peer sends is read to the end exactly if it has the types its reader
expects. -/
theorem received_json_finishes_iff (isModerator : String → Bool) (peerId : String)
    (link : ConferenceLink) (confInfo : List ParticipantInfo) (voices : VoiceState)
    (json : JsonValue) :
    (Finishes (onConfOrder isModerator (some peerId) (some json)) ↔
      OrderReadable (conferenceHandlers isModerator) (isModerator peerId) json) ∧
    (Finishes (setConferenceInfo link (some json)) ↔ InfoReadable json) ∧
    (Finishes (setConferenceVoiceActivity link confInfo voices (some json)) ↔
      VoiceReadable link json) := by
  refine ⟨?_, ?_, ?_⟩
  · exact finishes_parse_iff rfl json
  · exact finishes_setConferenceInfo_iff link json
  · exact finishes_setConferenceVoiceActivity_iff link confInfo voices json

/-- A list as an order, a number as a participant, a text as a state. -/
theorem received_json_raises :
    ¬ Finishes (onConfOrder (fun _ => false) (some "guest") (some (.array []))) ∧
    ¬ Finishes (setConferenceInfo .uninitialized (some (.array [.int 1]))) ∧
    ¬ Finishes (setConferenceVoiceActivity .uninitialized [] ⟨[], [], false⟩
      (some (.object [("state", .string "on")]))) := by
  refine ⟨?_, ?_, ?_⟩
  · rintro ⟨value, result⟩
    cases result
  · rintro ⟨value, result⟩
    cases result
  · rintro ⟨value, result⟩
    cases result

end SipCore
