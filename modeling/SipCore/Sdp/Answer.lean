/-
Building one `m=` line. The local codecs are matched against the offered line,
unmatched ones are dropped; an audio line that would end up without a codec
adopts what the system supports and keeps it in the local list; a line with
nothing in common is answered with port zero.
-/

import SipCore.Sdp.Session

namespace SipCore

inductive SdpDirection where
  | offer
  | answer
  | none
  deriving DecidableEq, Repr

structure SdpException where
  what : String
  deriving DecidableEq, Repr

structure Sdp where
  sdpDirection : SdpDirection := .none
  audioCodecList : List AccountCodecInfo := []
  videoCodecList : List AccountCodecInfo := []
  localAudioRtpPort : Nat := 0
  localAudioRtcpPort : Nat := 0
  localVideoRtpPort : Nat := 0
  localVideoRtcpPort : Nat := 0
  telephoneEventPayload : Nat := 101
  publishedIpAddr : String := ""
  localSession : Option SdpSession := none
  remoteSession : Option SdpSession := none
  activeLocalSession : Option SdpSession := none
  activeRemoteSession : Option SdpSession := none
  deriving DecidableEq, Repr

namespace RtpMap

/-- A missing parameter, or one without digits, is one channel. -/
def channels (map : RtpMap) : Nat :=
  match map.param with
  | some value => if value > 0 then value else 1
  | none => 1

def describes (map : RtpMap) (encName : String) (clockRate channels : Nat) : Bool :=
  stricmp map.encName encName && map.clockRate == clockRate &&
    map.channels == (if channels = 0 then 1 else channels)

end RtpMap

namespace Sdp

def findRemotePayloadType (remoteMedia : SdpMedia) (encName : String)
    (clockRate channels : Nat) : Option Nat :=
  remoteMedia.attrs.findSome? fun
    | .rtpmap pt (some map) => if map.describes encName clockRate channels then some pt else none
    | _ => none

def findRemoteTelephoneEventPayload (remoteMedia : SdpMedia) : Option Nat :=
  findRemotePayloadType remoteMedia "telephone-event" 8000 0

def offerHasFormat (remoteMedia : SdpMedia) (pt : Nat) : Bool := remoteMedia.fmts.contains pt

structure ResolvedCodec where
  codec : AccountCodecInfo
  payload : Nat
  encName : String
  clockRate : Nat
  channels : Nat
  deriving DecidableEq, Repr

def resolveAudio (codec : AccountCodecInfo) (payload : Nat) : ResolvedCodec :=
  { codec := codec
    payload := payload
    encName := codec.systemCodecInfo.name
    clockRate :=
      if codec.isPCMG722 || codec.isG729 then 8000 else codec.audioformat.sampleRate
    channels :=
      if codec.isOpus then 2
      else if codec.audioformat.nbChannels > 1 then codec.audioformat.nbChannels
      else 0 }

def resolveVideo (codec : AccountCodecInfo) (payload : Nat) : ResolvedCodec :=
  { codec := codec
    payload := payload
    encName := codec.systemCodecInfo.name
    clockRate := 90000
    channels := 0 }

/-- The local codecs with the payload types an offer of ours would use; the
video ones are numbered in list order. -/
def localCodecs (type : MediaType) (codecs : List AccountCodecInfo) : List ResolvedCodec :=
  if type = .audio then codecs.map (fun codec => resolveAudio codec codec.payloadType)
  else codecs.zipIdx.map (fun entry => resolveVideo entry.1 (96 + entry.2))

def matchedPayload (remoteMedia : SdpMedia) (rc : ResolvedCodec) : Option Nat :=
  match findRemotePayloadType remoteMedia rc.encName rc.clockRate rc.channels with
  | some pt => some pt
  | none =>
    if rc.payload < 96 && offerHasFormat remoteMedia rc.payload then some rc.payload else none

def matchRemote (remoteMedia : SdpMedia) (codecs : List ResolvedCodec) : List ResolvedCodec :=
  codecs.filterMap (fun rc =>
    (matchedPayload remoteMedia rc).map (fun pt => { rc with payload := pt }))

/-- One codec is adopted once, under the first payload type that names it. -/
def adoptSystemCodec (resolved : List ResolvedCodec) (sysInfo : Option SystemCodecInfo)
    (offerPt : Nat) : List ResolvedCodec :=
  match sysInfo with
  | none => resolved
  | some info =>
    if !info.mediaType.meets .audio then resolved
    else if resolved.any (fun rc => rc.codec.systemCodecInfo.id = info.id) then resolved
    else resolved ++ [resolveAudio (AccountCodecInfo.ofSystem info) offerPt]

def adoptStatic (resolved : List ResolvedCodec) (pt : Nat) : List ResolvedCodec :=
  if pt ≥ 96 then resolved
  else adoptSystemCodec resolved (SystemCodecContainer.searchCodecByPayload pt .audio) pt

def adoptDynamic (resolved : List ResolvedCodec) : SdpAttr → List ResolvedCodec
  | .rtpmap pt (some map) =>
    if pt < 96 then resolved
    else if map.encName = "telephone-event" then resolved
    else adoptSystemCodec resolved (SystemCodecContainer.searchCodecByName map.encName .audio) pt
  | _ => resolved

def adoptCodecs (remoteMedia : SdpMedia) : List ResolvedCodec :=
  remoteMedia.attrs.foldl adoptDynamic (remoteMedia.fmts.foldl adoptStatic [])

def mediaDirection (mediaAttr : MediaAttribute) : MediaDirection :=
  if !mediaAttr.enabled then .inactive
  else if mediaAttr.type = .audio && mediaAttr.onHold then .sendonly
  else .sendrecv

def directionAttr (mediaAttr : MediaAttribute) : SdpAttr := .flag (mediaDirection mediaAttr).text

def defaultH264ProfileLevelId : String := "profile-level-id=428029"

/-- The attributes of one codec. The two format parameter lines are created as
attributes without a value, their text being the name. -/
def codecAttrs (type : MediaType) (rc : ResolvedCodec) : List SdpAttr :=
  let rtpmap := SdpAttr.rtpmap rc.payload (some
    { encName := rc.encName
      clockRate := rc.clockRate
      param := if rc.channels > 1 then some rc.channels else none })
  let annexb :=
    if type = .audio && rc.codec.isG729 then
      [SdpAttr.flag ("fmtp:" ++ toString rc.payload ++ " annexb=yes")]
    else []
  let profile :=
    if rc.encName = "H264" then
      let profileLevelId :=
        if rc.codec.parameters = "" then defaultH264ProfileLevelId else rc.codec.parameters
      [SdpAttr.flag ("fmtp:" ++ toString rc.payload ++ " " ++ profileLevelId)]
    else []
  rtpmap :: annexb ++ profile

def addTelephoneEvent (med : SdpMedia) (pt : Nat) : SdpMedia :=
  { med with
    fmts := med.fmts ++ [pt]
    attrs := med.attrs ++
      [.rtpmap pt (some ⟨"telephone-event", 8000, none⟩), .fmtp pt "0-15"] }

def setTelephoneEventRtpmap (sdp : Sdp) (med : SdpMedia) (remoteMedia : Option SdpMedia) :
    SdpMedia :=
  match sdp.sdpDirection, remoteMedia with
  | .answer, some remote =>
    match findRemoteTelephoneEventPayload remote with
    | none => med
    | some pt => addTelephoneEvent med pt
  | _, _ => addTelephoneEvent med sdp.telephoneEventPayload

def addRTCPAttribute (med : SdpMedia) (port : Nat) : SdpMedia :=
  { med with attrs := med.attrs ++ [.rtcp port] }

def describeMedia (sdp : Sdp) (mediaAttr : MediaAttribute) (remoteMedia : Option SdpMedia)
    (med : SdpMedia) (resolved : List ResolvedCodec) : SdpMedia :=
  let listed :=
    { med with
      fmts := resolved.map ResolvedCodec.payload
      attrs := resolved.flatMap (codecAttrs mediaAttr.type) }
  let controlled :=
    if mediaAttr.type = .audio then
      let withEvents := setTelephoneEventRtpmap sdp listed remoteMedia
      if sdp.localAudioRtcpPort ≠ 0 then addRTCPAttribute withEvents sdp.localAudioRtcpPort
      else withEvents
    else if sdp.localVideoRtcpPort ≠ 0 then addRTCPAttribute listed sdp.localVideoRtcpPort
    else listed
  { controlled with attrs := controlled.attrs ++ [directionAttr mediaAttr] }

def codecList (sdp : Sdp) (type : MediaType) : List AccountCodecInfo :=
  if type = .audio then sdp.audioCodecList else sdp.videoCodecList

def agreedCodecs (sdp : Sdp) (type : MediaType) (remoteMedia : SdpMedia) : List ResolvedCodec :=
  matchRemote remoteMedia (localCodecs type (sdp.codecList type))

def answerCodecs (sdp : Sdp) (type : MediaType) (remoteMedia : SdpMedia) : List ResolvedCodec :=
  let resolved := sdp.agreedCodecs type remoteMedia
  if type = .audio && resolved.isEmpty && !remoteMedia.fmts.isEmpty then adoptCodecs remoteMedia
  else resolved

/-- Each adopted codec is appended to the local list where it is adopted. -/
def keepAdopted (sdp : Sdp) (type : MediaType) (remoteMedia : SdpMedia) : Sdp :=
  if type = .audio && (sdp.agreedCodecs type remoteMedia).isEmpty && !remoteMedia.fmts.isEmpty then
    { sdp with
      audioCodecList :=
        sdp.audioCodecList ++ (adoptCodecs remoteMedia).map ResolvedCodec.codec }
  else sdp

def emptyMedia (sdp : Sdp) (mediaAttr : MediaAttribute) : SdpMedia :=
  { media := if mediaAttr.type = .audio then "audio" else "video"
    port :=
      if !mediaAttr.enabled then 0
      else if mediaAttr.type = .audio then sdp.localAudioRtpPort else sdp.localVideoRtpPort
    transport := if mediaAttr.secure then "RTP/SAVP" else "RTP/AVP"
    fmts := []
    attrs := []
    conn := none }

def answerMedia (sdp : Sdp) (mediaAttr : MediaAttribute) (remoteMedia : SdpMedia) : SdpMedia :=
  let med := sdp.emptyMedia mediaAttr
  let resolved := sdp.answerCodecs mediaAttr.type remoteMedia
  match resolved, remoteMedia.fmts with
  | [], firstFormat :: _ =>
    { med with
      port := 0
      fmts := [firstFormat]
      attrs := [directionAttr mediaAttr] }
  | _, _ => sdp.describeMedia mediaAttr (some remoteMedia) med resolved

def addMediaDescription (sdp : Sdp) (mediaAttr : MediaAttribute)
    (remoteMedia : Option SdpMedia) : Except SdpException (Sdp × SdpMedia) :=
  match mediaAttr.type with
  | .audio | .video =>
    match sdp.sdpDirection, remoteMedia with
    | .answer, some remote =>
      .ok (sdp.keepAdopted mediaAttr.type remote, sdp.answerMedia mediaAttr remote)
    | _, _ =>
      let resolved := localCodecs mediaAttr.type (sdp.codecList mediaAttr.type)
      .ok (sdp, sdp.describeMedia mediaAttr remoteMedia (sdp.emptyMedia mediaAttr) resolved)
  | .none | .all =>
    .error ⟨"Unsupported media type! Only audio and video are supported"⟩

end Sdp

end SipCore
