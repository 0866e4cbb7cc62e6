/-
The check an incoming offer goes through before the call is taken. It goes over
the lines and the local codecs by code of its own, and accepts exactly if the
answer would have a codec in common with a line it can use.
-/

import SipCore.Sdp.Answer

namespace SipCore

variable (media : SdpMedia)

structure LocalCodecSpec where
  payload : Nat := 0
  encName : String := ""
  clockRate : Nat := 0
  channels : Nat := 0
  deriving DecidableEq, Repr

namespace Sdp

def hasSupportedRtpTransport (media : SdpMedia) : Bool :=
  stricmp media.transport "RTP/AVP" || stricmp media.transport "RTP/SAVP"

def audioSpec (codec : AccountCodecInfo) : LocalCodecSpec :=
  { payload := codec.payloadType
    encName := codec.systemCodecInfo.name
    channels :=
      if codec.isOpus then 2
      else if codec.audioformat.nbChannels > 1 then codec.audioformat.nbChannels
      else 0
    clockRate :=
      if codec.isPCMG722 || codec.isG729 then 8000 else codec.audioformat.sampleRate }

def videoSpec (codec : AccountCodecInfo) (dynamicPayload : Nat) : LocalCodecSpec :=
  { payload := dynamicPayload
    encName := codec.systemCodecInfo.name
    clockRate := 90000 }

/-- The description of a local codec, if it has one, and the next dynamic payload
type. A null pointer is no codec. -/
def resolveLocalCodecSpec (accountCodec : Option AccountCodecInfo) (type : MediaType)
    (dynamicPayload : Nat) : Option LocalCodecSpec × Nat :=
  match accountCodec with
  | none => (none, dynamicPayload)
  | some codec =>
    if !codec.systemCodecInfo.mediaType.meets type then (none, dynamicPayload)
    else
      match type with
      | .audio => (checked (audioSpec codec), dynamicPayload)
      | .video => (checked (videoSpec codec dynamicPayload), dynamicPayload + 1)
      | _ => (none, dynamicPayload)
where
  checked (spec : LocalCodecSpec) : Option LocalCodecSpec :=
    if spec.encName ≠ "" && spec.clockRate > 0 then some spec else none

def specOffered (media : SdpMedia) (spec : LocalCodecSpec) : Bool :=
  (findRemotePayloadType media spec.encName spec.clockRate spec.channels).isSome ||
    (spec.payload < 96 && offerHasFormat media spec.payload)

def hasCompatibleCodec (media : SdpMedia) (type : MediaType) :
    Nat → List (Option AccountCodecInfo) → Bool
  | _, [] => false
  | dynamicPayload, accountCodec :: rest =>
    match resolveLocalCodecSpec accountCodec type dynamicPayload with
    | (none, next) => hasCompatibleCodec media type next rest
    | (some spec, next) => specOffered media spec || hasCompatibleCodec media type next rest

def hasNegotiableMedia (sdpSession : Option SdpSession)
    (audioCodecs videoCodecs : List (Option AccountCodecInfo)) : Bool :=
  match sdpSession with
  | none => false
  | some session =>
    session.media.any fun media =>
      let type := media.getSupportedMediaType
      type ≠ .none && media.port ≠ 0 && hasSupportedRtpTransport media &&
        hasCompatibleCodec media type 96 (if type = .audio then audioCodecs else videoCodecs)

structure Describable (type : MediaType) (codec : AccountCodecInfo) : Prop where
  ownType : codec.systemCodecInfo.mediaType.meets type = true
  named : codec.systemCodecInfo.name ≠ ""
  clocked : type = .audio → 0 < (audioSpec codec).clockRate

theorem specOffered_iff (spec : LocalCodecSpec) (rc : ResolvedCodec)
    (payload : spec.payload = rc.payload) (encName : spec.encName = rc.encName)
    (clockRate : spec.clockRate = rc.clockRate) (channels : spec.channels = rc.channels) :
    specOffered media spec = (matchedPayload media rc).isSome := by
  unfold specOffered matchedPayload
  rw [payload, encName, clockRate, channels]
  cases findRemotePayloadType media rc.encName rc.clockRate rc.channels with
  | some pt => rfl
  | none =>
    cases rc.payload < 96 && offerHasFormat media rc.payload with
    | true => simp
    | false => simp

private theorem exists_matchRemote_iff (codecs : List ResolvedCodec) :
    (∃ rc, rc ∈ matchRemote media codecs) ↔
      codecs.any (fun rc => (matchedPayload media rc).isSome) = true := by
  unfold matchRemote
  simp only [List.mem_filterMap, List.any_eq_true]
  constructor
  · rintro ⟨_, rc, member, found⟩
    rcases Option.map_eq_some_iff.mp found with ⟨pt, offered, _⟩
    exact ⟨rc, member, Option.isSome_iff_exists.mpr ⟨pt, offered⟩⟩
  · rintro ⟨rc, member, found⟩
    rcases Option.isSome_iff_exists.mp found with ⟨pt, offered⟩
    exact ⟨_, rc, member, Option.map_eq_some_iff.mpr ⟨pt, offered, rfl⟩⟩

theorem resolveLocalCodecSpec_audio {codec : AccountCodecInfo} (usable : Describable .audio codec)
    (dynamicPayload : Nat) :
    resolveLocalCodecSpec (some codec) .audio dynamicPayload =
      (some (audioSpec codec), dynamicPayload) := by
  have named : (audioSpec codec).encName ≠ "" := usable.named
  have clocked := usable.clocked rfl
  simp [resolveLocalCodecSpec, resolveLocalCodecSpec.checked, usable.ownType, named, clocked]

theorem resolveLocalCodecSpec_video {codec : AccountCodecInfo} (usable : Describable .video codec)
    (dynamicPayload : Nat) :
    resolveLocalCodecSpec (some codec) .video dynamicPayload =
      (some (videoSpec codec dynamicPayload), dynamicPayload + 1) := by
  have named : (videoSpec codec dynamicPayload).encName ≠ "" := usable.named
  have clocked : 0 < (videoSpec codec dynamicPayload).clockRate := Nat.succ_pos 89999
  simp [resolveLocalCodecSpec, resolveLocalCodecSpec.checked, usable.ownType, named, clocked]

theorem hasCompatibleCodec_audio (dynamicPayload : Nat) {codecs : List AccountCodecInfo}
    (usable : ∀ codec ∈ codecs, Describable .audio codec) :
    hasCompatibleCodec media .audio dynamicPayload (codecs.map some) =
      (localCodecs .audio codecs).any (fun rc => (matchedPayload media rc).isSome) := by
  unfold localCodecs
  rw [if_pos rfl]
  induction codecs with
  | nil => rfl
  | cons codec rest ih =>
    rw [List.map_cons, hasCompatibleCodec,
      resolveLocalCodecSpec_audio (usable codec List.mem_cons_self)]
    dsimp only
    rw [ih (fun other member => usable other (List.mem_cons_of_mem _ member)), List.map_cons,
      List.any_cons,
      specOffered_iff media (audioSpec codec) (resolveAudio codec codec.payloadType)
        rfl rfl rfl rfl]

private theorem hasCompatibleCodec_video (count : Nat) {codecs : List AccountCodecInfo}
    (usable : ∀ codec ∈ codecs, Describable .video codec) :
    hasCompatibleCodec media .video (96 + count) (codecs.map some) =
      ((codecs.zipIdx count).map (fun entry => resolveVideo entry.1 (96 + entry.2))).any
        (fun rc => (matchedPayload media rc).isSome) := by
  induction codecs generalizing count with
  | nil => rfl
  | cons codec rest ih =>
    rw [List.map_cons, hasCompatibleCodec,
      resolveLocalCodecSpec_video (usable codec List.mem_cons_self)]
    dsimp only
    rw [Nat.add_assoc, ih (count + 1)
        (fun other member => usable other (List.mem_cons_of_mem _ member)), List.zipIdx_cons,
      List.map_cons, List.any_cons,
      specOffered_iff media (videoSpec codec (96 + count)) (resolveVideo codec (96 + count))
        rfl rfl rfl rfl]

theorem hasCompatibleCodec_iff (sdp : Sdp) (media : SdpMedia)
    (audioUsable : ∀ codec ∈ sdp.audioCodecList, Describable .audio codec)
    (videoUsable : ∀ codec ∈ sdp.videoCodecList, Describable .video codec)
    {type : MediaType} (supported : type = .audio ∨ type = .video) :
    hasCompatibleCodec media type 96
        (if type = .audio then sdp.audioCodecList.map some else sdp.videoCodecList.map some) =
        true ↔
      ∃ rc, rc ∈ sdp.agreedCodecs type media := by
  unfold agreedCodecs
  rw [exists_matchRemote_iff]
  rcases supported with rfl | rfl
  · rw [if_pos rfl, hasCompatibleCodec_audio media 96 audioUsable]
    rfl
  · rw [if_neg (by decide), hasCompatibleCodec_video media 0 videoUsable]
    rfl

private theorem getSupportedMediaType_ne_none :
    media.getSupportedMediaType ≠ .none ↔
      media.getSupportedMediaType = .audio ∨ media.getSupportedMediaType = .video := by
  unfold SdpMedia.getSupportedMediaType
  split
  · simp
  · split
    · simp
    · simp

/-- An offer passes the check exactly if it has a line in use, audio or video over
plain or secure RTP, for which the answer has a codec before any is adopted. -/
theorem hasNegotiableMedia_iff (offer : SdpSession) (sdp : Sdp)
    (audioUsable : ∀ codec ∈ sdp.audioCodecList, Describable .audio codec)
    (videoUsable : ∀ codec ∈ sdp.videoCodecList, Describable .video codec) :
    hasNegotiableMedia (some offer) (sdp.audioCodecList.map some)
        (sdp.videoCodecList.map some) = true ↔
      ∃ media ∈ offer.media,
        (media.getSupportedMediaType = .audio ∨ media.getSupportedMediaType = .video) ∧
          media.port ≠ 0 ∧
          (stricmp media.transport "RTP/AVP" = true ∨ stricmp media.transport "RTP/SAVP" = true) ∧
          ∃ rc, rc ∈ sdp.agreedCodecs media.getSupportedMediaType media := by
  unfold hasNegotiableMedia
  simp only [List.any_eq_true, Bool.and_eq_true, decide_eq_true_eq]
  constructor
  · rintro ⟨media, member, ⟨⟨supported, enabled⟩, transport⟩, compatible⟩
    have known := (getSupportedMediaType_ne_none media).mp supported
    refine ⟨media, member, known, enabled, Bool.or_eq_true_iff.mp transport, ?_⟩
    exact (hasCompatibleCodec_iff sdp media audioUsable videoUsable known).mp compatible
  · rintro ⟨media, member, known, enabled, transport, found⟩
    refine ⟨media, member, ⟨⟨(getSupportedMediaType_ne_none media).mpr known, enabled⟩,
      Bool.or_eq_true_iff.mpr transport⟩, ?_⟩
    exact (hasCompatibleCodec_iff sdp media audioUsable videoUsable known).mpr found

/-- A local list of PCMU alone against static formats without an `rtpmap`. -/
theorem hasNegotiableMedia_static :
    let offer : SdpSession :=
      { media := [⟨"image", 99, "udptl", [], [], none⟩, ⟨"audio", 4000, "RTP/AVP", [8, 0], [], none⟩]
        conn := none }
    let sdp : Sdp :=
      { sdpDirection := .answer, audioCodecList := [.ofSystem SystemCodecInfo.pcmu] }
    hasNegotiableMedia (some offer) [some (.ofSystem SystemCodecInfo.pcmu)] [] = true ∧
      ∃ media ∈ offer.media,
        (media.getSupportedMediaType = .audio ∨ media.getSupportedMediaType = .video) ∧
          media.port ≠ 0 ∧
          (stricmp media.transport "RTP/AVP" = true ∨ stricmp media.transport "RTP/SAVP" = true) ∧
          ∃ rc, rc ∈ sdp.agreedCodecs media.getSupportedMediaType media := by
  intro offer sdp
  have accepted : hasNegotiableMedia (some offer) [some (.ofSystem SystemCodecInfo.pcmu)] [] =
      true := by decide
  refine ⟨accepted, (hasNegotiableMedia_iff offer sdp ?_ ?_).mp accepted⟩
  · intro codec member
    rw [List.mem_singleton.mp member]
    exact ⟨by decide, by decide, by decide⟩
  · intro codec member
    cases member

end Sdp

end SipCore
