/-
Answers to a peer's request to change the media of a call. The answer is a list
of streams, read by position: the entries in front are the host's or the call's
own, the rest are taken over from the request. A call in a conference is
answered from the host's sources, any other call from its streams.
-/

import SipCore.Conference.HostSources

namespace SipCore

open MediaAttribute SIPCall

/-- The list grows to the length of the request by the entries it lacks. -/
def acceptNewMedia (newMediaList remoteMediaList : List MediaMap) : List MediaMap :=
  newMediaList ++ remoteMediaList.drop newMediaList.length

namespace Conference

/-- Both lookups of the filter over the request are by `at`, which raises for a
missing key; the second is made only if the first does not decide. -/
def isReadable (media : MediaMap) : Bool :=
  match media.find? .muted with
  | none => false
  | some muted => muted = boolToString true || media.contains .enabled

def minimumMediaList (conference : Conference) : List MediaMap :=
  mediaAttributesToMediaMaps
    (conference.hostSources.filter (fun media => media.enabled && !media.muted))

structure HandledRequest where
  answered : List MediaMap
  entersConference : Bool

/-- The filtered copy of the request is only computed, never read. -/
def handleMediaChangeRequest (conference : Conference) (call : SIPCall)
    (remoteMediaList : List MediaMap) : Option HandledRequest :=
  if remoteMediaList.all isReadable then
    some
      { answered := acceptNewMedia conference.minimumMediaList remoteMediaList
        entersConference := call.conf ≠ some conference.id }
  else none

end Conference

namespace SIPCall

def mediaDiffers (remote : MediaAttribute) (stream : RtpStream) : Bool :=
  remote.type ≠ stream.mediaAttribute.type || remote.enabled ≠ stream.mediaAttribute.enabled

def checkMediaChangeRequest (call : SIPCall) (remoteMediaList : List MediaMap) : Bool :=
  let remoteMediaAttrList := buildMediaAttributesList remoteMediaList call.srtpEnabled
  remoteMediaAttrList.length ≠ call.rtpStreams.length ||
    (remoteMediaAttrList.zip call.rtpStreams).any (fun pair => mediaDiffers pair.1 pair.2)

def enrichMedia (platform : Platform) (media : MediaMap) : MediaMap :=
  if media.find? .mediaType = some (mediaTypeToString .video) then
    let source := (media.find? .source).getD ""
    media.assign .source (if source = "" then platform.defaultMrl else source)
  else media

inductive MediaChangeOutcome where
  | noAccount
  | answered (mediaList : List MediaMap) (isRemote : Bool)
  | reported (mediaList : List MediaMap)

/-- `none` is the failed assertion that the request is not empty. -/
def handleMediaChangeRequest (platform : Platform) (call : SIPCall)
    (remoteMediaList : List MediaMap) : Option MediaChangeOutcome :=
  match call.account with
  | none => some .noAccount
  | some account =>
    if !call.checkMediaChangeRequest remoteMediaList then
      some (.answered (mediaAttributesToMediaMaps call.getMediaAttributeList) false)
    else
      let enrichedMediaList := remoteMediaList.map (enrichMedia platform)
      if account.autoAnswerEnabled then
        if enrichedMediaList = [] then none
        else
          some (.answered (acceptNewMedia
            (mediaAttributesToMediaMaps call.getMediaAttributeList) enrichedMediaList) true)
      else some (.reported enrichedMediaList)

end SIPCall

def mediaTypes (mediaList : List MediaMap) : List MediaType := mediaList.map MediaMap.type

def AnswersEach (answered remoteMediaList : List MediaMap) : Prop :=
  answered.length = remoteMediaList.length ∧
    ∀ i, i < remoteMediaList.length →
      (answered[i]?).map MediaMap.type = (remoteMediaList[i]?).map MediaMap.type

theorem answersEach_iff (answered remoteMediaList : List MediaMap) :
    AnswersEach answered remoteMediaList ↔ mediaTypes answered = mediaTypes remoteMediaList := by
  unfold AnswersEach mediaTypes
  constructor
  · intro each
    apply List.ext_getElem?
    intro i
    rw [List.getElem?_map, List.getElem?_map]
    rcases Nat.lt_or_ge i remoteMediaList.length with within | beyond
    · exact each.2 i within
    · rw [List.getElem?_eq_none beyond, List.getElem?_eq_none (each.1 ▸ beyond)]
  · intro same
    constructor
    · have lengths := congrArg List.length same
      rwa [List.length_map, List.length_map] at lengths
    · intro i _within
      rw [← List.getElem?_map, ← List.getElem?_map, same]

private theorem acceptNewMedia_answers_iff (newMediaList remoteMediaList : List MediaMap) :
    AnswersEach (acceptNewMedia newMediaList remoteMediaList) remoteMediaList ↔
      mediaTypes newMediaList <+: mediaTypes remoteMediaList := by
  rw [answersEach_iff, List.prefix_iff_eq_append]
  unfold acceptNewMedia mediaTypes
  rw [List.map_append, List.map_drop, List.length_map]

theorem enrichMedia_type (platform : Platform) (media : MediaMap) :
    (SIPCall.enrichMedia platform media).type = media.type := by
  unfold SIPCall.enrichMedia
  split
  · simp [MediaMap.type, MediaMap.getMediaType, AssocMap.find?_assign]
  · rfl

private theorem mediaTypes_enrich (platform : Platform) (mediaList : List MediaMap) :
    mediaTypes (mediaList.map (SIPCall.enrichMedia platform)) = mediaTypes mediaList := by
  unfold mediaTypes
  rw [List.map_map]
  exact List.map_congr_left (fun media _ => enrichMedia_type platform media)

theorem type_toMediaMap_of_agrees {mediaAttr : MediaAttribute} {media : MediaMap}
    (agrees : media.type = mediaAttr.type) : (toMediaMap mediaAttr).type = media.type := by
  rw [type_toMediaMap, ← agrees]
  have notAll := media.type_ne_all
  cases known : media.type with
  | none => rfl
  | audio => rfl
  | video => rfl
  | all => exact absurd known notAll

theorem unchanged_answers {call : SIPCall} {remoteMediaList : List MediaMap}
    (unchanged : call.checkMediaChangeRequest remoteMediaList = false) :
    mediaTypes (mediaAttributesToMediaMaps call.getMediaAttributeList) =
      mediaTypes remoteMediaList := by
  unfold SIPCall.checkMediaChangeRequest buildMediaAttributesList at unchanged
  simp only [Bool.or_eq_false_iff, decide_eq_false_iff_not, ne_eq, Decidable.not_not,
    List.length_map] at unchanged
  obtain ⟨lengths, pairs⟩ := unchanged
  unfold mediaTypes mediaAttributesToMediaMaps SIPCall.getMediaAttributeList
  apply List.ext_getElem
  · simp [lengths]
  · intro i ofStream ofRequest
    simp only [List.length_map] at ofStream ofRequest
    simp only [List.getElem_map]
    apply type_toMediaMap_of_agrees
    have member : (ofMediaMap remoteMediaList[i] call.srtpEnabled, call.rtpStreams[i]) ∈
        (remoteMediaList.map (fun media => ofMediaMap media call.srtpEnabled)).zip
          call.rtpStreams := by
      rw [List.mem_iff_getElem]
      refine ⟨i, ?_, ?_⟩
      · rw [List.length_zip, List.length_map]
        exact Nat.lt_min.mpr ⟨ofRequest, ofStream⟩
      · rw [List.getElem_zip, List.getElem_map]
    have same := List.any_eq_false.mp pairs _ member
    simp only [SIPCall.mediaDiffers, Bool.or_eq_true, decide_eq_true_eq, not_or, ne_eq,
      Decidable.not_not] at same
    exact same.1

/-- In a conference the request is answered entry by entry exactly if the
enabled, unmuted host sources are of the types the request starts with. With
auto-answer a call outside a conference is so exactly if its streams are. -/
theorem media_change_answered_each_iff (platform : Platform) (conference : Conference)
    (call : SIPCall) (remoteMediaList : List MediaMap) :
    (remoteMediaList.all Conference.isReadable = true →
      ∃ handled, conference.handleMediaChangeRequest call remoteMediaList = some handled ∧
        (AnswersEach handled.answered remoteMediaList ↔
          mediaTypes conference.minimumMediaList <+: mediaTypes remoteMediaList)) ∧
    (call.account = some ⟨true⟩ → remoteMediaList ≠ [] →
      ∃ answered isRemote, call.handleMediaChangeRequest platform remoteMediaList =
          some (.answered answered isRemote) ∧
        (AnswersEach answered remoteMediaList ↔
          mediaTypes (mediaAttributesToMediaMaps call.getMediaAttributeList) <+:
            mediaTypes remoteMediaList)) := by
  constructor
  · intro readable
    unfold Conference.handleMediaChangeRequest
    rw [if_pos readable]
    exact ⟨_, rfl, acceptNewMedia_answers_iff _ _⟩
  · intro auto nonempty
    unfold SIPCall.handleMediaChangeRequest
    rw [auto]
    cases changed : call.checkMediaChangeRequest remoteMediaList with
    | false =>
      have same := unchanged_answers changed
      refine ⟨_, _, rfl, ?_⟩
      rw [answersEach_iff, same]
      exact iff_of_true rfl (List.prefix_refl _)
    | true =>
      have kept : remoteMediaList.map (SIPCall.enrichMedia platform) ≠ [] :=
        fun empty => nonempty (List.map_eq_nil_iff.mp empty)
      simp only [Bool.not_true, Bool.false_eq_true, if_false, if_true, if_neg kept]
      refine ⟨_, _, rfl, ?_⟩
      -- enriching a source changes no type, so the request may stand for its enriched copy
      have enriched := acceptNewMedia_answers_iff
        (mediaAttributesToMediaMaps call.getMediaAttributeList)
        (remoteMediaList.map (SIPCall.enrichMedia platform))
      rw [answersEach_iff, mediaTypes_enrich] at enriched
      rw [answersEach_iff]
      exact enriched

def requestOf (types : List MediaType) : List MediaMap :=
  types.map (fun type => toMediaMap { type := type, enabled := true })

def callWith (types : List MediaType) : SIPCall :=
  { account := some ⟨true⟩
    rtpStreams := types.map (fun type => ⟨{ type := type, enabled := true }⟩) }

/-- An audio host and an audio call, asked to add video. -/
theorem added_video_answered_each :
    (∃ handled, Conference.handleMediaChangeRequest
        ⟨"conf", .activeAttached, [Conference.defaultAudioSource], ["call"], [], false, true⟩
        (callWith [.audio]) (requestOf [.audio, .video]) = some handled ∧
      AnswersEach handled.answered (requestOf [.audio, .video])) ∧
    ∃ answered isRemote, (callWith [.audio]).handleMediaChangeRequest plainPlatform
        (requestOf [.audio, .video]) = some (.answered answered isRemote) ∧
      AnswersEach answered (requestOf [.audio, .video]) := by
  have both := media_change_answered_each_iff plainPlatform
    ⟨"conf", .activeAttached, [Conference.defaultAudioSource], ["call"], [], false, true⟩
    (callWith [.audio]) (requestOf [.audio, .video])
  obtain ⟨handled, result, iff⟩ := both.1 (by decide)
  obtain ⟨answered, isRemote, callResult, callIff⟩ := both.2 rfl (by decide)
  exact ⟨⟨handled, result, iff.mpr (by decide)⟩,
    ⟨answered, isRemote, callResult, callIff.mpr (by decide)⟩⟩

/-- A host with muted audio answers a request for audio and video with two video
entries. A call that has both answers a request for audio alone with two entries. -/
theorem muted_host_answers_audio_with_video :
    (∃ handled, Conference.handleMediaChangeRequest
        ⟨"conf", .activeAttached,
          [{ Conference.defaultAudioSource with muted := true },
            Conference.defaultVideoSource plainPlatform "camera"], ["call"], [], false, true⟩
        (callWith [.audio, .video]) (requestOf [.audio, .video]) = some handled ∧
      ¬ AnswersEach handled.answered (requestOf [.audio, .video])) ∧
    ∃ answered isRemote, (callWith [.audio, .video]).handleMediaChangeRequest plainPlatform
        (requestOf [.audio]) = some (.answered answered isRemote) ∧
      ¬ AnswersEach answered (requestOf [.audio]) := by
  simp only [answersEach_iff]
  constructor
  · decide
  · refine ⟨_, _, rfl, ?_⟩
    decide

end SipCore
