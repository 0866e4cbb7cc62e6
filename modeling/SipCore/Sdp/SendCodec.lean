/-
The codec a call sends with against the answer it gave. The send side takes the
first offered format whose name and system clock rate a local codec has; the
answer side looks for each local codec's own name, clock rate and channels in the
offer. Both are stated on the offer and on the codec lists before it was processed.
-/

import SipCore.Sdp.AnswerMeaning
import SipCore.Sdp.Descriptions
import SipCore.Sdp.IncomingOffer

namespace SipCore.Sdp

def codecMeaning (codec : AccountCodecInfo) : Meaning :=
  if codec.systemCodecInfo.mediaType = .video then advertisedVideo codec else advertised codec

/-- The offered line is read back with a codec, under a payload type of the
answer that means this codec there. -/
def SendsAgreed (final : Sdp) (offer : SdpSession) (line : OfferedLine) (answer : SdpMedia) : Prop :=
  ∃ descr, (line, descr) ∈ (supportedLines offer).zip (final.getMediaDescriptions (some offer)) ∧
    descr.enabled = true ∧
    ∃ codec, descr.codec = some codec ∧
      descr.payloadType ∈ answer.fmts ∧
      ∃ map : RtpMap, SdpAttr.rtpmap descr.payloadType (some map) ∈ answer.attrs ∧
        map.meaning = codecMeaning codec

def describedAs (line : SdpMedia) (format : Nat) : Option (String × Nat) :=
  match line.findRtpmap format with
  | none => (guessedName format).map (fun name => (name, 8000))
  | some none => none
  | some (some rtpmap) =>
    if rtpmap.encName = "" then none else some (rtpmap.encName, rtpmap.clockRate)

/-- The first audio codec with the name and, in the system's list, the clock rate of the
format, or else the first video codec with the name. -/
def namedCodec (audio video : List AccountCodecInfo) (line : SdpMedia) (format : Nat) :
    Option AccountCodecInfo :=
  (describedAs line format).bind fun (name, clockRate) =>
    (audio.find? (fun codec => codec.systemCodecInfo.name = name &&
      (if codec.isPCMG722 then clockRate = 8000
        else codec.systemCodecInfo.audioformat.sampleRate = clockRate))).or
      (video.find? (fun codec => codec.systemCodecInfo.name = name))

/-- The format is the first of the line for which there is such a codec. -/
def SendsFirst (audio video : List AccountCodecInfo) (line : SdpMedia) (format : Nat)
    (codec : AccountCodecInfo) : Prop :=
  ∃ front back, line.fmts = front ++ format :: back ∧
    namedCodec audio video line format = some codec ∧
    ∀ earlier ∈ front, namedCodec audio video line earlier = none

/-- The offered line has the format for a codec of this meaning: one of the list, or an
adopted one where none of them is offered, or the telephone events. -/
def AnsweredAs (codecs : List AccountCodecInfo) (type : MediaType) (line : SdpMedia)
    (format : Nat) (meaning : Meaning) : Prop :=
  (∃ rc ∈ localCodecs type codecs, matchedPayload line rc = some format ∧ rc.meaning = meaning) ∨
    (type = .audio ∧ (∀ rc ∈ localCodecs type codecs, matchedPayload line rc = none) ∧
      ∃ rc ∈ adoptCodecs line, rc.payload = format ∧ rc.meaning = meaning) ∨
    (answeredEvent type line = some format ∧ meaning = telephoneEvent)

/-- What is adopted for an audio stream of whose line no codec of the list is offered. -/
def adoptedFor (audio : List AccountCodecInfo) :
    MediaAttribute × Option OfferedLine → List AccountCodecInfo
  | (_, none) => []
  | (media, some line) =>
    if media.enabled = true ∧ media.type = .audio ∧ line.1.fmts ≠ [] ∧
        ∀ rc ∈ localCodecs .audio audio, matchedPayload line.1 rc = none then
      (adoptCodecs line.1).map ResolvedCodec.codec
    else []

def audioAfter (audio : List AccountCodecInfo) (pairs : List (MediaAttribute × Option OfferedLine)) :
    List AccountCodecInfo :=
  pairs.foldl (fun known pair => known ++ adoptedFor known pair) audio

private theorem sendChoice_eq_some_iff (sdp : Sdp) (line : SdpMedia) (format : Nat)
    (codec : AccountCodecInfo) :
    sdp.sendChoice line line.fmts = some (format, codec) ↔
      SendsFirst sdp.audioCodecList sdp.videoCodecList line format codec := by
  have named : ∀ format, sdp.formatCodec line format =
      namedCodec sdp.audioCodecList sdp.videoCodecList line format := by
    intro format
    have spec : ∀ name clockRate, sdp.findCodecBySpec name clockRate =
        (sdp.audioCodecList.find? (fun codec => codec.systemCodecInfo.name = name &&
          (if codec.isPCMG722 then clockRate = 8000
            else codec.systemCodecInfo.audioformat.sampleRate = clockRate))).or
          (sdp.videoCodecList.find? (fun codec => codec.systemCodecInfo.name = name)) := by
      intro name clockRate
      unfold findCodecBySpec
      split <;> rename_i found <;> rw [found] <;> rfl
    unfold formatCodec namedCodec describedAs
    cases line.findRtpmap format with
    | none => cases guessedName format <;> simp [spec]
    | some body =>
      cases body with
      | none => rfl
      | some rtpmap =>
        simp only
        split <;> simp [spec]
  unfold sendChoice SendsFirst
  rw [List.findSome?_eq_some_iff]
  simp only [named, Option.map_eq_some_iff, Prod.mk.injEq, Option.map_eq_none_iff]
  constructor
  · rintro ⟨front, _, back, formats, ⟨_, found, rfl, rfl⟩, none⟩
    exact ⟨front, back, formats, found, none⟩
  · rintro ⟨front, back, formats, found, none⟩
    exact ⟨front, format, back, formats, ⟨codec, found, rfl, rfl⟩, none⟩

variable (before : Sdp) {line : OfferedLine}

theorem mem_agreedCodecs_iff (type : MediaType) (line : SdpMedia) (format : Nat) (meaning : Meaning) :
    (∃ rc ∈ before.agreedCodecs type line, rc.payload = format ∧ rc.meaning = meaning) ↔
      ∃ rc ∈ localCodecs type (before.codecList type),
        matchedPayload line rc = some format ∧ rc.meaning = meaning := by
  constructor
  · rintro ⟨rc, member, rfl, rfl⟩
    obtain ⟨original, originalMember, found⟩ := List.mem_filterMap.mp member
    obtain ⟨pt, matched, rfl⟩ := Option.map_eq_some_iff.mp found
    exact ⟨original, originalMember, matched, rfl⟩
  · rintro ⟨original, originalMember, matched, rfl⟩
    refine ⟨{ original with payload := format }, ?_, rfl, rfl⟩
    apply List.mem_filterMap.mpr
    exact ⟨original, originalMember, by rw [matched]; rfl⟩

theorem agreedCodecs_eq_nil_iff (type : MediaType) (line : SdpMedia) :
    before.agreedCodecs type line = [] ↔
      ∀ rc ∈ localCodecs type (before.codecList type), matchedPayload line rc = none := by
  unfold agreedCodecs matchRemote
  rw [List.filterMap_eq_nil_iff]
  simp only [Option.map_eq_none_iff]

private theorem mem_answerCodecs_iff (type : MediaType) {line : SdpMedia} (formats : line.fmts ≠ [])
    (format : Nat) (meaning : Meaning) :
    (∃ rc ∈ before.answerCodecs type line, rc.payload = format ∧ rc.meaning = meaning) ↔
      (∃ rc ∈ localCodecs type (before.codecList type),
          matchedPayload line rc = some format ∧ rc.meaning = meaning) ∨
        (type = .audio ∧ (∀ rc ∈ localCodecs type (before.codecList type),
            matchedPayload line rc = none) ∧
          ∃ rc ∈ adoptCodecs line, rc.payload = format ∧ rc.meaning = meaning) := by
  rw [← mem_agreedCodecs_iff, ← agreedCodecs_eq_nil_iff]
  unfold answerCodecs
  simp only
  split
  · rename_i adopting
    simp only [Bool.and_eq_true, decide_eq_true_eq, List.isEmpty_iff] at adopting
    obtain ⟨⟨audio, unmatched⟩, _⟩ := adopting
    simp [audio ▸ unmatched, audio]
  · rename_i keeping
    have matched : ¬ (type = .audio ∧ before.agreedCodecs type line = []) := by
      rintro ⟨audio, unmatched⟩
      apply keeping
      simp [audio, audio ▸ unmatched, formats]
    constructor
    · exact .inl
    · rintro (found | ⟨audio, unmatched, _⟩)
      · exact found
      · exact absurd ⟨audio, unmatched⟩ matched

private theorem rtpmap_mem_codecAttrs (type : MediaType) (rc : ResolvedCodec) :
    ∃ map : RtpMap, SdpAttr.rtpmap rc.payload (some map) ∈ codecAttrs type rc := by
  exact ⟨_, List.mem_cons_self⟩

private theorem eventMap_meaning : eventMap.meaning = telephoneEvent := rfl

theorem answerMedia_means_iff {before : Sdp} (answering : before.sdpDirection = .answer)
    {mediaAttr : MediaAttribute} {line : SdpMedia}
    (enabled : (before.answerMedia mediaAttr line).port ≠ 0) (formats : line.fmts ≠ [])
    (format : Nat) (meaning : Meaning) :
    (format ∈ (before.answerMedia mediaAttr line).fmts ∧
        ∃ map : RtpMap,
          SdpAttr.rtpmap format (some map) ∈ (before.answerMedia mediaAttr line).attrs ∧
            map.meaning = meaning) ↔
      AnsweredAs (before.codecList mediaAttr.type) mediaAttr.type line format meaning := by
  have described : before.answerMedia mediaAttr line =
      before.describeMedia mediaAttr (some line) (before.emptyMedia mediaAttr)
        (before.answerCodecs mediaAttr.type line) := by
    unfold answerMedia at enabled ⊢
    simp only at enabled ⊢
    split at enabled
    · exact absurd rfl enabled
    · rfl
  have codecs := mem_answerCodecs_iff before mediaAttr.type formats format meaning
  rw [described, describeMedia_fmts answering]
  simp only [describeMedia_rtpmap answering]
  unfold AnsweredAs
  rw [← or_assoc, ← codecs]
  constructor
  · rintro ⟨_, map, ⟨rc, member, emitted⟩ | ⟨found, rfl⟩, rfl⟩
    · obtain ⟨rfl, same⟩ := meaning_of_codecAttrs emitted
      exact .inl ⟨rc, member, rfl, same.symm⟩
    · exact .inr ⟨found, eventMap_meaning⟩
  · rintro (⟨rc, member, rfl, rfl⟩ | ⟨found, rfl⟩)
    · obtain ⟨map, emitted⟩ := rtpmap_mem_codecAttrs mediaAttr.type rc
      constructor
      · exact List.mem_append_left _ (List.mem_map_of_mem member)
      · exact ⟨map, .inl ⟨rc, member, emitted⟩, (meaning_of_codecAttrs emitted).2⟩
    · constructor
      · apply List.mem_append_right
        rw [found]
        exact List.mem_singleton_self format
      · exact ⟨eventMap, .inr ⟨found, rfl⟩, eventMap_meaning⟩

private theorem lockstep_supported {remote : List OfferedLine} {mediaList : List MediaAttribute}
    {media : MediaAttribute} (member : (media, some line) ∈ lockstep remote mediaList) :
    line ∈ remote ∧ isSupported line = true := by
  induction mediaList generalizing remote with
  | nil => cases member
  | cons first later ih =>
    unfold lockstep at member
    cases reached : remote.dropWhile (fun line => !isSupported line) with
    | nil =>
      rw [reached] at member
      rcases List.mem_cons.mp member with here | there
      · cases here
      · cases (ih there).1
    | cons found rest =>
      rw [reached] at member
      have suffix := List.dropWhile_suffix (fun line => !isSupported line) (l := remote)
      rw [reached] at suffix
      rcases List.mem_cons.mp member with here | there
      · cases here
        have head := List.head?_dropWhile_not (fun line => !isSupported line) remote
        rw [reached] at head
        exact ⟨suffix.mem List.mem_cons_self, by simpa using head⟩
      · obtain ⟨inRest, supported⟩ := ih there
        exact ⟨suffix.mem (List.mem_cons_of_mem found inRest), supported⟩

/-- What processing leaves of a state: the direction, and the lists. -/
structure Grown (sdp changed : Sdp) (audio : List AccountCodecInfo) : Prop where
  answering : changed.sdpDirection = .answer
  audio : changed.audioCodecList = audio
  video : changed.videoCodecList = sdp.videoCodecList

private theorem addMediaDescription_grows {sdp changed : Sdp} {answer : SdpMedia}
    {media : MediaAttribute} {remote : Option OfferedLine}
    (answering : sdp.sdpDirection = .answer) (enabled : media.enabled = true)
    (result : sdp.addMediaDescription media (remote.map Prod.fst) = .ok (changed, answer)) :
    Grown sdp changed (audioAfter sdp.audioCodecList [(media, remote)]) := by
  change Grown sdp changed (sdp.audioCodecList ++ adoptedFor sdp.audioCodecList (media, remote))
  cases remote with
  | none =>
    unfold addMediaDescription at result
    rw [answering] at result
    cases type : media.type with
    | audio | video =>
      rw [type] at result
      cases result
      exact ⟨answering, (List.append_nil _).symm, rfl⟩
    | none | all =>
      rw [type] at result
      cases result
  | some line =>
    rw [(addMediaDescription_answer answering result).1]
    have unmatched := agreedCodecs_eq_nil_iff sdp .audio line.1
    refine ⟨(keepAdopted_sdpDirection _ _ _).trans answering, ?_, ?_⟩
    · unfold keepAdopted
      by_cases adopts : media.type = .audio ∧ line.1.fmts ≠ [] ∧
          ∀ rc ∈ localCodecs .audio sdp.audioCodecList, matchedPayload line.1 rc = none
      · have none := unmatched.mpr adopts.2.2
        rw [adopts.1, none, if_pos (by simp [adopts.2.1])]
        exact congrArg (sdp.audioCodecList ++ ·) (if_pos ⟨enabled, adopts⟩).symm
      · rw [if_neg]
        · exact (List.append_nil _).symm.trans (congrArg (sdp.audioCodecList ++ ·)
            (if_neg (fun all : media.enabled = true ∧ _ => adopts all.2)).symm)
        · intro kept
          simp only [Bool.and_eq_true, decide_eq_true_eq, List.isEmpty_iff, Bool.not_eq_true',
            List.isEmpty_eq_false_iff] at kept
          obtain ⟨⟨audio, none⟩, formats⟩ := kept
          rw [audio] at none
          exact adopts ⟨audio, formats, unmatched.mp none⟩
    · unfold keepAdopted
      split <;> rfl

/-- A walk over the pairs: each entry is made in the state its predecessors leave. -/
structure Walked (sdp final : Sdp) (pairs : List (MediaAttribute × Option OfferedLine))
    (answered : List AnsweredLine) : Prop where
  whole : Grown sdp final (audioAfter sdp.audioCodecList pairs)
  entries : ∀ entry ∈ answered, ∃ earlier later,
    pairs = earlier ++ (entry.mediaAttr, entry.remote) :: later ∧
      Grown sdp entry.before (audioAfter sdp.audioCodecList earlier) ∧
      ∃ changed, entry.before.addMediaDescription entry.mediaAttr (entry.remote.map Prod.fst) =
        .ok (changed, entry.answer)

private theorem Walked.behind {sdp changed final : Sdp} {answered : List AnsweredLine}
    {pair : MediaAttribute × Option OfferedLine}
    {pairs : List (MediaAttribute × Option OfferedLine)}
    (grown : Grown sdp changed (audioAfter sdp.audioCodecList [pair]))
    (rest : Walked changed final pairs answered) : Walked sdp final (pair :: pairs) answered := by
  obtain ⟨whole, entries⟩ := rest
  rw [grown.audio] at whole entries
  refine ⟨⟨whole.answering, whole.audio, whole.video.trans grown.video⟩, ?_⟩
  intro entry member
  obtain ⟨earlier, later, split, before, made⟩ := entries entry member
  exact ⟨pair :: earlier, later, congrArg (pair :: ·) split,
    ⟨before.answering, before.audio, before.video.trans grown.video⟩, made⟩

private theorem answerLines_walked {sdp final : Sdp} {answered : List AnsweredLine}
    {pairs : List (MediaAttribute × Option OfferedLine)} (answering : sdp.sdpDirection = .answer)
    (result : answerLines sdp pairs = .ok (final, answered)) :
    Walked sdp final pairs answered := by
  induction pairs generalizing sdp answered with
  | nil =>
    cases result
    exact ⟨⟨answering, rfl, rfl⟩, fun _ member => (nomatch member)⟩
  | cons pair later ih =>
    obtain ⟨media, remote⟩ := pair
    unfold answerLines at result
    split at result
    · rename_i enabled
      cases call : sdp.addMediaDescription media (remote.map Prod.fst) with
      | error failure =>
        rw [call] at result
        cases result
      | ok outcome =>
        obtain ⟨changed, answer⟩ := outcome
        rw [call] at result
        simp only at result
        cases rest : answerLines changed later with
        | error failure =>
          rw [rest] at result
          cases result
        | ok tail =>
          rw [rest] at result
          cases result
          have grown := addMediaDescription_grows answering enabled call
          obtain ⟨whole, entries⟩ := Walked.behind grown (ih grown.answering rest)
          refine ⟨whole, ?_⟩
          intro entry member
          rcases List.mem_cons.mp member with rfl | inLater
          · exact ⟨[], later, rfl, ⟨answering, rfl, rfl⟩, changed, call⟩
          · exact entries entry inLater
    · rename_i disabled
      refine Walked.behind ⟨answering, ?_, rfl⟩ (ih answering result)
      cases remote <;> simp [audioAfter, adoptedFor, disabled]

theorem processIncomingOffer_entry {sdp final : Sdp} {offer : SdpSession}
    {mediaList : List MediaAttribute} {answered : List AnsweredLine}
    (processed : (sdp.setReceivedOffer offer).processIncomingOffer mediaList =
      .ok (some (final, answered)))
    {entry : AnsweredLine} (member : entry ∈ answered) (remote : entry.remote = some line) :
    Grown sdp final (audioAfter sdp.audioCodecList (lockstep offer.media.zipIdx mediaList)) ∧
      ∃ earlier later,
        lockstep offer.media.zipIdx mediaList = earlier ++ (entry.mediaAttr, some line) :: later ∧
        Grown sdp entry.before (audioAfter sdp.audioCodecList earlier) ∧
        line ∈ supportedLines offer ∧
        entry.answer = entry.before.answerMedia entry.mediaAttr line.1 := by
  unfold processIncomingOffer setReceivedOffer at processed
  simp only at processed
  split at processed
  · cases processed
  · rename_i result
    cases processed
    obtain ⟨whole, entries⟩ := answerLines_walked rfl result
    obtain ⟨earlier, later, split, before, changed, made⟩ := entries entry member
    rw [remote] at split made
    have paired : (entry.mediaAttr, some line) ∈ lockstep offer.media.zipIdx mediaList := by
      rw [split]
      exact List.mem_append_right _ List.mem_cons_self
    obtain ⟨offered, supported⟩ := lockstep_supported paired
    exact ⟨⟨whole.answering, whole.audio, whole.video⟩, earlier, later, split,
      ⟨before.answering, before.audio, before.video⟩, List.mem_filter.mpr ⟨offered, supported⟩,
      (addMediaDescription_answer before.answering made).2⟩

private theorem getMediaDescriptions_eq (sdp : Sdp) (offer : SdpSession) :
    sdp.getMediaDescriptions (some offer) =
      (supportedLines offer).map (fun line => sdp.describeLine offer line.1) := by
  have lines : offer.media.filter (fun line => line.getSupportedMediaType ≠ .none) =
      (supportedLines offer).map Prod.fst := by
    conv_lhs => rw [← List.zipIdx_map_fst 0 offer.media]
    rw [List.filter_map]
    rfl
  change (offer.media.filter _).map _ = _
  rw [lines, List.map_map]
  rfl

theorem description_of_line {sdp : Sdp} {offer : SdpSession} (offered : line ∈ supportedLines offer)
    (descr : MediaDescription) :
    (line, descr) ∈ (supportedLines offer).zip (sdp.getMediaDescriptions (some offer)) ↔
      descr = sdp.describeLine offer line.1 := by
  rw [getMediaDescriptions_eq, List.zip_map_right, List.mem_map]
  constructor
  · rintro ⟨⟨left, right⟩, paired, same⟩
    have equal : left = right := by
      obtain ⟨index, bound, located⟩ := List.getElem_of_mem paired
      rw [List.getElem_zip] at located
      cases located
      rfl
    cases same
    rw [equal]
    rfl
  · rintro rfl
    refine ⟨(line, line), ?_, rfl⟩
    obtain ⟨index, bound, located⟩ := List.getElem_of_mem offered
    apply List.mem_of_getElem (i := index) (h := by simpa using bound)
    rw [List.getElem_zip, located]

def opusOffer (param : Option Nat) : SdpSession :=
  ⟨[offeredAudio [96, 0] [.rtpmap 96 (some ⟨"opus", 48000, param⟩)]], some "192.0.2.1"⟩

end SipCore.Sdp
