/-
Answering an offer. The application gets a list of streams derived from the offer and
hands such a list back; the answer walks that list and the offered lines side by side.
An offered line is kept with its position, which is what a pointer to it stands for.
PJMEDIA's checks of the sessions are taken to succeed.
-/

import SipCore.Library.FilterPrefix
import SipCore.Library.Pairing
import SipCore.Sdp.Answer

namespace SipCore

open FilterPrefix

variable (offer : SdpSession) (sdp : Sdp)

abbrev OfferedLine := SdpMedia × Nat

namespace Sdp

def isSupported (line : OfferedLine) : Bool := line.1.getSupportedMediaType ≠ .none

def attributeOf (remote : Bool) (line : SdpMedia) (type : MediaType) (label : String) :
    MediaAttribute :=
  { type := type
    muted := if remote then line.getMediaDirection = .recvonly else false
    secure := line.getMediaTransport = .rtpSavp && !line.getCrypto.isEmpty
    enabled := line.port > 0
    label := label }

def mediaAttributes (ignoreDisabled remote : Bool) :
    Nat → Nat → List SdpMedia → List MediaAttribute
  | _, _, [] => []
  | audioIdx, videoIdx, line :: rest =>
    let type := line.getSupportedMediaType
    if type = .none then mediaAttributes ignoreDisabled remote audioIdx videoIdx rest
    else if line.port = 0 && ignoreDisabled then
      mediaAttributes ignoreDisabled remote audioIdx videoIdx rest
    else if type = .audio then
      attributeOf remote line type ("audio_" ++ toString audioIdx) ::
        mediaAttributes ignoreDisabled remote (audioIdx + 1) videoIdx rest
    else
      attributeOf remote line type ("video_" ++ toString videoIdx) ::
        mediaAttributes ignoreDisabled remote audioIdx (videoIdx + 1) rest

def getMediaAttributeListFromSdp (sdpSession : Option SdpSession) (ignoreDisabled remote : Bool) :
    List MediaAttribute :=
  match sdpSession with
  | none => []
  | some session => mediaAttributes ignoreDisabled remote 0 0 session.media

/-- Each stream with the offered line it is answered from: the next audio or
video line, whatever its port. -/
def lockstep : List OfferedLine → List MediaAttribute → List (MediaAttribute × Option OfferedLine)
  | _, [] => []
  | remote, media :: later =>
    match remote.dropWhile (fun line => !isSupported line) with
    | [] => (media, none) :: lockstep [] later
    | line :: rest => (media, some line) :: lockstep rest later

/-- One call of `addMediaDescription` made by the walk, and the state it is made in. -/
structure AnsweredLine where
  before : Sdp
  mediaAttr : MediaAttribute
  remote : Option OfferedLine
  answer : SdpMedia
  deriving DecidableEq, Repr

/-- Disabled streams advance the walk and are not answered. -/
def answerLines : Sdp → List (MediaAttribute × Option OfferedLine) →
    Except SdpException (Sdp × List AnsweredLine)
  | sdp, [] => .ok (sdp, [])
  | sdp, (media, remote) :: later =>
    if media.enabled then
      match sdp.addMediaDescription media (remote.map Prod.fst) with
      | .error failure => .error failure
      | .ok (changed, answer) =>
        match answerLines changed later with
        | .error failure => .error failure
        | .ok (final, answered) => .ok (final, ⟨sdp, media, remote, answer⟩ :: answered)
    else answerLines sdp later

def setReceivedOffer (sdp : Sdp) (remote : SdpSession) : Sdp :=
  { sdp with remoteSession := some remote }

def createLocalSession (sdp : Sdp) (direction : SdpDirection) : Sdp :=
  { sdp with
    sdpDirection := direction
    localSession := some ⟨[], some sdp.publishedIpAddr⟩ }

/-- The answered lines are returned beside the state that holds them. -/
def processIncomingOffer (sdp : Sdp) (mediaList : List MediaAttribute) :
    Except SdpException (Option (Sdp × List AnsweredLine)) :=
  match sdp.remoteSession with
  | none => .ok none
  | some remote =>
    match answerLines (sdp.createLocalSession .answer)
        (lockstep remote.media.zipIdx mediaList) with
    | .error failure => .error failure
    | .ok (final, answered) =>
      .ok (some
        ({ final with
            localSession := some ⟨answered.map AnsweredLine.answer, some sdp.publishedIpAddr⟩ },
          answered))

def supportedLines (offer : SdpSession) : List OfferedLine :=
  offer.media.zipIdx.filter isSupported

def isEnabled (line : OfferedLine) : Bool := line.1.port ≠ 0

def enabledLines (offer : SdpSession) : List OfferedLine := (supportedLines offer).filter isEnabled

theorem filter_dropWhile (remote : List OfferedLine) :
    (remote.dropWhile (fun line => !isSupported line)).filter isSupported =
      remote.filter isSupported := by
  induction remote with
  | nil => rfl
  | cons line rest ih =>
    cases kept : isSupported line with
    | true => rw [List.dropWhile_cons_of_neg (by simp [kept])]
    | false =>
      rw [List.dropWhile_cons_of_pos (by simp [kept]), ih,
        List.filter_cons_of_neg (by simp [kept])]

private theorem lockstep_eq_zip (remote : List OfferedLine) (mediaList : List MediaAttribute)
    (enough : mediaList.length ≤ (remote.filter isSupported).length) :
    lockstep remote mediaList =
      mediaList.zip ((remote.filter isSupported).map some) := by
  induction mediaList generalizing remote with
  | nil => rfl
  | cons media later ih =>
    have same := filter_dropWhile remote
    unfold lockstep
    cases reached : remote.dropWhile (fun line => !isSupported line) with
    | nil =>
      rw [reached] at same
      rw [← same] at enough
      simp at enough
    | cons line rest =>
      have supported : isSupported line = true := by
        have head := List.head?_dropWhile_not (fun line => !isSupported line) remote
        rw [reached] at head
        simpa using head
      rw [reached, List.filter_cons_of_pos supported] at same
      rw [← same] at enough ⊢
      rw [List.length_cons, List.length_cons] at enough
      simp only [List.map_cons, List.zip_cons_cons]
      rw [ih rest (by omega)]

def StandsFor (media : MediaAttribute) (line : OfferedLine) : Prop :=
  media.type = line.1.getSupportedMediaType ∧ isSupported line = true ∧
    media.enabled = isEnabled line

def isKept (ignoreDisabled : Bool) (line : OfferedLine) : Bool :=
  isSupported line && (isEnabled line || !ignoreDisabled)

theorem attributeOf_standsFor (remote : Bool) (line : OfferedLine) (label : String)
    (supported : isSupported line = true) :
    StandsFor (attributeOf remote line.1 line.1.getSupportedMediaType label) line := by
  refine ⟨rfl, supported, ?_⟩
  simp [attributeOf, isEnabled, Nat.pos_iff_ne_zero]

private theorem mediaAttributes_standFor (ignoreDisabled remote : Bool) (audioIdx videoIdx : Nat)
    (media : List SdpMedia) (start : Nat) :
    List.Forall₂ StandsFor (mediaAttributes ignoreDisabled remote audioIdx videoIdx media)
      ((media.zipIdx start).filter (isKept ignoreDisabled)) := by
  induction media generalizing audioIdx videoIdx start with
  | nil => exact List.Forall₂.nil
  | cons line rest ih =>
    rw [List.zipIdx_cons]
    unfold mediaAttributes
    simp only
    split
    · rename_i unsupported
      rw [List.filter_cons_of_neg (by simp [isKept, isSupported, unsupported])]
      exact ih audioIdx videoIdx (start + 1)
    · rename_i supportedType
      have supported : isSupported (line, start) = true := by simpa [isSupported] using supportedType
      split
      · rename_i dropped
        simp only [Bool.and_eq_true, decide_eq_true_eq] at dropped
        rw [List.filter_cons_of_neg (by simp [isKept, isEnabled, dropped.1, dropped.2])]
        exact ih audioIdx videoIdx (start + 1)
      · rename_i retained
        have kept : isKept ignoreDisabled (line, start) = true := by
          simp only [Bool.and_eq_true, decide_eq_true_eq, not_and] at retained
          simp only [isKept, supported, isEnabled, Bool.true_and, Bool.or_eq_true,
            decide_eq_true_eq, Bool.not_eq_true']
          by_cases port : line.port = 0
          · exact .inr (by simpa using retained port)
          · exact .inl port
        rw [List.filter_cons_of_pos kept]
        have first := attributeOf_standsFor remote (line, start)
        split
        · exact .cons (first _ supported) (ih (audioIdx + 1) videoIdx (start + 1))
        · exact .cons (first _ supported) (ih audioIdx (videoIdx + 1) (start + 1))

private theorem kept_eq (ignoreDisabled : Bool) :
    offer.media.zipIdx.filter (isKept ignoreDisabled) =
      if ignoreDisabled then enabledLines offer else supportedLines offer := by
  cases ignoreDisabled with
  | true =>
    rw [enabledLines, supportedLines, List.filter_filter]
    apply List.filter_congr
    intro line _
    simp [isKept, Bool.and_comm]
  | false =>
    apply List.filter_congr
    intro line _
    simp [isKept]

theorem getMediaAttributeListFromSdp_standFor (ignoreDisabled remote : Bool) :
    List.Forall₂ StandsFor (getMediaAttributeListFromSdp (some offer) ignoreDisabled remote)
      (if ignoreDisabled then enabledLines offer else supportedLines offer) := by
  rw [← kept_eq]
  exact mediaAttributes_standFor ignoreDisabled remote 0 0 offer.media 0

private theorem append_left_cancel {kind left right : String} (same : kind ++ left = kind ++ right) :
    left = right := by
  apply String.ext
  have chars := congrArg String.toList same
  rw [String.toList_append, String.toList_append] at chars
  exact List.append_cancel_left chars

private theorem toString_injective {left right : Nat} (same : toString left = toString right) :
    left = right := by
  have digits : Nat.toDigits 10 left = Nat.toDigits 10 right := String.ofList_injective same
  rw [← Nat.ofDigitChars_ten_toDigits (n := left), digits, Nat.ofDigitChars_ten_toDigits]

private theorem audio_ne_video (left right : String) : "audio_" ++ left ≠ "video_" ++ right := by
  intro same
  have chars := congrArg String.toList same
  have heads := congrArg List.head? chars
  simp at heads

theorem mediaAttributes_label {ignoreDisabled remote : Bool} {audioIdx videoIdx : Nat}
    {media : List SdpMedia} {attr : MediaAttribute}
    (member : attr ∈ mediaAttributes ignoreDisabled remote audioIdx videoIdx media) :
    (∃ index ≥ audioIdx, attr.label = "audio_" ++ toString index) ∨
      (∃ index ≥ videoIdx, attr.label = "video_" ++ toString index) := by
  induction media generalizing audioIdx videoIdx with
  | nil => cases member
  | cons line rest ih =>
    unfold mediaAttributes at member
    simp only at member
    split at member
    · exact ih member
    · split at member
      · exact ih member
      · split at member
        · rcases List.mem_cons.mp member with rfl | later
          · exact .inl ⟨audioIdx, Nat.le_refl _, rfl⟩
          · rcases ih later with ⟨index, bound, label⟩ | video
            · exact .inl ⟨index, Nat.le_of_succ_le bound, label⟩
            · exact .inr video
        · rcases List.mem_cons.mp member with rfl | later
          · exact .inr ⟨videoIdx, Nat.le_refl _, rfl⟩
          · rcases ih later with audio | ⟨index, bound, label⟩
            · exact .inl audio
            · exact .inr ⟨index, Nat.le_of_succ_le bound, label⟩

theorem mediaAttributes_labels_nodup (ignoreDisabled remote : Bool) (audioIdx videoIdx : Nat)
    (media : List SdpMedia) :
    ((mediaAttributes ignoreDisabled remote audioIdx videoIdx media).map
      MediaAttribute.label).Nodup := by
  induction media generalizing audioIdx videoIdx with
  | nil => exact List.nodup_nil
  | cons line rest ih =>
    unfold mediaAttributes
    simp only
    split
    · exact ih audioIdx videoIdx
    · split
      · exact ih audioIdx videoIdx
      · split
        · rw [List.map_cons, List.nodup_cons]
          refine ⟨?_, ih (audioIdx + 1) videoIdx⟩
          intro member
          obtain ⟨attr, later, same⟩ := List.mem_map.mp member
          rcases mediaAttributes_label later with ⟨index, bound, label⟩ | ⟨index, _, label⟩
          · have equal := toString_injective (append_left_cancel (label.symm.trans same))
            omega
          · exact audio_ne_video _ _ (same.symm.trans label)
        · rw [List.map_cons, List.nodup_cons]
          refine ⟨?_, ih audioIdx (videoIdx + 1)⟩
          intro member
          obtain ⟨attr, later, same⟩ := List.mem_map.mp member
          rcases mediaAttributes_label later with ⟨index, _, label⟩ | ⟨index, bound, label⟩
          · exact audio_ne_video _ _ (label.symm.trans same)
          · have equal := toString_injective (append_left_cancel (label.symm.trans same))
            omega

theorem addMediaDescription_ok {mediaAttr : MediaAttribute}
    (supported : mediaAttr.type = .audio ∨ mediaAttr.type = .video) (remoteMedia : Option SdpMedia) :
    ∃ changed answer, sdp.addMediaDescription mediaAttr remoteMedia = .ok (changed, answer) := by
  unfold addMediaDescription
  rcases supported with audio | video
  · rw [audio]
    simp only
    split <;> exact ⟨_, _, rfl⟩
  · rw [video]
    simp only
    split <;> exact ⟨_, _, rfl⟩

def isAnswered (pair : MediaAttribute × Option OfferedLine) : Bool := pair.1.enabled

private theorem answerLines_ok (pairs : List (MediaAttribute × Option OfferedLine))
    (supported : ∀ pair ∈ pairs, pair.1.type = .audio ∨ pair.1.type = .video) :
    ∃ final answered, answerLines sdp pairs = .ok (final, answered) ∧
      answered.map AnsweredLine.remote =
        (pairs.filter isAnswered).map Prod.snd := by
  induction pairs generalizing sdp with
  | nil => exact ⟨sdp, [], rfl, rfl⟩
  | cons pair later ih =>
    have laterSupported : ∀ pair ∈ later, pair.1.type = .audio ∨ pair.1.type = .video :=
      fun other member => supported other (List.mem_cons_of_mem pair member)
    obtain ⟨media, remote⟩ := pair
    cases enabled : media.enabled with
    | true =>
      obtain ⟨changed, answer, result⟩ := addMediaDescription_ok sdp
        (supported (media, remote) List.mem_cons_self) (remote.map Prod.fst)
      obtain ⟨final, answered, rest, remotes⟩ := ih changed laterSupported
      refine ⟨final, ⟨sdp, media, remote, answer⟩ :: answered, ?_, ?_⟩
      · simp only [answerLines, enabled, if_true, result, rest]
      · have answers : isAnswered (media, remote) = true := enabled
        rw [List.map_cons, remotes, List.filter_cons_of_pos answers, List.map_cons]
    | false =>
      obtain ⟨final, answered, rest, remotes⟩ := ih sdp laterSupported
      refine ⟨final, answered, ?_, ?_⟩
      · simp only [answerLines, enabled, Bool.false_eq_true, if_false, rest]
      · rw [remotes, List.filter_cons_of_neg (by simp [isAnswered, enabled])]

theorem supportedType_of_isSupported {line : OfferedLine} (supported : isSupported line = true) :
    line.1.getSupportedMediaType = .audio ∨ line.1.getSupportedMediaType = .video := by
  simp only [isSupported, SdpMedia.getSupportedMediaType] at supported ⊢
  split
  · exact .inl rfl
  · rename_i notAudio
    split
    · exact .inr rfl
    · rename_i notVideo
      simp [notAudio, notVideo] at supported

theorem type_of_standsFor {media : MediaAttribute} {line : OfferedLine}
    (standsFor : StandsFor media line) : media.type = .audio ∨ media.type = .video := by
  obtain ⟨type, supported, _⟩ := standsFor
  rw [type]
  exact supportedType_of_isSupported supported

private theorem enabled_of_standFor {mediaList : List MediaAttribute} {lines : List OfferedLine}
    (standFor : List.Forall₂ StandsFor mediaList lines) :
    ((mediaList.zip (lines.map some)).filter isAnswered).map Prod.snd =
      (lines.filter isEnabled).map some := by
  induction standFor with
  | nil => rfl
  | @cons media line later rest first _ ih =>
    rw [List.map_cons, List.zip_cons_cons]
    have same : isAnswered (media, some line) = isEnabled line := first.2.2
    cases enabled : isEnabled line with
    | true =>
      rw [List.filter_cons_of_pos (same.trans enabled), List.filter_cons_of_pos enabled,
        List.map_cons, List.map_cons, ih]
    | false =>
      rw [List.filter_cons_of_neg (by simp [same, enabled]),
        List.filter_cons_of_neg (by simp [enabled]), ih]

private theorem remotes_of_enabled {mediaList : List MediaAttribute} {lines : List OfferedLine}
    (enabled : ∀ media ∈ mediaList, media.enabled = true)
    (within : mediaList.length ≤ lines.length) :
    ((mediaList.zip (lines.map some)).filter isAnswered).map Prod.snd =
      (lines.take mediaList.length).map some := by
  have all : ∀ pair ∈ mediaList.zip (lines.map some), isAnswered pair = true :=
    fun pair member => enabled pair.1 (List.of_mem_zip member).1
  rw [List.filter_eq_self.mpr all, List.zip_eq_zip_take_min, List.length_map,
    Nat.min_eq_left within, List.map_snd_zip, List.map_take]
  rw [List.length_take, List.length_take]
  omega

theorem processIncomingOffer_derived (offer : SdpSession) (ignoreDisabled remote : Bool) :
    ∃ final answered,
      (sdp.setReceivedOffer offer).processIncomingOffer
        (getMediaAttributeListFromSdp (some offer) ignoreDisabled remote) =
          .ok (some (final, answered)) ∧
      final.localSession =
        some ⟨answered.map AnsweredLine.answer, some sdp.publishedIpAddr⟩ ∧
      answered.map AnsweredLine.remote =
        (if ignoreDisabled then (supportedLines offer).take (enabledLines offer).length
          else enabledLines offer).map some := by
  have standFor := getMediaAttributeListFromSdp_standFor offer ignoreDisabled remote
  generalize getMediaAttributeListFromSdp (some offer) ignoreDisabled remote = mediaList at standFor ⊢
  have count : mediaList.length ≤ (supportedLines offer).length := by
    rw [standFor.length_eq]
    split
    · exact List.length_filter_le _ _
    · exact Nat.le_refl _
  have paired := lockstep_eq_zip offer.media.zipIdx mediaList count
  have types : ∀ media ∈ mediaList, media.type = .audio ∨ media.type = .video :=
    Pairing.forall_left standFor (fun _ _ _ stands => type_of_standsFor stands)
  have supported : ∀ pair ∈ mediaList.zip ((supportedLines offer).map some),
      pair.1.type = .audio ∨ pair.1.type = .video := by
    intro pair member
    exact types pair.1 (List.of_mem_zip member).1
  obtain ⟨final, answered, result, remotes⟩ :=
    answerLines_ok ((sdp.setReceivedOffer offer).createLocalSession .answer) _ supported
  refine ⟨{ final with
      localSession := some ⟨answered.map AnsweredLine.answer, some sdp.publishedIpAddr⟩ },
    answered, ?_, rfl, ?_⟩
  · simp only [processIncomingOffer, setReceivedOffer, paired]
    change (match answerLines ((sdp.setReceivedOffer offer).createLocalSession .answer)
      (mediaList.zip ((supportedLines offer).map some)) with
      | .error failure => _
      | .ok (final, answered) => _) = _
    rw [result]
  · rw [remotes]
    cases ignoreDisabled with
    | false => exact enabled_of_standFor standFor
    | true =>
      have enabled : ∀ media ∈ mediaList, media.enabled = true :=
        Pairing.forall_left standFor
          (fun _ _ member stands => stands.2.2.trans (List.mem_filter.mp member).2)
      have length : mediaList.length = (enabledLines offer).length := standFor.length_eq
      rw [remotes_of_enabled enabled count, length]
      rfl

/-! ### Every line answered from itself -/

def PassesOwnLines (offer : SdpSession) (answered : List AnsweredLine) : Prop :=
  answered.map AnsweredLine.remote = (enabledLines offer).map some

/-- The answer has one line for each offered one, a rejection wherever no stream
was accepted. -/
def AnswersEveryLine (offer : SdpSession) (final : Sdp) : Prop :=
  ∃ session, final.localSession = some session ∧
    session.media.length = offer.media.length ∧
    ∀ line ∈ offer.media.zipIdx, line ∉ enabledLines offer →
      ∃ answer, session.media[line.2]? = some answer ∧ answer.port = 0

theorem enabledLines_length_iff :
    (enabledLines offer).length = offer.media.length ↔
      ∀ line ∈ offer.media.zipIdx, isSupported line = true ∧ isEnabled line = true := by
  have total : offer.media.zipIdx.length = offer.media.length := List.length_zipIdx
  rw [enabledLines, supportedLines, List.filter_filter, ← total, List.length_filter_eq_length_iff]
  simp only [Bool.and_eq_true, and_comm]

/-- For a list derived from the offer itself: streams are answered from their own
lines unless the list leaves out disabled lines and one of these stands before an
enabled one; and the answer covers every line only if there is nothing to reject. -/
theorem processIncomingOffer_own_lines_iff (sdp : Sdp) (offer : SdpSession)
    (ignoreDisabled remote : Bool) :
    ∃ final answered,
      (sdp.setReceivedOffer offer).processIncomingOffer
        (getMediaAttributeListFromSdp (some offer) ignoreDisabled remote) =
          .ok (some (final, answered)) ∧
      (PassesOwnLines offer answered ↔
        (ignoreDisabled = true → InFront isEnabled (supportedLines offer))) ∧
      (PassesOwnLines offer answered ∧ AnswersEveryLine offer final ↔
        ∀ line ∈ offer.media.zipIdx, isSupported line = true ∧ isEnabled line = true) := by
  obtain ⟨final, answered, result, session, remotes⟩ :=
    processIncomingOffer_derived sdp offer ignoreDisabled remote
  have passes : PassesOwnLines offer answered ↔
      (ignoreDisabled = true → InFront isEnabled (supportedLines offer)) := by
    unfold PassesOwnLines
    rw [remotes, List.map_inj_right (fun _ _ => Option.some.inj)]
    cases ignoreDisabled with
    | false => simp
    | true =>
      rw [← take_filter_eq_iff]
      exact ⟨fun same _ => same, fun same => same rfl⟩
  refine ⟨final, answered, result, passes, ?_⟩
  constructor
  · rintro ⟨own, answers, stored, length, _⟩
    rw [← enabledLines_length_iff, ← length]
    rw [session] at stored
    cases stored
    have sameLength := congrArg List.length own
    rw [List.length_map, List.length_map] at sameLength
    rw [List.length_map, sameLength]
  · intro everyLine
    have whole : supportedLines offer = offer.media.zipIdx :=
      List.filter_eq_self.mpr (fun line member => (everyLine line member).1)
    have own : PassesOwnLines offer answered := by
      rw [passes, whole]
      intro _
      apply List.pairwise_of_forall_mem_list
      intro earlier member _ _ _
      exact (everyLine earlier member).2
    refine ⟨own, _, session, ?_, ?_⟩
    · have sameLength := congrArg List.length own
      rw [List.length_map, List.length_map] at sameLength
      rw [List.length_map, sameLength, enabledLines_length_iff]
      exact everyLine
    · intro line member missing
      exfalso
      apply missing
      rw [enabledLines, whole]
      exact List.mem_filter.mpr ⟨member, (everyLine line member).2⟩

/-- A declined audio line before an accepted one: the stream of the second is
answered from the first. -/
theorem stream_answered_from_declined_line :
    let declined : SdpMedia := ⟨"audio", 0, "RTP/AVP", [8], [], none⟩
    let accepted : SdpMedia := ⟨"audio", 5004, "RTP/AVP", [0], [], none⟩
    let offer : SdpSession := ⟨[declined, accepted], none⟩
    ∃ final answered,
      (({} : Sdp).setReceivedOffer offer).processIncomingOffer
        (getMediaAttributeListFromSdp (some offer) true true) = .ok (some (final, answered)) ∧
      answered.map AnsweredLine.remote = [some (declined, 0)] ∧
      ¬ PassesOwnLines offer answered := by
  intro declined accepted offer
  obtain ⟨final, answered, result, _, remotes⟩ := processIncomingOffer_derived {} offer true true
  have first : answered.map AnsweredLine.remote = [some (declined, 0)] := by
    rw [remotes]
    decide
  refine ⟨final, answered, result, first, ?_⟩
  unfold PassesOwnLines
  rw [first]
  decide

end Sdp

end SipCore
