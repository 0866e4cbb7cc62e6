/-
The streams of a call around a re-negotiation. A list of streams updates the stream
vector by label; the negotiated session then configures the vector by position, one slot
for each audio or video line.
-/

import Mathlib.Data.List.Perm.Subperm
import SipCore.Library.Pairing
import SipCore.Sdp.Descriptions
import SipCore.Sdp.IncomingOffer

namespace SipCore

open FilterPrefix Sdp

/-- What a call takes from its surroundings: the limit on ICE components, the
default video source, and the verdict of the key negotiation on crypto lines. -/
structure Platform where
  iceMaxComp : Nat
  defaultMrl : String
  sdesAccepts : List String → Bool

structure RtpStream where
  mediaAttribute : MediaAttribute
  deriving DecidableEq, Repr

abbrev MediaSlot := MediaDescription × MediaDescription

structure SIPAccount where
  autoAnswerEnabled : Bool := false
  deriving DecidableEq, Repr

/-- The account and the conference are weak references, absent once they are gone. -/
structure SIPCall where
  sdp : Sdp := {}
  rtpStreams : List RtpStream := []
  srtpEnabled : Bool := false
  account : Option SIPAccount := none
  conf : Option String := none
  peerMuted : Bool := false
  deriving DecidableEq, Repr

namespace SIPCall

def inConference (call : SIPCall) : Bool := call.conf.isSome

def getMediaAttributeList (call : SIPCall) : List MediaAttribute :=
  call.rtpStreams.map RtpStream.mediaAttribute

variable (platform : Platform)

def findRtpStreamIndex (streams : List RtpStream) (label : String) : Option Nat :=
  streams.findIdx? (fun stream => label = stream.mediaAttribute.label)

/-- The label, the type and the enabled flag stay; a video stream takes the new
source, or the default one. -/
def updateMediaStream (newMediaAttr : MediaAttribute) (stream : RtpStream) : RtpStream :=
  let held :=
    { stream.mediaAttribute with
      muted := newMediaAttr.muted
      onHold := newMediaAttr.onHold }
  if held.type = .video then
    { stream with
      mediaAttribute :=
        { held with
          sourceUri :=
            if newMediaAttr.sourceUri = "" then platform.defaultMrl else newMediaAttr.sourceUri } }
  else { stream with mediaAttribute := held }

def normalizedAttr (inConference : Bool) (newAttr : MediaAttribute) : MediaAttribute :=
  if newAttr.type = .video && !inConference then { newAttr with muted := true } else newAttr

def addMediaStream (streams : List RtpStream) (mediaAttr : MediaAttribute) : List RtpStream :=
  streams ++
    [⟨{ mediaAttr with
        sourceUri :=
          if mediaAttr.sourceUri = "" then platform.defaultMrl else mediaAttr.sourceUri }⟩]

def updateStream (inConference : Bool) (streams : List RtpStream) (newAttr : MediaAttribute) :
    Except String (List RtpStream) :=
  match findRtpStreamIndex streams newAttr.label with
  | some streamIdx => .ok (streams.modify streamIdx (updateMediaStream platform newAttr))
  | none =>
    if newAttr.type = .audio || newAttr.type = .video then
      .ok (addMediaStream platform streams (normalizedAttr inConference newAttr))
    else .error "Unsupported media type"

def updateStreams (inConference : Bool) :
    List RtpStream → List MediaAttribute → Except String (List RtpStream)
  | streams, [] => .ok streams
  | streams, newAttr :: later =>
    match updateStream platform inConference streams newAttr with
    | .error failure => .error failure
    | .ok changed => updateStreams inConference changed later

def updateAllMediaStreams (call : SIPCall) (mediaAttrList : List MediaAttribute) :
    Except String (Bool × SIPCall) :=
  if mediaAttrList.length > platform.iceMaxComp / 2 then .ok (false, call)
  else
    match updateStreams platform call.inConference call.rtpStreams mediaAttrList with
    | .error failure => .error failure
    | .ok streams =>
      .ok (true, { call with rtpStreams := streams.take mediaAttrList.length })

def isUsable (srtpEnabled : Bool) (slot : MediaSlot) : Bool :=
  slot.1.type = slot.2.type &&
    !(slot.1.enabled && slot.1.codec.isNone) &&
    !(slot.2.enabled && slot.2.codec.isNone) &&
    !(srtpEnabled && slot.1.enabled && !platform.sdesAccepts slot.1.crypto) &&
    !(srtpEnabled && slot.2.enabled && !platform.sdesAccepts slot.2.crypto)

def setEnabled (enabled : Bool) (stream : RtpStream) : RtpStream :=
  { stream with mediaAttribute := { stream.mediaAttribute with enabled := enabled } }

/-- The loop of `setupNegotiatedMedia`: the streams it leaves and the calls of
`configureRtpSession` it makes, each with the number of its stream. -/
def setupSlots (srtpEnabled : Bool) :
    Nat → List MediaSlot → List RtpStream → Except String (List RtpStream × List (Nat × MediaSlot))
  | _, [], streams => .ok (streams, [])
  | streamIdx, slot :: later, streams =>
    if streamIdx ≥ streams.length then setupSlots srtpEnabled (streamIdx + 1) later streams
    else if slot.1.type ≠ .audio && slot.1.type ≠ .video then .error "Invalid media attribute"
    else
      match setupSlots srtpEnabled (streamIdx + 1) later
          (streams.modify streamIdx (setEnabled slot.1.enabled)) with
      | .error failure => .error failure
      | .ok (final, configured) =>
        if isUsable platform srtpEnabled slot then .ok (final, (streamIdx, slot) :: configured)
        else .ok (final, configured)

structure NegotiatedMedia where
  anyConfigured : Bool
  rtpStreams : List RtpStream
  configured : List (Nat × MediaSlot)
  deriving DecidableEq, Repr

def setupNegotiatedMedia (call : SIPCall) : Except String NegotiatedMedia :=
  let slots := call.sdp.getMediaSlots
  if slots.isEmpty then .ok ⟨false, call.rtpStreams, []⟩
  else
    match setupSlots platform call.srtpEnabled 0 slots call.rtpStreams with
    | .error failure => .error failure
    | .ok (streams, configured) => .ok ⟨!configured.isEmpty, streams, configured⟩

def labels (streams : List RtpStream) : List String :=
  streams.map (fun stream => stream.mediaAttribute.label)

theorem updateMediaStream_label (newAttr : MediaAttribute) (stream : RtpStream) :
    (updateMediaStream platform newAttr stream).mediaAttribute.label =
      stream.mediaAttribute.label := by
  unfold updateMediaStream
  simp only
  split <;> rfl

theorem labels_modify {change : RtpStream → RtpStream}
    (kept : ∀ stream, (change stream).mediaAttribute.label = stream.mediaAttribute.label)
    (streams : List RtpStream) (index : Nat) : labels (streams.modify index change) =
      labels streams := by
  induction streams generalizing index with
  | nil => simp [labels]
  | cons stream rest ih =>
    cases index with
    | zero => simp [labels, kept]
    | succ index =>
      rw [List.modify_succ_cons]
      unfold labels at ih ⊢
      rw [List.map_cons, ih, List.map_cons]

private theorem updateStream_labels {inConference : Bool} {streams changed : List RtpStream}
    {newAttr : MediaAttribute}
    (result : updateStream platform inConference streams newAttr = .ok changed) :
    labels streams ⊆ labels changed ∧ newAttr.label ∈ labels changed := by
  unfold updateStream at result
  cases located : findRtpStreamIndex streams newAttr.label with
  | some index =>
    rw [located] at result
    cases result
    rw [labels_modify (updateMediaStream_label platform newAttr)]
    obtain ⟨bound, found, _⟩ := List.findIdx?_eq_some_iff_getElem.mp located
    refine ⟨List.Subset.refl _, ?_⟩
    rw [of_decide_eq_true found]
    exact List.mem_map_of_mem (List.getElem_mem bound)
  | none =>
    rw [located] at result
    simp only at result
    split at result
    · cases result
      unfold addMediaStream labels
      rw [List.map_append]
      refine ⟨List.subset_append_left _ _, List.mem_append_right _ ?_⟩
      unfold normalizedAttr
      split <;> exact List.mem_singleton_self _
    · cases result

theorem updateStreams_labels {inConference : Bool} {streams final : List RtpStream}
    {mediaAttrList : List MediaAttribute}
    (result : updateStreams platform inConference streams mediaAttrList = .ok final) :
    labels streams ⊆ labels final ∧ mediaAttrList.map MediaAttribute.label ⊆ labels final := by
  induction mediaAttrList generalizing streams with
  | nil =>
    cases result
    exact ⟨List.Subset.refl _, List.nil_subset _⟩
  | cons newAttr later ih =>
    unfold updateStreams at result
    cases first : updateStream platform inConference streams newAttr with
    | error failure =>
      rw [first] at result
      cases result
    | ok changed =>
      rw [first] at result
      obtain ⟨grown, own⟩ := updateStream_labels platform first
      obtain ⟨kept, others⟩ := ih result
      constructor
      · exact List.Subset.trans grown kept
      · exact List.cons_subset.mpr ⟨kept own, others⟩

theorem updateAllMediaStreams_length {call updated : SIPCall} {mediaAttrList : List MediaAttribute}
    (distinct : (mediaAttrList.map MediaAttribute.label).Nodup)
    (result : updateAllMediaStreams platform call mediaAttrList = .ok (true, updated)) :
    updated.rtpStreams.length = mediaAttrList.length := by
  unfold updateAllMediaStreams at result
  split at result
  · cases result
  · cases loop : updateStreams platform call.inConference call.rtpStreams mediaAttrList with
    | error failure =>
      rw [loop] at result
      cases result
    | ok streams =>
      rw [loop] at result
      cases result
      have covered := (distinct.subperm (updateStreams_labels platform loop).2).length_le
      rw [List.length_map, labels, List.length_map] at covered
      rw [List.length_take, Nat.min_eq_left covered]

def configures (srtpEnabled : Bool) (streamCount : Nat) (entry : MediaSlot × Nat) : Bool :=
  entry.2 < streamCount && isUsable platform srtpEnabled entry.1

theorem setupSlots_eq (srtpEnabled : Bool) (start : Nat) (slots : List MediaSlot)
    (streams : List RtpStream)
    (types : ∀ slot ∈ slots, slot.1.type = .audio ∨ slot.1.type = .video) :
    ∃ final, final.length = streams.length ∧
      setupSlots platform srtpEnabled start slots streams =
        .ok (final, ((slots.zipIdx start).filter
          (configures platform srtpEnabled streams.length)).map Prod.swap) := by
  induction slots generalizing start streams with
  | nil => exact ⟨streams, rfl, rfl⟩
  | cons slot later ih =>
    have laterTypes : ∀ slot ∈ later, slot.1.type = .audio ∨ slot.1.type = .video :=
      fun other member => types other (List.mem_cons_of_mem slot member)
    have known : ¬ ((slot.1.type ≠ .audio && slot.1.type ≠ .video) = true) := by
      rcases types slot List.mem_cons_self with audio | video
      · simp [audio]
      · simp [video]
    rw [List.zipIdx_cons]
    unfold setupSlots
    split
    · rename_i beyond
      have skipped : ¬ configures platform srtpEnabled streams.length (slot, start) = true := by
        simp [configures, Nat.not_lt.mpr beyond]
      rw [List.filter_cons_of_neg skipped]
      exact ih (start + 1) streams laterTypes
    · obtain ⟨final, length, result⟩ := ih (start + 1)
        (streams.modify start (setEnabled slot.1.enabled)) laterTypes
      rw [List.length_modify] at length result
      simp only [result]
      refine ⟨final, length, ?_⟩
      split
      · rename_i usable
        have made : configures platform srtpEnabled streams.length (slot, start) = true := by
          simp only [configures, usable, Bool.and_true, decide_eq_true_eq]
          omega
        rw [List.filter_cons_of_pos made]
        rfl
      · rename_i unusable
        have skipped : ¬ configures platform srtpEnabled streams.length (slot, start) = true := by
          simp [configures, unusable]
        rw [List.filter_cons_of_neg skipped]

theorem mem_configured_iff (srtpEnabled : Bool) (slots : List MediaSlot) (streamCount index : Nat)
    (slot : MediaSlot) :
    (index, slot) ∈ (slots.zipIdx.filter (configures platform srtpEnabled streamCount)).map
        Prod.swap ↔
      slots[index]? = some slot ∧ index < streamCount ∧
        isUsable platform srtpEnabled slot = true := by
  rw [List.mem_map]
  constructor
  · rintro ⟨⟨other, position⟩, member, same⟩
    cases same
    obtain ⟨located, made⟩ := List.mem_filter.mp member
    simp only [configures, Bool.and_eq_true, decide_eq_true_eq] at made
    exact ⟨List.mk_mem_zipIdx_iff_getElem?.mp located, made⟩
  · rintro ⟨located, within, usable⟩
    refine ⟨(slot, index), List.mem_filter.mpr ⟨?_, ?_⟩, rfl⟩
    · exact List.mk_mem_zipIdx_iff_getElem?.mpr located
    · simp [configures, within, usable]

def KeepsLines (offer active : SdpSession) : Prop :=
  List.Forall₂ (fun offered line : SdpMedia =>
    line.getSupportedMediaType = offered.getSupportedMediaType) offer.media active.media

/-- The remote side also still says which lines it declined. -/
def KeepsOffer (offer active : SdpSession) : Prop :=
  List.Forall₂ (fun offered line : SdpMedia =>
    line.getSupportedMediaType = offered.getSupportedMediaType ∧
      (line.port = 0 ↔ offered.port = 0)) offer.media active.media

theorem descriptions_of_lines (sdp : Sdp) (session : SdpSession) {agrees : SdpMedia → SdpMedia → Prop}
    (sameType : ∀ offered line, agrees offered line →
      line.getSupportedMediaType = offered.getSupportedMediaType)
    {offered lines : List SdpMedia} (kept : List.Forall₂ agrees offered lines) (start : Nat) :
    List.Forall₂ (fun (line : OfferedLine) descr =>
        ∃ active, agrees line.1 active ∧ descr = sdp.describeLine session active)
      ((offered.zipIdx start).filter isSupported)
      ((lines.filter (fun line => line.getSupportedMediaType ≠ .none)).map
        (sdp.describeLine session)) := by
  induction kept generalizing start with
  | nil => exact .nil
  | @cons first line rest others agreed _ ih =>
    rw [List.zipIdx_cons]
    have same := sameType first line agreed
    by_cases unsupported : first.getSupportedMediaType = .none
    · rw [List.filter_cons_of_neg (by simp [isSupported, unsupported]),
        List.filter_cons_of_neg (by simp [same, unsupported])]
      exact ih (start + 1)
    · rw [List.filter_cons_of_pos (by simp [isSupported, unsupported]),
        List.filter_cons_of_pos (by simp [same, unsupported])]
      exact .cons ⟨line, agreed, rfl⟩ (ih (start + 1))

def slotOffered (slot : MediaSlot) : Bool := slot.2.isOffered

/-- A slot belongs to an offered line: both sides are of its kind, and the remote
side tells whether it was declined. -/
def BelongsTo (line : OfferedLine) (slot : MediaSlot) : Prop :=
  slot.1.type = line.1.getSupportedMediaType ∧ slotOffered slot = isEnabled line

private theorem slots_belong (sdp : Sdp) (offer localSession remoteSession : SdpSession)
    (localKept : KeepsLines offer localSession) (remoteKept : KeepsOffer offer remoteSession) :
    List.Forall₂ BelongsTo (supportedLines offer)
      ({ sdp with
          activeLocalSession := some localSession
          activeRemoteSession := some remoteSession } : Sdp).getMediaSlots := by
  let active : Sdp :=
    { sdp with
      activeLocalSession := some localSession
      activeRemoteSession := some remoteSession }
  have locals := descriptions_of_lines active localSession (fun _ _ same => same) localKept 0
  have remotes := descriptions_of_lines active remoteSession
    (fun _ _ same => same.1) remoteKept 0
  refine (Pairing.zip locals remotes).imp ?_
  rintro line slot ⟨⟨localLine, localType, localDescr⟩, remoteLine, ⟨_, remotePort⟩, remoteDescr⟩
  constructor
  · rw [localDescr, describeLine_type, localType]
  · unfold slotOffered isEnabled
    rw [remoteDescr, describeLine_isOffered]
    simp [remotePort]

section

variable {lines : List OfferedLine} {slots : List MediaSlot}
  (belong : List.Forall₂ BelongsTo lines slots)
include belong

private theorem offered_slots_eq :
    ((lines.zip slots).filter (fun entry => isEnabled entry.1)).map Prod.snd =
      slots.filter slotOffered := by
  induction belong with
  | nil => rfl
  | @cons line slot _ _ first _ ih =>
    rw [List.zip_cons_cons]
    cases offered : isEnabled line with
    | true =>
      rw [List.filter_cons_of_pos (by simpa using offered),
        List.filter_cons_of_pos (first.2.trans offered), List.map_cons, ih]
    | false =>
      rw [List.filter_cons_of_neg (by simp [offered]),
        List.filter_cons_of_neg (by simp [first.2, offered]), ih]

theorem flags_eq : lines.map isEnabled = slots.map slotOffered :=
  Pairing.map_eq (belong.imp (fun _ _ belongs => belongs.2.symm))

private theorem inFront_slots_iff : InFront slotOffered slots ↔ InFront isEnabled lines := by
  have asMap {α : Type} (keep : α → Bool) (items : List α) : InFront keep items ↔
      (items.map keep).Pairwise (fun earlier later => later = true → earlier = true) := by
    unfold InFront
    rw [List.pairwise_map]
  rw [asMap, asMap, flags_eq belong]

end

/-! ### The negotiated streams -/

/-- The stream of the k-th enabled line is configured with the slot of that line,
and no enabled stream is left over. -/
def ConfiguresEnabled (offer : SdpSession) (slots : List MediaSlot) (outcome : NegotiatedMedia) :
    Prop :=
  (∀ k slot,
    ((((supportedLines offer).zip slots).filter (fun entry => isEnabled entry.1)).map Prod.snd)[k]? =
      some slot → (k, slot) ∈ outcome.configured) ∧
    ∀ k stream, outcome.rtpStreams[k]? = some stream → stream.mediaAttribute.enabled = true →
      ∃ slot, (k, slot) ∈ outcome.configured

theorem setupNegotiatedMedia_eq (call : SIPCall)
    (types : ∀ slot ∈ call.sdp.getMediaSlots, slot.1.type = .audio ∨ slot.1.type = .video) :
    ∃ outcome, setupNegotiatedMedia platform call = .ok outcome ∧
      outcome.rtpStreams.length = call.rtpStreams.length ∧
      outcome.configured = (call.sdp.getMediaSlots.zipIdx.filter
        (configures platform call.srtpEnabled call.rtpStreams.length)).map Prod.swap := by
  unfold setupNegotiatedMedia
  cases slots : call.sdp.getMediaSlots with
  | nil => exact ⟨_, rfl, rfl, rfl⟩
  | cons first later =>
    rw [slots] at types
    obtain ⟨final, length, result⟩ := setupSlots_eq platform call.srtpEnabled 0
      (first :: later) call.rtpStreams types
    simp only [List.isEmpty_cons, Bool.false_eq_true, if_false, result]
    exact ⟨_, rfl, length, rfl⟩

private theorem calls_iff (slots : List MediaSlot) (keep usable : MediaSlot → Bool)
    (streams : List RtpStream) (count : streams.length = (slots.filter keep).length) :
    ((∀ k slot, (slots.filter keep)[k]? = some slot →
        slots[k]? = some slot ∧ k < (slots.filter keep).length ∧ usable slot = true) ∧
      ∀ k stream, streams[k]? = some stream → stream.mediaAttribute.enabled = true →
        ∃ slot, slots[k]? = some slot ∧ k < (slots.filter keep).length ∧ usable slot = true) ↔
      slots.take (slots.filter keep).length = slots.filter keep ∧
        ∀ slot ∈ slots, keep slot = true → usable slot = true := by
  constructor
  · rintro ⟨calls, _⟩
    constructor
    · apply List.ext_getElem?
      intro k
      rcases Nat.lt_or_ge k (slots.filter keep).length with within | beyond
      · have stored := List.getElem?_eq_getElem within
        rw [List.getElem?_take_of_lt within, stored]
        exact (calls k _ stored).1
      · rw [List.getElem?_eq_none (by rw [List.length_take]; omega), List.getElem?_eq_none beyond]
    · intro slot member kept
      obtain ⟨k, located⟩ := List.mem_iff_getElem?.mp (List.mem_filter.mpr ⟨member, kept⟩)
      exact (calls k slot located).2.2
  · rintro ⟨front, allUsable⟩
    have calls : ∀ k slot, (slots.filter keep)[k]? = some slot →
        slots[k]? = some slot ∧ k < (slots.filter keep).length ∧ usable slot = true := by
      intro k slot located
      obtain ⟨within, _⟩ := List.getElem?_eq_some_iff.mp located
      obtain ⟨member, kept⟩ := List.mem_filter.mp (List.mem_of_getElem? located)
      refine ⟨?_, within, allUsable slot member kept⟩
      rw [← List.getElem?_take_of_lt within, front]
      exact located
    refine ⟨calls, ?_⟩
    intro k stream present _
    obtain ⟨within, _⟩ := List.getElem?_eq_some_iff.mp present
    rw [count] at within
    exact ⟨_, calls k _ (List.getElem?_eq_getElem within)⟩

/-- After a re-negotiation with the list derived from the offer: every enabled
line configures the stream of its rank, exactly if no declined line stands before
an enabled one and every slot of an enabled line passes the checks. -/
theorem setupNegotiatedMedia_configures_iff (call updated : SIPCall) (sdp : Sdp)
    (offer localSession remoteSession : SdpSession)
    (answered : updateAllMediaStreams platform call
      (getMediaAttributeListFromSdp (some offer) true true) = .ok (true, updated))
    (localKept : KeepsLines offer localSession) (remoteKept : KeepsOffer offer remoteSession) :
    let active : Sdp :=
      { sdp with
        activeLocalSession := some localSession
        activeRemoteSession := some remoteSession }
    ∃ outcome, setupNegotiatedMedia platform { updated with sdp := active } = .ok outcome ∧
      (ConfiguresEnabled offer active.getMediaSlots outcome ↔
        InFront isEnabled (supportedLines offer) ∧
          ∀ slot ∈ active.getMediaSlots, slotOffered slot = true →
            isUsable platform updated.srtpEnabled slot = true) := by
  intro active
  have belong : List.Forall₂ BelongsTo (supportedLines offer) active.getMediaSlots :=
    slots_belong sdp offer localSession remoteSession localKept remoteKept
  have types : ∀ slot ∈ active.getMediaSlots, slot.1.type = .audio ∨ slot.1.type = .video := by
    refine Pairing.forall_right belong ?_
    intro slot line member belongs
    rw [belongs.1]
    exact supportedType_of_isSupported (List.mem_filter.mp member).2
  have derived := getMediaAttributeListFromSdp_standFor offer true true
  have streamCount :
      updated.rtpStreams.length = (active.getMediaSlots.filter slotOffered).length := by
    have perEntry := updateAllMediaStreams_length platform
      (mediaAttributes_labels_nodup true true 0 0 offer.media) answered
    have perLine : (mediaAttributes true true 0 0 offer.media).length =
        (enabledLines offer).length := derived.length_eq
    rw [perEntry, perLine]
    exact Pairing.length_filter_eq (flags_eq belong)
  obtain ⟨outcome, result, length, configured⟩ :=
    setupNegotiatedMedia_eq platform { updated with sdp := active } types
  refine ⟨outcome, result, ?_⟩
  unfold ConfiguresEnabled
  rw [offered_slots_eq belong, ← inFront_slots_iff belong, ← take_filter_eq_iff, configured]
  simp only [mem_configured_iff, streamCount]
  exact calls_iff active.getMediaSlots slotOffered (isUsable platform updated.srtpEnabled)
    outcome.rtpStreams (length.trans streamCount)

def pcmuLine (port : Nat) : SdpMedia :=
  ⟨"audio", port, "RTP/AVP", [0], [.rtpmap 0 (some ⟨"PCMU", 8000, none⟩)], none⟩

def audioSession (ports : List Nat) : SdpSession := ⟨ports.map pcmuLine, some "192.0.2.1"⟩

def plainPlatform : Platform := ⟨64, "", fun _ => false⟩

def pcmuSdp : Sdp := { audioCodecList := [AccountCodecInfo.ofSystem SystemCodecInfo.pcmu] }

theorem audioSession_kept (ports answerPorts : List Nat) (same : ports.length = answerPorts.length) :
    KeepsLines (audioSession ports) (audioSession answerPorts) := by
  induction ports generalizing answerPorts with
  | nil =>
    cases answerPorts with
    | nil => exact .nil
    | cons _ _ => cases same
  | cons port rest ih =>
    cases answerPorts with
    | nil => cases same
    | cons other others => exact .cons rfl (ih others (Nat.succ.inj same))

private theorem audioSession_kept_offer (ports : List Nat) :
    KeepsOffer (audioSession ports) (audioSession ports) :=
  List.forall₂_same.mpr (fun _ _ => ⟨rfl, Iff.rfl⟩)

/-- An enabled line before a declined one is configured. -/
theorem negotiated_line_before_declined :
    ∃ updated outcome,
      updateAllMediaStreams plainPlatform {}
        (getMediaAttributeListFromSdp (some (audioSession [5004, 0])) true true) =
          .ok (true, updated) ∧
      setupNegotiatedMedia plainPlatform { updated with
        sdp := { pcmuSdp with
          activeLocalSession := some (audioSession [4000, 0])
          activeRemoteSession := some (audioSession [5004, 0]) } } = .ok outcome ∧
      ConfiguresEnabled (audioSession [5004, 0])
        ({ pcmuSdp with
          activeLocalSession := some (audioSession [4000, 0])
          activeRemoteSession := some (audioSession [5004, 0]) } : Sdp).getMediaSlots outcome := by
  obtain ⟨outcome, result, iff⟩ := setupNegotiatedMedia_configures_iff plainPlatform {} _ pcmuSdp
    (audioSession [5004, 0]) (audioSession [4000, 0]) (audioSession [5004, 0]) rfl
    (audioSession_kept _ _ rfl) (audioSession_kept_offer _)
  exact ⟨_, outcome, rfl, result, iff.mpr ⟨by decide, by decide⟩⟩

/-- A declined line before an enabled one takes the stream of the enabled one. -/
theorem negotiated_line_behind_declined_lost :
    let offer := audioSession [0, 5004]
    let active : Sdp :=
      { pcmuSdp with
        activeLocalSession := some (audioSession [0, 4000])
        activeRemoteSession := some offer }
    ∃ updated outcome,
      updateAllMediaStreams plainPlatform {} (getMediaAttributeListFromSdp (some offer) true true) =
        .ok (true, updated) ∧
      setupNegotiatedMedia plainPlatform { updated with sdp := active } = .ok outcome ∧
      ¬ ConfiguresEnabled offer active.getMediaSlots outcome := by
  refine ⟨_, _, rfl, rfl, ?_⟩
  rintro ⟨calls, _⟩
  have first := calls 0 _ rfl
  revert first
  decide

end SIPCall

end SipCore
