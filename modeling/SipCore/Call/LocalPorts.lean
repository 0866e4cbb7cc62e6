/-
The local ports of a call from their reservation to the sessions. A pair of sockets
is reserved for each media type that an enabled stream has; its port is published in
every line of that type; after the negotiation the first session that is configured
with the type takes the pair.

What the source has once for audio and once for video is a function of the type here.
The negotiator of the SIP library is only assumed to keep ports.
-/

import SipCore.Media.SocketReservation
import SipCore.Call.NegotiatedMedia

namespace SipCore

open Rtp Sdp

namespace Sdp

def offerLines (sdp : Sdp) : List MediaAttribute → Except SdpException (List SdpMedia)
  | [] => .ok []
  | media :: later =>
    if media.enabled then
      match sdp.addMediaDescription media none with
      | .error failure => .error failure
      | .ok (changed, line) =>
        match offerLines changed later with
        | .error failure => .error failure
        | .ok lines => .ok (line :: lines)
    else offerLines sdp later

/-- The limit on lines and the check of a session are PJMEDIA's. -/
def createOffer (maxSdpMedia : Nat) (isValid : SdpSession → Bool) (sdp : Sdp)
    (mediaList : List MediaAttribute) : Except SdpException (Option Sdp) :=
  if mediaList.length ≥ maxSdpMedia then
    .error ⟨"Media list size exceeds SDP media maximum size"⟩
  else
    match offerLines (sdp.createLocalSession .offer) mediaList with
    | .error failure => .error failure
    | .ok lines =>
      if isValid ⟨lines, some sdp.publishedIpAddr⟩ then
        .ok (some { sdp.createLocalSession .offer with
          localSession := some ⟨lines, some sdp.publishedIpAddr⟩ })
      else .ok none

def setLocalPublishedPorts (sdp : Sdp) (type : MediaType) (port controlPort : Nat) : Sdp :=
  if type = .audio then { sdp with localAudioRtpPort := port, localAudioRtcpPort := controlPort }
  else { sdp with localVideoRtpPort := port, localVideoRtcpPort := controlPort }

def localPublishedPort (sdp : Sdp) (type : MediaType) : Nat :=
  if type = .audio then sdp.localAudioRtpPort else sdp.localVideoRtpPort

end Sdp

structure RtpSession where
  reservedSocketPair : Option ReservedSocketPair := none
  socketPair : Option ReservedSocketPair := none
  deriving DecidableEq, Repr

def RtpSession.current (session : RtpSession) : Option ReservedSocketPair :=
  session.reservedSocketPair.or session.socketPair

structure MediaCall where
  call : SIPCall
  sessions : List RtpSession
  pendingSocketPair : MediaType → Option ReservedSocketPair
  localPort : MediaType → Nat
  rtcpMuxEnabled : Bool

/-- What the reservation takes from its surroundings: the family of an address, the
sockets the system gives out, the random choice and the ranges of the account. -/
structure PortPlatform where
  familyOf : String → AddressFamily
  creates : Nat → Bool
  startIndex : MediaType → Nat
  portRange : MediaType → UInt16 × UInt16

def Rtp.ReservedSocketPair.reset (pair : ReservedSocketPair) (sockets : Sockets) : Sockets :=
  (sockets.closeSocketHandle pair.rtpHandle).closeSocketHandle pair.rtcpHandle

def resetPending (pair : Option ReservedSocketPair) (sockets : Sockets) : Sockets :=
  match pair with
  | some pair => pair.reset sockets
  | none => sockets

namespace MediaCall

variable (call : MediaCall)

def hasEnabledMedia (mediaAttrList : List MediaAttribute) (type : MediaType) : Bool :=
  mediaAttrList.any (fun mediaAttr => mediaAttr.type = type && mediaAttr.enabled)

def pendingPort (type : MediaType) : Nat :=
  match call.pendingSocketPair type with
  | some pair => pair.rtpPort
  | none => call.localPort type % 65536

def pendingControlPort (type : MediaType) : Nat :=
  match call.pendingSocketPair type with
  | some pair => pair.rtcpPort
  | none => if call.localPort type = 0 then 0 else (call.localPort type + 1) % 65536

def publishPort (sdp : Sdp) (type : MediaType) : Sdp :=
  sdp.setLocalPublishedPorts type (call.pendingPort type)
    (if call.rtcpMuxEnabled || call.pendingPort type = 0 then 0 else call.pendingControlPort type)

def applyPendingLocalPortsToSdp : MediaCall :=
  { call with
    call :=
      { call.call with sdp := call.publishPort (call.publishPort call.call.sdp .audio) .video } }

def getPublishedMediaFamily (platform : PortPlatform) : AddressFamily :=
  platform.familyOf call.call.sdp.publishedIpAddr

def reserveFor (platform : PortPlatform) (mediaAttrList : List MediaAttribute) (type : MediaType)
    (mediaKind : String) (sockets : Sockets) :
    Except String (Option ReservedSocketPair) × Sockets :=
  if hasEnabledMedia mediaAttrList type then
    match reserveSocketPairInRange platform.creates (platform.startIndex type)
        (call.getPublishedMediaFamily platform) (platform.portRange type) mediaKind sockets with
    | (.error failure, failed) => (.error failure, failed)
    | (.ok pair, reserved) => (.ok (some pair), reserved)
  else (.ok none, sockets)

def pendingPairs (audio video : Option ReservedSocketPair) : MediaType → Option ReservedSocketPair
  | .audio => audio
  | .video => video
  | _ => none

/-- A failure releases what was reserved before it; the pairs that were pending go with
a success. -/
def prepareLocalMediaReservations (platform : PortPlatform) (mediaAttrList : List MediaAttribute)
    (sockets : Sockets) : Bool × MediaCall × Sockets :=
  if call.call.account.isNone then (false, call, sockets)
  else if call.getPublishedMediaFamily platform ≠ .inet ∧
      call.getPublishedMediaFamily platform ≠ .inet6 then (false, call, sockets)
  else
    match call.reserveFor platform mediaAttrList .audio "audio" sockets with
    | (.error _, failed) => (false, call, failed)
    | (.ok audio, withAudio) =>
      match call.reserveFor platform mediaAttrList .video "video" withAudio with
      | (.error _, failed) => (false, call, resetPending audio failed)
      | (.ok video, withVideo) =>
        (true,
          applyPendingLocalPortsToSdp { call with pendingSocketPair := pendingPairs audio video },
          resetPending (call.pendingSocketPair .video)
            (resetPending (call.pendingSocketPair .audio) withVideo))

def configureRtpSession (entry : Nat × MediaSlot) : MediaCall :=
  match call.pendingSocketPair entry.2.1.type with
  | some pair =>
    { call with
      localPort := Function.update call.localPort entry.2.1.type pair.rtpPort
      sessions := call.sessions.modify entry.1
        (fun session => { session with reservedSocketPair := some pair })
      pendingSocketPair := Function.update call.pendingSocketPair entry.2.1.type none }
  | none =>
    if entry.2.1.enabled then call
    else { call with localPort := Function.update call.localPort entry.2.1.type 0 }

/-- Without slots nothing is done; otherwise the reservations that no session took are
released in the end. -/
def setupNegotiatedMedia (platform : Platform) :
    Except String (SIPCall.NegotiatedMedia × MediaCall) :=
  match SIPCall.setupNegotiatedMedia platform call.call with
  | .error failure => .error failure
  | .ok outcome =>
    if call.call.sdp.getMediaSlots.isEmpty then .ok (outcome, call)
    else
      .ok (outcome,
        { outcome.configured.foldl configureRtpSession call with
          call := { call.call with rtpStreams := outcome.rtpStreams }
          pendingSocketPair := fun _ => none })

end MediaCall

theorem Sdp.emptyMedia_port (sdp : Sdp) (mediaAttr : MediaAttribute) :
    (sdp.emptyMedia mediaAttr).port =
      if mediaAttr.enabled then sdp.localPublishedPort mediaAttr.type else 0 := by
  unfold emptyMedia localPublishedPort
  cases mediaAttr.enabled <;> rfl

theorem Sdp.describeMedia_line (sdp : Sdp) (mediaAttr : MediaAttribute)
    (remoteMedia : Option SdpMedia) (med : SdpMedia) (resolved : List ResolvedCodec) :
    (sdp.describeMedia mediaAttr remoteMedia med resolved).port = med.port ∧
      (sdp.describeMedia mediaAttr remoteMedia med resolved).media = med.media := by
  unfold describeMedia setTelephoneEventRtpmap addTelephoneEvent addRTCPAttribute
  repeat' split
  all_goals exact ⟨rfl, rfl⟩

theorem Sdp.answerMedia_line (sdp : Sdp) (mediaAttr : MediaAttribute) (remoteMedia : SdpMedia) :
    ((sdp.answerMedia mediaAttr remoteMedia).port = 0 ∨
      (sdp.answerMedia mediaAttr remoteMedia).port = (sdp.emptyMedia mediaAttr).port) ∧
    (sdp.answerMedia mediaAttr remoteMedia).media = (sdp.emptyMedia mediaAttr).media := by
  unfold answerMedia
  dsimp only
  split
  · exact ⟨.inl rfl, rfl⟩
  · obtain ⟨port, media⟩ := sdp.describeMedia_line mediaAttr (some remoteMedia)
      (sdp.emptyMedia mediaAttr) (sdp.answerCodecs mediaAttr.type remoteMedia)
    exact ⟨.inr port, media⟩

theorem Sdp.keepAdopted_port (sdp : Sdp) (type kind : MediaType) (line : SdpMedia) :
    (sdp.keepAdopted type line).localPublishedPort kind = sdp.localPublishedPort kind := by
  unfold keepAdopted
  split <;> rfl

variable {line : SdpMedia} {type : MediaType}

private theorem supportedType_of_media (kind : type = .audio ∨ type = .video)
    (media : line.media = if type = .audio then "audio" else "video") :
    line.getSupportedMediaType = type := by
  unfold SdpMedia.getSupportedMediaType
  rw [media]
  rcases kind with rfl | rfl
  · rfl
  · rfl

def Published (sdp : Sdp) (mediaList : List MediaAttribute) (line : SdpMedia) : Prop :=
  line.port ≠ 0 → ∃ media ∈ mediaList, media.enabled = true ∧
    (media.type = .audio ∨ media.type = .video) ∧ line.getSupportedMediaType = media.type ∧
    line.port = sdp.localPublishedPort media.type

variable {sdp : Sdp}

theorem Published.mono {before : Sdp} {fewer mediaList : List MediaAttribute}
    (published : Published before fewer line)
    (ports : ∀ type, before.localPublishedPort type = sdp.localPublishedPort type)
    (more : fewer ⊆ mediaList) : Published sdp mediaList line := by
  intro active
  obtain ⟨media, member, enabled, kind, type, port⟩ := published active
  exact ⟨media, more member, enabled, kind, type, port.trans (ports media.type)⟩

theorem addMediaDescription_published {changed : Sdp} {media : MediaAttribute}
    {remoteMedia : Option SdpMedia}
    (added : sdp.addMediaDescription media remoteMedia = .ok (changed, line)) :
    Published sdp [media] line ∧
    ∀ type, changed.localPublishedPort type = sdp.localPublishedPort type := by
  have finish : (media.type = .audio ∨ media.type = .video) →
      (line.port = 0 ∨ line.port = (sdp.emptyMedia media).port) →
      line.media = (sdp.emptyMedia media).media → Published sdp [media] line := by
    intro kind port name active
    rw [emptyMedia_port] at port
    cases enabled : media.enabled with
    | false =>
      rw [enabled] at port
      exact absurd (port.elim id id) active
    | true =>
      rw [enabled] at port
      exact ⟨media, List.mem_singleton_self _, enabled, kind, supportedType_of_media kind name,
        port.resolve_left active⟩
  unfold addMediaDescription at added
  cases type : media.type with
  | none | all =>
    rw [type] at added
    cases added
  | audio | video =>
    have kind : media.type = .audio ∨ media.type = .video := by simp [type]
    rw [type] at added
    simp only at added
    split at added
    · cases added
      obtain ⟨port, name⟩ := sdp.answerMedia_line media _
      exact ⟨finish kind port name, fun other => keepAdopted_port sdp _ other _⟩
    · cases added
      exact ⟨finish kind (.inr (sdp.describeMedia_line media _ _ _).1)
        (sdp.describeMedia_line media _ _ _).2, fun _ => rfl⟩

private theorem offerLines_published {mediaList : List MediaAttribute} {lines : List SdpMedia}
    (built : sdp.offerLines mediaList = .ok lines) :
    ∀ line ∈ lines, Published sdp mediaList line := by
  induction mediaList generalizing sdp lines with
  | nil =>
    cases built
    intro line member
    cases member
  | cons media later ih =>
    unfold offerLines at built
    split at built
    · split at built
      · cases built
      · rename_i changed line added
        split at built
        · cases built
        · rename_i rest tail
          cases built
          obtain ⟨own, ports⟩ := addMediaDescription_published added
          intro other member
          rcases List.mem_cons.mp member with rfl | behind
          · exact own.mono (fun _ => rfl) (fun _ inside => by
              rw [List.mem_singleton.mp inside]
              exact List.mem_cons_self)
          · exact (ih tail other behind).mono ports (List.subset_cons_self _ _)
    · intro other member
      exact (ih built other member).mono (fun _ => rfl) (List.subset_cons_self _ _)

theorem answerLines_published {final : Sdp} {pairs : List (MediaAttribute × Option OfferedLine)}
    {answered : List AnsweredLine} (built : answerLines sdp pairs = .ok (final, answered)) :
    ∀ line ∈ answered.map AnsweredLine.answer, Published sdp (pairs.map Prod.fst) line := by
  induction pairs generalizing sdp answered with
  | nil =>
    cases built
    intro line member
    cases member
  | cons pair later ih =>
    unfold answerLines at built
    split at built
    · split at built
      · cases built
      · rename_i changed line added
        split at built
        · cases built
        · rename_i rest tail result
          cases built
          obtain ⟨own, ports⟩ := addMediaDescription_published added
          intro other member
          rcases List.mem_cons.mp member with rfl | behind
          · exact own.mono (fun _ => rfl) (fun _ inside => by
              rw [List.mem_singleton.mp inside]
              exact List.mem_cons_self)
          · exact (ih result other behind).mono ports (List.subset_cons_self _ _)
    · intro other member
      exact (ih built other member).mono (fun _ => rfl) (List.subset_cons_self _ _)

private theorem lockstep_streams (remote : List OfferedLine) (mediaList : List MediaAttribute) :
    (lockstep remote mediaList).map Prod.fst = mediaList := by
  induction mediaList generalizing remote with
  | nil => rfl
  | cons media later ih =>
    unfold lockstep
    split <;> rw [List.map_cons, ih]

inductive PutsForward (sdp : Sdp) (mediaList : List MediaAttribute) : Sdp → Prop where
  | offer (maxSdpMedia : Nat) (isValid : SdpSession → Bool) {final : Sdp}
      (created : createOffer maxSdpMedia isValid sdp mediaList = .ok (some final)) :
      PutsForward sdp mediaList final
  | answer {final : Sdp} {answered : List AnsweredLine}
      (processed : sdp.processIncomingOffer mediaList = .ok (some (final, answered))) :
      PutsForward sdp mediaList final

theorem PutsForward.published {final : Sdp} {mediaList : List MediaAttribute}
    (forward : PutsForward sdp mediaList final) :
    ∃ session, final.localSession = some session ∧
      ∀ line ∈ session.media, Published sdp mediaList line := by
  cases forward with
  | offer maxSdpMedia isValid created =>
    unfold createOffer at created
    split at created
    · cases created
    · split at created
      · cases created
      · rename_i lines built
        split at created
        · cases created
          refine ⟨_, rfl, ?_⟩
          intro line member
          exact (offerLines_published built line member).mono (fun _ => rfl) (List.Subset.refl _)
        · cases created
  | answer processed =>
    unfold processIncomingOffer at processed
    split at processed
    · cases processed
    · split at processed
      · cases processed
      · rename_i remote _ built
        cases processed
        refine ⟨_, rfl, ?_⟩
        intro line member
        have own := answerLines_published built line member
        rw [lockstep_streams] at own
        exact own.mono (fun _ => rfl) (List.Subset.refl _)

/-! ### What the preparation leaves -/

namespace MediaCall

variable {call prepared : MediaCall} {platform : PortPlatform} {mediaList : List MediaAttribute}
  {sockets after : Sockets}

private theorem localPublishedPort_apply (kind : type = .audio ∨ type = .video) :
    call.applyPendingLocalPortsToSdp.call.sdp.localPublishedPort type = call.pendingPort type := by
  rcases kind with rfl | rfl
  · rfl
  · rfl

private theorem reserveFor_ok {mediaKind : String} {pair : Option ReservedSocketPair}
    (returned : call.reserveFor platform mediaList type mediaKind sockets = (.ok pair, after)) :
    (hasEnabledMedia mediaList type = true → pair.isSome = true) ∧
    ∀ own, pair = some own → sockets.FreePair own.rtpPort ∧ after.isFree own.rtpPort = false := by
  unfold reserveFor at returned
  split at returned
  · split at returned
    · cases returned
    · rename_i own reserved result
      cases returned
      rcases reserve_outcome result with ⟨same, requests, equal, free, opened⟩ | ⟨_, _, equal, _⟩
      · cases equal
        refine ⟨fun _ => rfl, ?_⟩
        intro other same
        cases same
        refine ⟨free, ?_⟩
        apply Bool.eq_false_iff.mpr
        intro still
        refine (Sockets.isFree_iff.mp still).2 ⟨own.rtpHandle, some own.rtpPort⟩ ?_ rfl
        rw [opened.opened]
        exact List.mem_append_right _ List.mem_cons_self
      · cases equal
  · rename_i unwanted
    cases returned
    exact ⟨fun wanted => absurd wanted unwanted, nofun⟩

/-- What a successful preparation leaves: for a type with an enabled stream the port of
the pending pair is published, and no two types share a port. -/
structure Prepared (mediaList : List MediaAttribute) (prepared : MediaCall) : Prop where
  published : ∀ media ∈ mediaList, media.enabled = true →
    (media.type = .audio ∨ media.type = .video) →
      ∃ pair, prepared.pendingSocketPair media.type = some pair ∧
        prepared.call.sdp.localPublishedPort media.type = pair.rtpPort
  distinct : ∀ audio video, prepared.pendingSocketPair .audio = some audio →
    prepared.pendingSocketPair .video = some video → audio.rtpPort ≠ video.rtpPort

private theorem prepared_of_done
    (done : call.prepareLocalMediaReservations platform mediaList sockets = (true, prepared, after)) :
    Prepared mediaList prepared := by
  unfold prepareLocalMediaReservations at done
  split at done
  · cases done
  · split at done
    · cases done
    · split at done
      · cases done
      · rename_i audio withAudio audioReserved
        split at done
        · cases done
        · rename_i video withVideo videoReserved
          cases done
          obtain ⟨audioAsked, audioOpen⟩ := reserveFor_ok audioReserved
          obtain ⟨videoAsked, videoOpen⟩ := reserveFor_ok videoReserved
          constructor
          · intro media member enabled kind
            have asked : hasEnabledMedia mediaList media.type = true :=
              List.any_eq_true.mpr ⟨media, member, by simp [enabled]⟩
            have present : (pendingPairs audio video media.type).isSome = true := by
              rcases kind with type | type
              · rw [type] at asked ⊢
                exact audioAsked asked
              · rw [type] at asked ⊢
                exact videoAsked asked
            obtain ⟨pair, pending⟩ := Option.isSome_iff_exists.mp present
            refine ⟨pair, pending, ?_⟩
            rw [localPublishedPort_apply kind]
            unfold pendingPort
            simp only [pending]
          · intro own other first second same
            -- The video port was free when the audio socket was open.
            have free := (videoOpen other second).1.1
            rw [← same, (audioOpen own first).2] at free
            cases free

end MediaCall

namespace MediaCall

section Configure

variable {call : MediaCall} {entry : Nat × MediaSlot}

theorem configure_sessions_other {index : Nat} (other : entry.1 ≠ index) :
    (call.configureRtpSession entry).sessions[index]? = call.sessions[index]? := by
  unfold configureRtpSession
  split
  · exact List.getElem?_modify_ne _ _ other
  · split <;> rfl

private theorem configure_sessions_own {session : RtpSession}
    (present : call.sessions[entry.1]? = some session) :
    (call.configureRtpSession entry).sessions[entry.1]? =
      some { session with
        reservedSocketPair :=
          (call.pendingSocketPair entry.2.1.type).or session.reservedSocketPair } := by
  unfold configureRtpSession
  split
  · rename_i pair pending
    rw [List.getElem?_modify_eq, present, pending]
    rfl
  · rename_i pending
    rw [pending]
    split <;> exact present

theorem configure_pending_own :
    (call.configureRtpSession entry).pendingSocketPair entry.2.1.type = none := by
  unfold configureRtpSession
  split
  · exact Function.update_self _ _ _
  · rename_i empty
    split <;> exact empty

theorem configure_pending_other (other : entry.2.1.type ≠ type) :
    (call.configureRtpSession entry).pendingSocketPair type = call.pendingSocketPair type := by
  unfold configureRtpSession
  split
  · exact Function.update_of_ne (Ne.symm other) _ _
  · split <;> rfl

private theorem configured_sessions_other {index : Nat} {entries : List (Nat × MediaSlot)}
    (absent : ∀ entry ∈ entries, entry.1 ≠ index) :
    (entries.foldl configureRtpSession call).sessions[index]? = call.sessions[index]? := by
  induction entries generalizing call with
  | nil => rfl
  | cons first later ih =>
    rw [List.foldl_cons, ih (fun entry member => absent entry (List.mem_cons_of_mem _ member))]
    exact configure_sessions_other (absent first List.mem_cons_self)

private theorem configured_pending {entries : List (Nat × MediaSlot)} :
    (entries.foldl configureRtpSession call).pendingSocketPair type =
      if ∃ entry ∈ entries, entry.2.1.type = type then none else call.pendingSocketPair type := by
  induction entries generalizing call with
  | nil => simp
  | cons first later ih =>
    rw [List.foldl_cons, ih]
    by_cases own : first.2.1.type = type
    · have pending : (call.configureRtpSession first).pendingSocketPair type = none := by
        rw [← own]
        exact configure_pending_own
      rw [pending, ite_self, if_pos ⟨first, List.mem_cons_self, own⟩]
    · rw [configure_pending_other own]
      simp only [List.exists_mem_cons_iff, own, false_or]

private theorem configured_session {before behind : List (Nat × MediaSlot)} {session : RtpSession}
    (present : call.sessions[entry.1]? = some session)
    (sparse : ∀ other ∈ before ++ behind, other.1 ≠ entry.1) :
    ((before ++ entry :: behind).foldl configureRtpSession call).sessions[entry.1]? =
      some { session with
        reservedSocketPair :=
          ((before.foldl configureRtpSession call).pendingSocketPair entry.2.1.type).or
            session.reservedSocketPair } := by
  rw [List.foldl_append, List.foldl_cons, configured_sessions_other
    (fun other member => sparse other (List.mem_append_right _ member))]
  apply configure_sessions_own
  rw [configured_sessions_other (fun other member => sparse other (List.mem_append_left _ member))]
  exact present

end Configure

end MediaCall

namespace SIPCall

variable (platform : Platform)

theorem configured_ordered (srtpEnabled : Bool) (slots : List MediaSlot) (streamCount : Nat) :
    ((slots.zipIdx.filter (configures platform srtpEnabled streamCount)).map Prod.swap).Pairwise
      (fun earlier later => earlier.1 < later.1) := by
  rw [List.pairwise_map]
  apply List.Pairwise.filter
  have numbers : (slots.zipIdx.map Prod.snd).Pairwise (· < ·) := by
    rw [List.zipIdx_map_snd]
    exact List.pairwise_lt_range'
  exact List.pairwise_map.mp numbers

end SIPCall

def localLines (sdp : Sdp) : List SdpMedia :=
  match sdp.activeLocalSession with
  | none => []
  | some session => session.media.filter (fun line => line.getSupportedMediaType ≠ .none)

def publishedPort (sdp : Sdp) (index : Nat) : Option Nat :=
  (localLines sdp)[index]?.map SdpMedia.port

theorem line_of_slot {index : Nat} {slot : MediaSlot}
    (located : sdp.getMediaSlots[index]? = some slot) :
    ∃ session line, sdp.activeLocalSession = some session ∧ line ∈ session.media ∧
      (localLines sdp)[index]? = some line ∧ slot.1 = sdp.describeLine session line ∧
      line.getSupportedMediaType ≠ .none := by
  have described := (List.getElem?_zip_eq_some.mp located).1
  cases active : sdp.activeLocalSession with
  | none =>
    rw [active] at described
    cases described
  | some session =>
    rw [active] at described
    change ((session.media.filter _).map _)[index]? = _ at described
    rw [List.getElem?_map] at described
    obtain ⟨line, found, same⟩ := Option.map_eq_some_iff.mp described
    obtain ⟨member, supported⟩ := List.mem_filter.mp (List.mem_of_getElem? found)
    refine ⟨session, line, rfl, member, ?_, same.symm, of_decide_eq_true supported⟩
    unfold localLines
    rw [active]
    exact found

theorem type_of_supported (supported : line.getSupportedMediaType ≠ .none) :
    line.getSupportedMediaType = .audio ∨ line.getSupportedMediaType = .video := by
  unfold SdpMedia.getSupportedMediaType at supported ⊢
  split
  · exact .inl rfl
  · split
    · exact .inr rfl
    · rename_i audio video
      rw [if_neg audio, if_neg video] at supported
      exact absurd rfl supported

private theorem port_of_enabled {session : SdpSession}
    (enabled : (sdp.describeLine session line).enabled = true) : line.port ≠ 0 := by
  intro zero
  unfold describeLine at enabled
  simp [zero] at enabled

/-! ### Ports and sessions of a negotiated call -/

/-- What the negotiator of the SIP library leaves active was put forward. -/
def KeepsPorts (forward active : SdpSession) : Prop :=
  ∀ line ∈ active.media, line.port ≠ 0 → ∃ own ∈ forward.media,
    own.port = line.port ∧ own.getSupportedMediaType = line.getSupportedMediaType

namespace MediaCall

/-- A call that has negotiated what it put forward after the preparation. Its streams
and sessions are any, one session for each stream. -/
structure Negotiated (prepared : MediaCall) (mediaList : List MediaAttribute) (ready : MediaCall) :
    Prop where
  forward : ∃ sdp final session,
    (∀ type, sdp.localPublishedPort type = prepared.call.sdp.localPublishedPort type) ∧
    PutsForward sdp mediaList final ∧ final.localSession = some session ∧
    ∀ active, ready.call.sdp.activeLocalSession = some active → KeepsPorts session active
  pending : ready.pendingSocketPair = prepared.pendingSocketPair
  sessions : ready.sessions.length = ready.call.rtpStreams.length

def EnabledStream (call : MediaCall) (index : Nat) (slot : MediaSlot) : Prop :=
  call.call.sdp.getMediaSlots[index]? = some slot ∧ index < call.call.rtpStreams.length ∧
    slot.1.enabled = true

def HoldsPublished (call : MediaCall) (index : Nat) : Prop :=
  ∃ session pair, call.sessions[index]? = some session ∧ session.current = some pair ∧
    publishedPort call.call.sdp index = some pair.rtpPort

def TakenBefore (platform : Platform) (call : MediaCall) (index : Nat) (type : MediaType) : Prop :=
  ∃ earlier slot, earlier < index ∧ call.call.sdp.getMediaSlots[earlier]? = some slot ∧
    SIPCall.isUsable platform call.call.srtpEnabled slot = true ∧ slot.1.type = type

section Negotiation

variable {platform : Platform} {prepared ready : MediaCall} {mediaList : List MediaAttribute}

theorem slot_types (call : MediaCall) :
    ∀ slot ∈ call.call.sdp.getMediaSlots, slot.1.type = .audio ∨ slot.1.type = .video := by
  intro slot member
  obtain ⟨index, located⟩ := List.mem_iff_getElem?.mp member
  obtain ⟨session, line, _, _, _, description, supported⟩ := line_of_slot located
  rw [description, describeLine_type]
  exact type_of_supported supported

theorem enabled_published (preparation : Prepared mediaList prepared)
    (negotiated : Negotiated prepared mediaList ready) {index : Nat} {slot : MediaSlot}
    (enabled : EnabledStream ready index slot) :
    ∃ pair, ready.pendingSocketPair slot.1.type = some pair ∧
      publishedPort ready.call.sdp index = some pair.rtpPort := by
  obtain ⟨located, _, active⟩ := enabled
  obtain ⟨session, line, isActive, member, found, description, _⟩ := line_of_slot located
  obtain ⟨sdp, final, forwardSession, ports, forward, localSession, kept⟩ := negotiated.forward
  rw [description] at active
  have port := port_of_enabled active
  obtain ⟨own, ownMember, ownPort, ownType⟩ := kept session isActive line member port
  obtain ⟨_, same, published⟩ := forward.published
  cases same.symm.trans localSession
  obtain ⟨media, mediaMember, mediaEnabled, kind, type, publishedAs⟩ :=
    published own ownMember (by rw [ownPort]; exact port)
  obtain ⟨pair, pending, asPublished⟩ := preparation.published media mediaMember mediaEnabled kind
  refine ⟨pair, ?_, ?_⟩
  · rw [description, describeLine_type, ← ownType, type, negotiated.pending]
    exact pending
  · unfold publishedPort
    rw [found, Option.map_some, ← ownPort, publishedAs, ports, asPublished]

structure SetUp (platform : Platform) (ready : MediaCall) (outcome : SIPCall.NegotiatedMedia)
    (final : MediaCall) : Prop where
  sdp : final.call.sdp = ready.call.sdp
  configured : outcome.configured = (ready.call.sdp.getMediaSlots.zipIdx.filter
    (SIPCall.configures platform ready.call.srtpEnabled ready.call.rtpStreams.length)).map Prod.swap
  sessions : final.sessions = (outcome.configured.foldl configureRtpSession ready).sessions

private theorem setupNegotiatedMedia_setUp (platform : Platform) (ready : MediaCall) :
    ∃ outcome final, ready.setupNegotiatedMedia platform = .ok (outcome, final) ∧
      SetUp platform ready outcome final := by
  obtain ⟨outcome, result, _, configured⟩ :=
    SIPCall.setupNegotiatedMedia_eq platform ready.call (slot_types ready)
  unfold setupNegotiatedMedia
  simp only [result]
  split
  · rename_i empty
    refine ⟨outcome, ready, rfl, rfl, configured, ?_⟩
    rw [configured, List.isEmpty_iff.mp empty]
    rfl
  · exact ⟨outcome, _, rfl, rfl, configured, rfl⟩

variable {outcome : SIPCall.NegotiatedMedia} {final : MediaCall} {index : Nat} {slot : MediaSlot}

theorem SetUp.mem_configured_iff (setUp : SetUp platform ready outcome final) (index : Nat)
    (slot : MediaSlot) :
    (index, slot) ∈ outcome.configured ↔
      ready.call.sdp.getMediaSlots[index]? = some slot ∧ index < ready.call.rtpStreams.length ∧
        SIPCall.isUsable platform ready.call.srtpEnabled slot = true := by
  rw [setUp.configured]
  exact SIPCall.mem_configured_iff platform _ _ _ index slot

theorem SetUp.split_at (setUp : SetUp platform ready outcome final)
    (member : (index, slot) ∈ outcome.configured) :
    ∃ before behind, outcome.configured = before ++ (index, slot) :: behind ∧
      (∀ entry ∈ before, entry.1 < index) ∧ ∀ entry ∈ behind, index < entry.1 := by
  have ordered := SIPCall.configured_ordered platform ready.call.srtpEnabled
    ready.call.sdp.getMediaSlots ready.call.rtpStreams.length
  rw [← setUp.configured] at ordered
  obtain ⟨before, behind, split⟩ := List.append_of_mem member
  rw [split] at ordered
  obtain ⟨_, tailOrdered, cross⟩ := List.pairwise_append.mp ordered
  exact ⟨before, behind, split,
    fun entry inside => cross entry inside (index, slot) List.mem_cons_self,
    (List.pairwise_cons.mp tailOrdered).1⟩

open Classical in
theorem SetUp.session (setUp : SetUp platform ready outcome final)
    (member : (index, slot) ∈ outcome.configured) {session : RtpSession}
    (present : ready.sessions[index]? = some session) :
    final.sessions[index]? =
      some { session with
        reservedSocketPair :=
          (if TakenBefore platform ready index slot.1.type then none
            else ready.pendingSocketPair slot.1.type).or session.reservedSocketPair } := by
  have isConfigured := setUp.mem_configured_iff
  obtain ⟨before, behind, split, lower, upper⟩ := setUp.split_at member
  rw [setUp.sessions]
  rw [split] at isConfigured ⊢
  have sparse : ∀ other ∈ before ++ behind, other.1 ≠ (index, slot).1 := by
    intro other inside
    rcases List.mem_append.mp inside with inBefore | inBehind
    · exact Nat.ne_of_lt (lower other inBefore)
    · exact Nat.ne_of_gt (upper other inBehind)
  have taken : (∃ entry ∈ before, entry.2.1.type = slot.1.type) ↔
      TakenBefore platform ready index slot.1.type := by
    constructor
    · intro inFront
      obtain ⟨entry, inBefore, type⟩ := inFront
      obtain ⟨located, _, usable⟩ :=
        (isConfigured entry.1 entry.2).mp (List.mem_append_left _ inBefore)
      exact ⟨entry.1, entry.2, lower entry inBefore, located, usable, type⟩
    · intro takenBefore
      obtain ⟨earlier, other, less, located, usable, type⟩ := takenBefore
      obtain ⟨_, within, _⟩ := (isConfigured index slot).mp (by simp)
      refine ⟨(earlier, other), ?_, type⟩
      have inside := (isConfigured earlier other).mpr ⟨located, Nat.lt_trans less within, usable⟩
      rcases List.mem_append.mp inside with inBefore | same
      · exact inBefore
      · rcases List.mem_cons.mp same with equal | inBehind
        · cases equal
          exact absurd less (Nat.lt_irrefl _)
        · exact absurd (upper _ inBehind) (Nat.lt_asymm less)
  rw [configured_session present sparse, configured_pending]
  simp only [taken]

theorem Negotiated.session_of_stream (negotiated : Negotiated prepared mediaList ready)
    (within : index < ready.call.rtpStreams.length) :
    ∃ session, ready.sessions[index]? = some session := by
  rw [← negotiated.sessions] at within
  exact ⟨_, List.getElem?_eq_getElem within⟩

theorem SetUp.holds_iff_of_taken (setUp : SetUp platform ready outcome final)
    (negotiated : Negotiated prepared mediaList ready)
    (member : (index, slot) ∈ outcome.configured)
    (taken : TakenBefore platform ready index slot.1.type) :
    HoldsPublished final index ↔ HoldsPublished ready index := by
  obtain ⟨session, present⟩ :=
    negotiated.session_of_stream ((setUp.mem_configured_iff index slot).mp member).2.1
  have same := setUp.session member present
  rw [if_pos taken, Option.none_or] at same
  unfold HoldsPublished
  rw [setUp.sdp, same, present]

theorem SetUp.holds_of_free (setUp : SetUp platform ready outcome final)
    (preparation : Prepared mediaList prepared) (negotiated : Negotiated prepared mediaList ready)
    (member : (index, slot) ∈ outcome.configured) (enabled : EnabledStream ready index slot)
    (free : ¬ TakenBefore platform ready index slot.1.type) : HoldsPublished final index := by
  obtain ⟨session, present⟩ := negotiated.session_of_stream enabled.2.1
  obtain ⟨pair, pending, published⟩ := enabled_published preparation negotiated enabled
  have changed := setUp.session member present
  rw [if_neg free, pending] at changed
  refine ⟨_, pair, changed, rfl, ?_⟩
  rw [setUp.sdp]
  exact published

theorem published_eq_iff (preparation : Prepared mediaList prepared)
    (negotiated : Negotiated prepared mediaList ready) {other : Nat} {otherSlot : MediaSlot}
    (enabled : EnabledStream ready index slot) (otherEnabled : EnabledStream ready other otherSlot) :
    publishedPort ready.call.sdp index = publishedPort ready.call.sdp other ↔
      slot.1.type = otherSlot.1.type := by
  obtain ⟨pair, pending, published⟩ := enabled_published preparation negotiated enabled
  obtain ⟨otherPair, otherPending, otherPublished⟩ :=
    enabled_published preparation negotiated otherEnabled
  rw [published, otherPublished, Option.some_inj]
  constructor
  · intro same
    rw [negotiated.pending] at pending otherPending
    have type := slot_types ready slot (List.mem_of_getElem? enabled.1)
    have otherType := slot_types ready otherSlot (List.mem_of_getElem? otherEnabled.1)
    rcases type with audio | video
    · rcases otherType with otherAudio | otherVideo
      · rw [audio, otherAudio]
      · rw [audio] at pending
        rw [otherVideo] at otherPending
        exact absurd same (preparation.distinct pair otherPair pending otherPending)
    · rcases otherType with otherAudio | otherVideo
      · rw [video] at pending
        rw [otherAudio] at otherPending
        exact absurd same.symm (preparation.distinct otherPair pair otherPending pending)
      · rw [video, otherVideo]
  · intro type
    rw [type, otherPending] at pending
    cases pending
    rfl

end Negotiation

/-- Different enabled streams have different ports, and the session of an enabled stream
that was configured holds the pair of its port. -/
def PortsHeld (ready : MediaCall) (outcome : SIPCall.NegotiatedMedia) (final : MediaCall) : Prop :=
  (∀ index other slot otherSlot, index ≠ other → EnabledStream ready index slot →
    EnabledStream ready other otherSlot →
      publishedPort ready.call.sdp index ≠ publishedPort ready.call.sdp other) ∧
  ∀ index slot, (index, slot) ∈ outcome.configured → EnabledStream ready index slot →
    HoldsPublished final index

/-- No two enabled streams have one type, and before the session of an enabled stream
none of its type is configured, unless the session has the published pair already. -/
def OneOfEachType (platform : Platform) (ready : MediaCall) : Prop :=
  (∀ index other slot otherSlot, index ≠ other → EnabledStream ready index slot →
    EnabledStream ready other otherSlot → slot.1.type ≠ otherSlot.1.type) ∧
  ∀ index slot, SIPCall.isUsable platform ready.call.srtpEnabled slot = true →
    EnabledStream ready index slot →
      ¬ TakenBefore platform ready index slot.1.type ∨ HoldsPublished ready index

/-- For a call that prepared, put forward and negotiated a list: the enabled streams have
ports of their own and their sessions hold them exactly if they are one of each type. -/
theorem negotiated_ports_held_iff (ports : PortPlatform) (platform : Platform)
    (sockets after : Sockets) (call prepared ready : MediaCall) (mediaList : List MediaAttribute)
    (done : call.prepareLocalMediaReservations ports mediaList sockets = (true, prepared, after))
    (negotiated : Negotiated prepared mediaList ready) :
    ∃ outcome final, ready.setupNegotiatedMedia platform = .ok (outcome, final) ∧
      (PortsHeld ready outcome final ↔ OneOfEachType platform ready) := by
  have preparation := prepared_of_done done
  obtain ⟨outcome, final, result, setUp⟩ := setupNegotiatedMedia_setUp platform ready
  refine ⟨outcome, final, result, ?_⟩
  constructor
  · intro held
    constructor
    · intro index other slot otherSlot different enabled otherEnabled type
      apply held.1 index other slot otherSlot different enabled otherEnabled
      exact (published_eq_iff preparation negotiated enabled otherEnabled).mpr type
    · intro index slot usable enabled
      have member := (setUp.mem_configured_iff index slot).mpr ⟨enabled.1, enabled.2.1, usable⟩
      by_cases taken : TakenBefore platform ready index slot.1.type
      · right
        apply (setUp.holds_iff_of_taken negotiated member taken).mp
        exact held.2 index slot member enabled
      · left
        exact taken
  · intro separate
    constructor
    · intro index other slot otherSlot different enabled otherEnabled same
      apply separate.1 index other slot otherSlot different enabled otherEnabled
      exact (published_eq_iff preparation negotiated enabled otherEnabled).mp same
    · intro index slot member enabled
      by_cases taken : TakenBefore platform ready index slot.1.type
      · have usable := ((setUp.mem_configured_iff index slot).mp member).2.2
        have already := (separate.2 index slot usable enabled).resolve_left (not_not_intro taken)
        exact (setUp.holds_iff_of_taken negotiated member taken).mpr already
      · exact setUp.holds_of_free preparation negotiated member enabled taken

theorem oneOfEachType_of_nodup (platform : Platform) {ready : MediaCall}
    (distinct : (ready.call.sdp.getMediaSlots.map (fun slot => slot.1.type)).Nodup) :
    OneOfEachType platform ready := by
  have different : ∀ (index other : Nat) (slot otherSlot : MediaSlot), index ≠ other →
      ready.call.sdp.getMediaSlots[index]? = some slot →
      ready.call.sdp.getMediaSlots[other]? = some otherSlot → slot.1.type ≠ otherSlot.1.type := by
    intro index other slot otherSlot apart located otherLocated same
    refine apart ((List.getElem?_inj ?_ distinct).mp ?_)
    · rw [List.length_map]
      exact (List.getElem?_eq_some_iff.mp located).1
    · rw [List.getElem?_map, List.getElem?_map, located, otherLocated]
      exact congrArg some same
  constructor
  · intro index other slot otherSlot apart enabled otherEnabled
    exact different index other slot otherSlot apart enabled.1 otherEnabled.1
  · intro index slot _ enabled
    left
    rintro ⟨earlier, taken, less, located, _, same⟩
    exact different earlier index taken slot (Nat.ne_of_lt less) located enabled.1 same

def audioAttribute (label : String) : MediaAttribute :=
  { type := .audio, enabled := true, label := label }

def plainCall (mediaList : List MediaAttribute) : MediaCall :=
  { call :=
      { sdp :=
          { SIPCall.pcmuSdp with
            publishedIpAddr := "192.0.2.7"
            videoCodecList := [AccountCodecInfo.ofSystem SystemCodecInfo.vp8] }
        rtpStreams := mediaList.map RtpStream.mk
        account := some {} }
    sessions := mediaList.map (fun _ => {})
    pendingSocketPair := fun _ => none
    localPort := fun _ => 0
    rtcpMuxEnabled := false }

def plainPorts : PortPlatform :=
  { familyOf := fun _ => .inet
    creates := fun _ => true
    startIndex := fun _ => 0
    portRange := fun _ => (6000, 6003) }

def preparedCall (mediaList : List MediaAttribute) : MediaCall :=
  ((plainCall mediaList).prepareLocalMediaReservations plainPorts mediaList quietSockets).2.1

def answeredCall (prepared : MediaCall) (offered : Sdp) (remote : SdpSession) : MediaCall :=
  { prepared with
    call :=
      { prepared.call with
        sdp :=
          { offered with
            activeLocalSession := offered.localSession
            activeRemoteSession := some remote } } }

theorem answeredCall_negotiated {prepared : MediaCall} {mediaList : List MediaAttribute}
    {offered : Sdp} (remote : SdpSession)
    (created : createOffer 16 (fun _ => true) prepared.call.sdp mediaList = .ok (some offered))
    (sessions : prepared.sessions.length = prepared.call.rtpStreams.length) :
    Negotiated prepared mediaList (answeredCall prepared offered remote) := by
  have forward := PutsForward.offer 16 (fun _ => true) created
  obtain ⟨session, localSession, _⟩ := forward.published
  refine ⟨⟨_, offered, session, fun _ => rfl, forward, localSession, ?_⟩, rfl, sessions⟩
  intro active isActive line member _
  cases isActive.symm.trans localSession
  exact ⟨line, member, rfl, rfl⟩

def bothAttributes : List MediaAttribute :=
  [audioAttribute "audio_0", { audioAttribute "video_0" with type := .video }]

def bothAnswered : SdpSession :=
  ⟨[SIPCall.pcmuLine 7000,
    ⟨"video", 7002, "RTP/AVP", [96], [.rtpmap 96 (some ⟨"VP8", 90000, none⟩)], none⟩],
    some "192.0.2.1"⟩

/-- An audio and a video stream have the ports that their sessions hold. -/
theorem audio_and_video_held :
    ∃ prepared after offered outcome final,
      (plainCall bothAttributes).prepareLocalMediaReservations plainPorts bothAttributes
        quietSockets = (true, prepared, after) ∧
      createOffer 16 (fun _ => true) prepared.call.sdp bothAttributes = .ok (some offered) ∧
      (answeredCall prepared offered bothAnswered).setupNegotiatedMedia SIPCall.plainPlatform =
        .ok (outcome, final) ∧
      (answeredCall prepared offered bothAnswered).call.sdp.getMediaSlots.map
        (fun slot => (slot.1.enabled, slot.1.type)) = [(true, .audio), (true, .video)] ∧
      PortsHeld (answeredCall prepared offered bothAnswered) outcome final := by
  have negotiated : Negotiated (preparedCall bothAttributes) bothAttributes _ :=
    answeredCall_negotiated bothAnswered rfl rfl
  obtain ⟨outcome, final, result, iff⟩ := negotiated_ports_held_iff plainPorts SIPCall.plainPlatform
    quietSockets _ (plainCall bothAttributes) _ _ bothAttributes rfl negotiated
  refine ⟨_, _, _, outcome, final, rfl, rfl, result, by decide +kernel, iff.mpr ?_⟩
  exact oneOfEachType_of_nodup _ (by decide +kernel)

/-- Two audio streams are published with one port. -/
theorem two_audio_streams_share_port :
    ∃ prepared after offered outcome final,
      (plainCall [audioAttribute "audio_0", audioAttribute "audio_1"]).prepareLocalMediaReservations
        plainPorts [audioAttribute "audio_0", audioAttribute "audio_1"] quietSockets =
          (true, prepared, after) ∧
      createOffer 16 (fun _ => true) prepared.call.sdp
        [audioAttribute "audio_0", audioAttribute "audio_1"] = .ok (some offered) ∧
      Negotiated prepared [audioAttribute "audio_0", audioAttribute "audio_1"]
        (answeredCall prepared offered (SIPCall.audioSession [7000, 7002])) ∧
      (answeredCall prepared offered (SIPCall.audioSession [7000, 7002])).setupNegotiatedMedia
        SIPCall.plainPlatform = .ok (outcome, final) ∧
      ¬ PortsHeld (answeredCall prepared offered (SIPCall.audioSession [7000, 7002])) outcome
        final := by
  refine ⟨preparedCall [audioAttribute "audio_0", audioAttribute "audio_1"], _, _, _, _, rfl, rfl,
    answeredCall_negotiated _ rfl rfl, rfl, ?_⟩
  intro held
  refine held.1 0 1 _ _ (by decide) ⟨rfl, by decide, by decide⟩ ⟨rfl, by decide, by decide⟩ ?_
  decide

end MediaCall

end SipCore
