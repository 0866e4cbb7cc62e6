/-
Reading a negotiated session back. Each audio or video line gives one description,
with the first of its formats that a local codec is found for. The RTCP address, the
filtered session text and the verdict on the crypto lines are derived from what is kept
here.
-/

import SipCore.Sdp.Answer

namespace SipCore

variable (sdp : Sdp)

variable (line : SdpMedia) (session : SdpSession)

/-- One negotiated stream; `crypto` holds the lines the key negotiation reads. -/
structure MediaDescription where
  type : MediaType := .none
  enabled : Bool := false
  onHold : Bool := false
  direction : MediaDirection := .unknown
  addr : Option (String × Nat) := none
  codec : Option AccountCodecInfo := none
  payloadType : Nat := 0
  rtpClockrate : Nat := 8000
  parameters : String := ""
  crypto : List String := []
  annexB : Bool := true
  deriving DecidableEq, Repr

namespace Sdp

def findCodecBySpec (sdp : Sdp) (codec : String) (clockrate : Nat) : Option AccountCodecInfo :=
  match sdp.audioCodecList.find? (fun accountCodec =>
      accountCodec.systemCodecInfo.name = codec &&
        (if accountCodec.isPCMG722 then clockrate = 8000
          else accountCodec.systemCodecInfo.audioformat.sampleRate = clockrate)) with
  | some accountCodec => some accountCodec
  | none => sdp.videoCodecList.find? (fun accountCodec => accountCodec.systemCodecInfo.name = codec)

def guessedName (format : Nat) : Option String :=
  if format = 8 then some "PCMA"
  else if format = 0 then some "PCMU"
  else if format = 18 then some "G729"
  else none

/-- Only G.729 reads its format parameters here. -/
def annexBOf (line : SdpMedia) (format : Nat) : Bool :=
  !(format = 18 && line.findFmtp format = some "annexb=no")

def pickFormat (sdp : Sdp) (line : SdpMedia) (format : Nat) (descr : MediaDescription) :
    MediaDescription × Bool :=
  match line.findRtpmap format with
  | none =>
    match guessedName format with
    | none => ({ descr with enabled := false }, false)
    | some name =>
      match sdp.findCodecBySpec name 8000 with
      | none => ({ descr with enabled := false, codec := none }, false)
      | some codec =>
        ({ descr with
            enabled := true
            codec := some codec
            payloadType := format
            rtpClockrate := 8000
            annexB := descr.annexB && annexBOf line format }, true)
  | some none => ({ descr with enabled := false }, false)
  | some (some rtpmap) =>
    if rtpmap.encName = "" then ({ descr with enabled := false }, false)
    else
      match sdp.findCodecBySpec rtpmap.encName rtpmap.clockRate with
      | none =>
        ({ descr with enabled := false, codec := none, rtpClockrate := rtpmap.clockRate }, false)
      | some codec =>
        ({ descr with
            enabled := true
            codec := some codec
            payloadType := format
            rtpClockrate := rtpmap.clockRate
            parameters :=
              match descr.type, line.findFmtp format with
              | .video, some fmtParam => toString format ++ " " ++ fmtParam
              | _, _ => descr.parameters }, true)

def pickCodec (sdp : Sdp) (line : SdpMedia) : List Nat → MediaDescription → MediaDescription
  | [], descr => descr
  | format :: later, descr =>
    match sdp.pickFormat line format descr with
    | (next, true) => next
    | (next, false) => sdp.pickCodec line later next

def describeLine (sdp : Sdp) (session : SdpSession) (line : SdpMedia) : MediaDescription :=
  let descr : MediaDescription :=
    { type := line.getSupportedMediaType
      enabled := line.port ≠ 0 }
  if line.port = 0 then descr
  else
    match line.conn.or session.conn with
    | none => descr
    | some addr =>
      let placed :=
        { descr with
          addr := some (addr, line.port)
          onHold := line.hasFlag MediaDirection.recvonly.text ||
            line.hasFlag MediaDirection.inactive.text
          direction := line.getMediaDirection }
      { sdp.pickCodec line line.fmts placed with crypto := line.getCrypto }

def getMediaDescriptions (sdp : Sdp) (session : Option SdpSession) : List MediaDescription :=
  match session with
  | none => []
  | some session =>
    (session.media.filter (fun line => line.getSupportedMediaType ≠ .none)).map
      (sdp.describeLine session)

def getMediaSlots (sdp : Sdp) : List (MediaDescription × MediaDescription) :=
  (sdp.getMediaDescriptions sdp.activeLocalSession).zip
    (sdp.getMediaDescriptions sdp.activeRemoteSession)

def formatCodec (sdp : Sdp) (line : SdpMedia) (format : Nat) : Option AccountCodecInfo :=
  match line.findRtpmap format with
  | none => (guessedName format).bind (fun name => sdp.findCodecBySpec name 8000)
  | some none => none
  | some (some rtpmap) =>
    if rtpmap.encName = "" then none
    else sdp.findCodecBySpec rtpmap.encName rtpmap.clockRate

def sendChoice (sdp : Sdp) (line : SdpMedia) (formats : List Nat) :
    Option (Nat × AccountCodecInfo) :=
  formats.findSome? (fun format => (sdp.formatCodec line format).map (fun codec => (format, codec)))

private theorem sendChoice_cons (format : Nat) (later : List Nat) :
    sdp.sendChoice line (format :: later) =
      match sdp.formatCodec line format with
      | some codec => some (format, codec)
      | none => sdp.sendChoice line later := by
  unfold sendChoice
  rw [List.findSome?_cons]
  cases sdp.formatCodec line format <;> rfl

theorem pickFormat_spec (format : Nat) (descr : MediaDescription) (unset : descr.codec = none) :
    match sdp.formatCodec line format with
    | some codec => ∃ next : MediaDescription, sdp.pickFormat line format descr = (next, true) ∧
        next.enabled = true ∧ next.codec = some codec ∧ next.payloadType = format
    | none => ∃ next : MediaDescription, sdp.pickFormat line format descr = (next, false) ∧
        next.codec = none := by
  unfold formatCodec pickFormat
  cases line.findRtpmap format with
  | none =>
    cases guessedName format with
    | none => exact ⟨_, rfl, unset⟩
    | some name =>
      simp only [Option.bind_some]
      cases sdp.findCodecBySpec name 8000 with
      | none => exact ⟨_, rfl, rfl⟩
      | some codec => exact ⟨_, rfl, rfl, rfl, rfl⟩
  | some body =>
    cases body with
    | none => exact ⟨_, rfl, unset⟩
    | some rtpmap =>
      by_cases unnamed : rtpmap.encName = ""
      · simp only [if_pos unnamed]
        exact ⟨_, rfl, unset⟩
      · simp only [if_neg unnamed]
        cases sdp.findCodecBySpec rtpmap.encName rtpmap.clockRate with
        | none => exact ⟨_, rfl, rfl⟩
        | some codec => exact ⟨_, rfl, rfl, rfl, rfl⟩

theorem pickCodec_spec (formats : List Nat) (descr : MediaDescription) (unset : descr.codec = none) :
    match sdp.sendChoice line formats with
    | some (format, codec) =>
      (sdp.pickCodec line formats descr).enabled = true ∧
        (sdp.pickCodec line formats descr).codec = some codec ∧
        (sdp.pickCodec line formats descr).payloadType = format
    | none => (sdp.pickCodec line formats descr).codec = none := by
  induction formats generalizing descr with
  | nil => exact unset
  | cons format later ih =>
    have round := pickFormat_spec sdp line format descr unset
    rw [sendChoice_cons]
    unfold pickCodec
    cases found : sdp.formatCodec line format with
    | some codec =>
      rw [found] at round
      obtain ⟨next, last, picked⟩ := round
      simp only [last]
      exact picked
    | none =>
      rw [found] at round
      obtain ⟨next, more, nextUnset⟩ := round
      simp only [more]
      exact ih next nextUnset

theorem describeLine_codec_iff (line : SdpMedia) (used : line.port ≠ 0) (format : Nat)
    (codec : AccountCodecInfo) :
    ((sdp.describeLine session line).enabled = true ∧
        (sdp.describeLine session line).codec = some codec ∧
        (sdp.describeLine session line).payloadType = format) ↔
      (line.conn.or session.conn).isSome = true ∧
        sdp.sendChoice line line.fmts = some (format, codec) := by
  unfold describeLine
  simp only [if_neg used]
  cases line.conn.or session.conn with
  | none => simp
  | some addr =>
    simp only [Option.isSome_some, true_and]
    have spec := pickCodec_spec sdp line line.fmts
      { type := line.getSupportedMediaType
        enabled := line.port ≠ 0
        addr := some (addr, line.port)
        onHold := line.hasFlag MediaDirection.recvonly.text ||
          line.hasFlag MediaDirection.inactive.text
        direction := line.getMediaDirection } rfl
    cases chosen : sdp.sendChoice line line.fmts with
    | none =>
      rw [chosen] at spec
      simp only [reduceCtorEq, iff_false]
      rintro ⟨_, found, _⟩
      rw [spec] at found
      cases found
    | some choice =>
      rw [chosen] at spec
      obtain ⟨enabled, found, payload⟩ := spec
      constructor
      · rintro ⟨_, sameCodec, samePayload⟩
        rw [found] at sameCodec
        rw [payload] at samePayload
        cases sameCodec
        rw [← samePayload]
      · intro same
        cases same
        exact ⟨enabled, found, payload⟩

private theorem pickFormat_frame (format : Nat) (descr : MediaDescription) :
    (sdp.pickFormat line format descr).1.type = descr.type ∧
      (sdp.pickFormat line format descr).1.addr = descr.addr := by
  unfold pickFormat
  cases line.findRtpmap format with
  | none =>
    cases guessedName format with
    | none => exact ⟨rfl, rfl⟩
    | some name =>
      simp only
      cases sdp.findCodecBySpec name 8000 <;> exact ⟨rfl, rfl⟩
  | some body =>
    cases body with
    | none => exact ⟨rfl, rfl⟩
    | some rtpmap =>
      simp only
      split
      · exact ⟨rfl, rfl⟩
      · cases sdp.findCodecBySpec rtpmap.encName rtpmap.clockRate <;> exact ⟨rfl, rfl⟩

theorem pickCodec_frame (formats : List Nat) (descr : MediaDescription) :
    (sdp.pickCodec line formats descr).type = descr.type ∧
      (sdp.pickCodec line formats descr).addr = descr.addr := by
  induction formats generalizing descr with
  | nil => exact ⟨rfl, rfl⟩
  | cons format later ih =>
    obtain ⟨type, addr⟩ := pickFormat_frame sdp line format descr
    unfold pickCodec
    cases round : sdp.pickFormat line format descr with
    | mk next last =>
      rw [round] at type addr
      cases last with
      | true => exact ⟨type, addr⟩
      | false => exact ⟨(ih next).1.trans type, (ih next).2.trans addr⟩

theorem describeLine_type (line : SdpMedia) :
    (sdp.describeLine session line).type = line.getSupportedMediaType := by
  unfold describeLine
  split
  · rfl
  · cases line.conn.or session.conn with
    | none => rfl
    | some addr => exact (pickCodec_frame sdp line line.fmts _).1

end Sdp

def MediaDescription.isOffered (descr : MediaDescription) : Bool :=
  descr.enabled || descr.addr.isSome

theorem Sdp.describeLine_isOffered (line : SdpMedia) :
    (sdp.describeLine session line).isOffered = decide (line.port ≠ 0) := by
  unfold Sdp.describeLine MediaDescription.isOffered
  split
  · rename_i closed
    simp [closed]
  · rename_i used
    cases line.conn.or session.conn with
    | none => simp [used]
    | some addr =>
      rw [(Sdp.pickCodec_frame sdp line line.fmts _).2]
      simp [used]

end SipCore
