/-
What payload types mean, and whether an answer keeps the meanings of the offer.
A meaning is the name without letter case, the clock rate and the channel count;
an offered format has the meaning of its `rtpmap`, or the registered one when it
carries none.
-/

import Mathlib.Data.List.Nodup
import SipCore.Library.GuardedRun
import SipCore.Sdp.Answer

namespace SipCore

open Run

structure Meaning where
  name : List Char
  clockRate : Nat
  channels : Nat
  deriving DecidableEq, Repr

def RtpMap.meaning (map : RtpMap) : Meaning := ⟨lowered map.encName, map.clockRate, map.channels⟩

variable {body : Option RtpMap} {pt : Nat} {info : SystemCodecInfo} {rc : ResolvedCodec} {sdp : Sdp}

/-- The static assignments of RFC 3551, tables 4 and 5. -/
def staticMeaning (pt : Nat) : Option Meaning :=
  let registered (name : String) (clockRate channels : Nat) : Option Meaning :=
    some ⟨lowered name, clockRate, channels⟩
  match pt with
  | 0 => registered "PCMU" 8000 1
  | 3 => registered "GSM" 8000 1
  | 4 => registered "G723" 8000 1
  | 5 => registered "DVI4" 8000 1
  | 6 => registered "DVI4" 16000 1
  | 7 => registered "LPC" 8000 1
  | 8 => registered "PCMA" 8000 1
  | 9 => registered "G722" 8000 1
  | 10 => registered "L16" 44100 2
  | 11 => registered "L16" 44100 1
  | 12 => registered "QCELP" 8000 1
  | 13 => registered "CN" 8000 1
  | 14 => registered "MPA" 90000 1
  | 15 => registered "G728" 8000 1
  | 16 => registered "DVI4" 11025 1
  | 17 => registered "DVI4" 22050 1
  | 18 => registered "G729" 8000 1
  | 25 => registered "CelB" 90000 1
  | 26 => registered "JPEG" 90000 1
  | 28 => registered "nv" 90000 1
  | 31 => registered "H261" 90000 1
  | 32 => registered "MPV" 90000 1
  | 33 => registered "MP2T" 90000 1
  | 34 => registered "H263" 90000 1
  | _ => none

namespace SdpMedia

def meaning (line : SdpMedia) (pt : Nat) : Option Meaning :=
  match line.findRtpmap pt with
  | some body => body.map RtpMap.meaning
  | none => staticMeaning pt

structure Faithful (offered answer : SdpMedia) : Prop where
  offeredFormats : ∀ pt ∈ answer.fmts, pt ∈ offered.fmts
  distinct : answer.fmts.Nodup
  sameMeaning : ∀ pt map, SdpAttr.rtpmap pt (some map) ∈ answer.attrs →
    offered.meaning pt = some map.meaning

/-- An offer that describes the formats it lists, each in one way, static ones as
registered, and names system codecs only with their own clock rate and channels. -/
structure WellFormed (line : SdpMedia) : Prop where
  listed : ∀ pt body, SdpAttr.rtpmap pt body ∈ line.attrs → pt ∈ line.fmts
  single : ∀ pt first second, SdpAttr.rtpmap pt first ∈ line.attrs →
    SdpAttr.rtpmap pt second ∈ line.attrs → first = second
  registered : ∀ pt body meaning, SdpAttr.rtpmap pt body ∈ line.attrs →
    staticMeaning pt = some meaning → body.map RtpMap.meaning = some meaning
  named : ∀ pt map info, SdpAttr.rtpmap pt (some map) ∈ line.attrs → 96 ≤ pt →
    SystemCodecContainer.searchCodecByName map.encName .audio = some info →
    map.meaning = ⟨lowered info.name, info.audioformat.sampleRate,
      if info.id = .opus then 2 else info.audioformat.nbChannels⟩

theorem findRtpmap_eq_some {line : SdpMedia} (found : line.findRtpmap pt = some body) :
    SdpAttr.rtpmap pt body ∈ line.attrs := by
  obtain ⟨attr, member, here⟩ := List.exists_of_findSome?_eq_some found
  cases attr with
  | rtpmap other stored =>
    simp only [Option.ite_none_right_eq_some, Option.some.injEq] at here
    obtain ⟨rfl, rfl⟩ := here
    exact member
  | fmtp | crypto | rtcp | flag => cases here

theorem findRtpmap_ne_none {line : SdpMedia} (member : SdpAttr.rtpmap pt body ∈ line.attrs) :
    line.findRtpmap pt ≠ none := by
  intro missing
  have here := List.findSome?_eq_none_iff.mp missing _ member
  simp at here

namespace WellFormed

variable {line : SdpMedia}

theorem meaning_of_mem (wellFormed : line.WellFormed) (member : SdpAttr.rtpmap pt body ∈ line.attrs) :
    line.meaning pt = body.map RtpMap.meaning := by
  unfold meaning
  cases found : line.findRtpmap pt with
  | none => exact absurd found (findRtpmap_ne_none member)
  | some stored =>
    have same := wellFormed.single pt stored body (findRtpmap_eq_some found) member
    subst same
    rfl

theorem meaning_of_static (wellFormed : line.WellFormed) {meaning : Meaning}
    (static : staticMeaning pt = some meaning) : line.meaning pt = some meaning := by
  unfold SdpMedia.meaning
  cases found : line.findRtpmap pt with
  | none => exact static
  | some stored => exact wellFormed.registered pt stored meaning (findRtpmap_eq_some found) static

end WellFormed

end SdpMedia

variable {map : RtpMap}

namespace Sdp

def ResolvedCodec.meaning (rc : ResolvedCodec) : Meaning :=
  ⟨lowered rc.encName, rc.clockRate, if rc.channels = 0 then 1 else rc.channels⟩

theorem describes_iff (map : RtpMap) (encName : String) (clockRate channels : Nat) :
    map.describes encName clockRate channels = true ↔
      map.meaning = ⟨lowered encName, clockRate, if channels = 0 then 1 else channels⟩ := by
  simp only [RtpMap.describes, stricmp, RtpMap.meaning, Bool.and_eq_true, decide_eq_true_eq,
    beq_iff_eq, Meaning.mk.injEq, and_assoc]

theorem findRemotePayloadType_eq_some {line : SdpMedia} {encName : String}
    {clockRate channels : Nat}
    (found : findRemotePayloadType line encName clockRate channels = some pt) :
    ∃ map : RtpMap, SdpAttr.rtpmap pt (some map) ∈ line.attrs ∧
      map.meaning = ⟨lowered encName, clockRate, if channels = 0 then 1 else channels⟩ := by
  obtain ⟨attr, member, here⟩ := List.exists_of_findSome?_eq_some found
  cases attr with
  | rtpmap other stored =>
    cases stored with
    | none => cases here
    | some map =>
      simp only [Option.ite_none_right_eq_some, Option.some.injEq] at here
      obtain ⟨described, rfl⟩ := here
      exact ⟨map, member, (describes_iff map encName clockRate channels).mp described⟩
  | fmtp | crypto | rtcp | flag => cases here

private theorem findRemotePayloadType_ne_none {line : SdpMedia} {encName : String}
    {clockRate channels : Nat} (member : SdpAttr.rtpmap pt (some map) ∈ line.attrs)
    (same : map.meaning = ⟨lowered encName, clockRate, if channels = 0 then 1 else channels⟩) :
    findRemotePayloadType line encName clockRate channels ≠ none := by
  intro missing
  have here := List.findSome?_eq_none_iff.mp missing _ member
  simp only [(describes_iff map encName clockRate channels).mpr same, if_true] at here
  cases here

def advertised (codec : AccountCodecInfo) : Meaning :=
  (resolveAudio codec codec.payloadType).meaning

def advertisedVideo (codec : AccountCodecInfo) : Meaning :=
  ⟨lowered codec.systemCodecInfo.name, 90000, 1⟩

def telephoneEvent : Meaning := ⟨lowered "telephone-event", 8000, 1⟩

/-- A local list whose codecs can be told apart by what they mean. A codec has a
static payload type exactly if it is the codec registered there. -/
structure Consistent (sdp : Sdp) : Prop where
  audioDistinct : (sdp.audioCodecList.map advertised).Nodup
  videoDistinct : (sdp.videoCodecList.map advertisedVideo).Nodup
  registered : ∀ codec ∈ sdp.audioCodecList, ∀ pt < 96,
    codec.payloadType = pt ↔ staticMeaning pt = some (advertised codec)
  notEvent : ∀ codec ∈ sdp.audioCodecList, advertised codec ≠ telephoneEvent

/-- Where an adopted codec comes from: a listed static payload type, or an
`rtpmap` that names it. -/
inductive AdoptedFrom (line : SdpMedia) : ResolvedCodec → Prop where
  | static (pt : Nat) (info : SystemCodecInfo) (small : pt < 96) (listed : pt ∈ line.fmts)
      (found : SystemCodecContainer.searchCodecByPayload pt .audio = some info) :
      AdoptedFrom line (resolveAudio (AccountCodecInfo.ofSystem info) pt)
  | dynamic (pt : Nat) (map : RtpMap) (info : SystemCodecInfo) (large : 96 ≤ pt)
      (member : SdpAttr.rtpmap pt (some map) ∈ line.attrs)
      (found : SystemCodecContainer.searchCodecByName map.encName .audio = some info) :
      AdoptedFrom line (resolveAudio (AccountCodecInfo.ofSystem info) pt)

def codecId (rc : ResolvedCodec) : AvCodecId := rc.codec.systemCodecInfo.id

/-- The state of the adoption loops: every entry has an origin, no codec twice. -/
structure Adopting (line : SdpMedia) (resolved : List ResolvedCodec) : Prop where
  origin : ∀ rc ∈ resolved, AdoptedFrom line rc
  distinct : (resolved.map codecId).Nodup

section

variable {line : SdpMedia} {resolved : List ResolvedCodec} (adopting : Adopting line resolved)
include adopting

theorem Adopting.adopt (sysInfo : Option SystemCodecInfo) (pt : Nat)
    (origin : ∀ info, sysInfo = some info →
      AdoptedFrom line (resolveAudio (AccountCodecInfo.ofSystem info) pt)) :
    Adopting line (adoptSystemCodec resolved sysInfo pt) := by
  unfold adoptSystemCodec
  cases sysInfo with
  | none => exact adopting
  | some info =>
    simp only
    split
    · exact adopting
    · split
      · exact adopting
      · rename_i unseen
        constructor
        · intro rc member
          rcases List.mem_append.mp member with earlier | newest
          · exact adopting.origin rc earlier
          · rw [List.mem_singleton.mp newest]
            exact origin info rfl
        · rw [List.map_append, List.nodup_append]
          refine ⟨adopting.distinct, List.nodup_singleton _, ?_⟩
          intro left leftMember right rightMember same
          obtain ⟨rc, member, rfl⟩ := List.mem_map.mp leftMember
          have rightId : right = info.id := List.mem_singleton.mp rightMember
          apply unseen
          rw [List.any_eq_true]
          exact ⟨rc, member, decide_eq_true (same.trans rightId)⟩

theorem Adopting.static (listed : pt ∈ line.fmts) : Adopting line (adoptStatic resolved pt) := by
  unfold adoptStatic
  split
  · exact adopting
  · apply adopting.adopt
    intro info found
    exact .static pt info (by omega) listed found

theorem Adopting.dynamic {attr : SdpAttr} (member : attr ∈ line.attrs) :
    Adopting line (adoptDynamic resolved attr) := by
  cases attr with
  | rtpmap pt body =>
    cases body with
    | none => exact adopting
    | some map =>
      simp only [adoptDynamic]
      split
      · exact adopting
      · split
        · exact adopting
        · apply adopting.adopt
          intro info found
          exact .dynamic pt map info (by omega) member found
  | fmtp | crypto | rtcp | flag => exact adopting

end

theorem adopting_adoptCodecs (line : SdpMedia) : Adopting line (adoptCodecs line) := by
  apply List.foldlRecOn
  · apply List.foldlRecOn
    · constructor
      · intro rc member
        cases member
      · exact List.nodup_nil
    · intro resolved adopting pt member
      exact adopting.static member
  · intro resolved adopting attr member
    exact adopting.dynamic member

def systemAudio (info : SystemCodecInfo) : Prop :=
  info ∈ [SystemCodecInfo.opus, SystemCodecInfo.pcma, SystemCodecInfo.pcmu, SystemCodecInfo.g729]

theorem systemAudio_of_meets (member : info ∈ SystemCodecContainer.availableCodecList)
    (audio : info.mediaType.meets .audio = true) : systemAudio info := by
  revert info
  unfold systemAudio
  decide

theorem searchCodecByName_eq_some {name : String}
    (found : SystemCodecContainer.searchCodecByName name .audio = some info) :
    systemAudio info ∧ info.name = name := by
  have accepted := List.find?_some found
  simp only [Bool.and_eq_true, decide_eq_true_eq] at accepted
  exact ⟨systemAudio_of_meets (List.mem_of_find?_eq_some found) accepted.2, accepted.1⟩

theorem searchCodecByPayload_eq_some
    (found : SystemCodecContainer.searchCodecByPayload pt .audio = some info) :
    systemAudio info ∧ info.payloadType = pt := by
  have accepted := List.find?_some found
  simp only [Bool.and_eq_true, decide_eq_true_eq] at accepted
  exact ⟨systemAudio_of_meets (List.mem_of_find?_eq_some found) accepted.2, accepted.1⟩

private theorem systemAudio_advertised (system : systemAudio info) :
    advertised (AccountCodecInfo.ofSystem info) =
      ⟨lowered info.name, info.audioformat.sampleRate,
        if info.id = .opus then 2 else info.audioformat.nbChannels⟩ := by
  revert info
  unfold systemAudio
  decide

private theorem systemAudio_injective {left right : SystemCodecInfo} (leftSystem : systemAudio left)
    (rightSystem : systemAudio right)
    (same : advertised (AccountCodecInfo.ofSystem left) =
      advertised (AccountCodecInfo.ofSystem right)) : left.id = right.id := by
  have pairwise : ∀ left, systemAudio left → ∀ right, systemAudio right →
      advertised (AccountCodecInfo.ofSystem left) =
        advertised (AccountCodecInfo.ofSystem right) → left.id = right.id := by
    unfold systemAudio
    decide
  exact pairwise left leftSystem right rightSystem same

theorem systemAudio_registered (system : systemAudio info) :
    ∀ pt < 96, (AccountCodecInfo.ofSystem info).payloadType = pt ↔
      staticMeaning pt = some (advertised (AccountCodecInfo.ofSystem info)) := by
  revert info
  unfold systemAudio
  decide

theorem systemAudio_notEvent (system : systemAudio info) :
    advertised (AccountCodecInfo.ofSystem info) ≠ telephoneEvent := by
  revert info
  unfold systemAudio
  decide

/-- Codecs that are listed in the offer under the payload type they are answered
with, mean there what they are, and can be told apart. -/
structure Agreed (line : SdpMedia) (resolved : List ResolvedCodec) : Prop where
  listed : ∀ rc ∈ resolved, rc.payload ∈ line.fmts
  meaning : ∀ rc ∈ resolved, line.meaning rc.payload = some rc.meaning
  distinct : (resolved.map ResolvedCodec.meaning).Nodup

theorem Agreed.payloads_nodup {line : SdpMedia} {resolved : List ResolvedCodec}
    (agreed : Agreed line resolved) : (resolved.map ResolvedCodec.payload).Nodup := by
  apply List.Nodup.of_map line.meaning
  have same : (resolved.map ResolvedCodec.payload).map line.meaning =
      (resolved.map ResolvedCodec.meaning).map some := by
    rw [List.map_map, List.map_map]
    apply List.map_congr_left
    intro rc member
    exact agreed.meaning rc member
  rw [same]
  exact agreed.distinct.map (fun _ _ equal => Option.some.inj equal)

private theorem matchedPayload_sound {line : SdpMedia} (wellFormed : line.WellFormed)
    (registered : rc.payload < 96 → staticMeaning rc.payload = some rc.meaning)
    (found : matchedPayload line rc = some pt) :
    pt ∈ line.fmts ∧ line.meaning pt = some rc.meaning := by
  unfold matchedPayload at found
  cases located : findRemotePayloadType line rc.encName rc.clockRate rc.channels with
  | some matched =>
    rw [located] at found
    cases found
    obtain ⟨map, member, same⟩ := findRemotePayloadType_eq_some located
    constructor
    · exact wellFormed.listed pt (some map) member
    · rw [wellFormed.meaning_of_mem member, Option.map_some, same]
      rfl
  | none =>
    rw [located] at found
    simp only [Option.ite_none_right_eq_some, Bool.and_eq_true, decide_eq_true_eq,
      Option.some.injEq] at found
    obtain ⟨⟨small, listed⟩, rfl⟩ := found
    constructor
    · exact List.contains_iff_mem.mp listed
    · exact wellFormed.meaning_of_static (registered small)

private theorem matchedPayload_eq_none {line : SdpMedia} (missing : matchedPayload line rc = none) :
    findRemotePayloadType line rc.encName rc.clockRate rc.channels = none ∧
      ¬ (rc.payload < 96 ∧ rc.payload ∈ line.fmts) := by
  unfold matchedPayload at missing
  cases located : findRemotePayloadType line rc.encName rc.clockRate rc.channels with
  | some pt =>
    rw [located] at missing
    cases missing
  | none =>
    rw [located] at missing
    refine ⟨rfl, ?_⟩
    rintro ⟨small, listed⟩
    simp [offerHasFormat, small, listed] at missing

private theorem agreed_matchRemote {line : SdpMedia} (wellFormed : line.WellFormed)
    {codecs : List ResolvedCodec}
    (registered : ∀ rc ∈ codecs, rc.payload < 96 → staticMeaning rc.payload = some rc.meaning)
    (distinct : (codecs.map ResolvedCodec.meaning).Nodup) :
    Agreed line (matchRemote line codecs) := by
  have origin : ∀ rc ∈ matchRemote line codecs, ∃ original ∈ codecs, ∃ pt,
      matchedPayload line original = some pt ∧ { original with payload := pt } = rc := by
    intro rc member
    obtain ⟨original, originalMember, found⟩ := List.mem_filterMap.mp member
    obtain ⟨pt, matched, same⟩ := Option.map_eq_some_iff.mp found
    exact ⟨original, originalMember, pt, matched, same⟩
  constructor
  · intro rc member
    obtain ⟨original, originalMember, pt, matched, rfl⟩ := origin rc member
    exact (matchedPayload_sound wellFormed (registered original originalMember) matched).1
  · intro rc member
    obtain ⟨original, originalMember, pt, matched, rfl⟩ := origin rc member
    exact (matchedPayload_sound wellFormed (registered original originalMember) matched).2
  · -- Matching changes payload types only, so the meanings are a sublist of the local ones.
    refine .sublist ?_ distinct
    clear registered distinct origin
    induction codecs with
    | nil => exact .refl _
    | cons head rest ih =>
      unfold matchRemote at ih ⊢
      cases matched : matchedPayload line head with
      | none =>
        rw [List.filterMap_cons_none (by rw [matched]; rfl)]
        exact ih.cons _
      | some pt =>
        rw [List.filterMap_cons_some (by rw [matched]; rfl)]
        exact ih.cons_cons _

private theorem agreed_agreedCodecs (consistent : sdp.Consistent) {line : SdpMedia}
    (wellFormed : line.WellFormed) (type : MediaType) :
    Agreed line (sdp.agreedCodecs type line) := by
  unfold agreedCodecs localCodecs codecList
  split
  · apply agreed_matchRemote wellFormed
    · intro rc member small
      obtain ⟨codec, codecMember, rfl⟩ := List.mem_map.mp member
      exact (consistent.registered codec codecMember _ small).mp rfl
    · rw [List.map_map]
      exact consistent.audioDistinct
  · apply agreed_matchRemote wellFormed
    · intro rc member small
      obtain ⟨entry, _, rfl⟩ := List.mem_map.mp member
      change 96 + entry.2 < 96 at small
      omega
    · rw [List.map_map]
      have meanings : sdp.videoCodecList.zipIdx.map
          (ResolvedCodec.meaning ∘ fun entry => resolveVideo entry.1 (96 + entry.2)) =
          sdp.videoCodecList.map advertisedVideo := by
        rw [← List.zipIdx_map_fst 0 sdp.videoCodecList, List.map_map, List.zipIdx_map_fst]
        rfl
      rw [meanings]
      exact consistent.videoDistinct

theorem AdoptedFrom.system {line : SdpMedia} (origin : AdoptedFrom line rc) :
    ∃ info, systemAudio info ∧ rc.codec = AccountCodecInfo.ofSystem info ∧
      rc.meaning = advertised (AccountCodecInfo.ofSystem info) := by
  cases origin with
  | static pt info small listed found =>
    exact ⟨info, (searchCodecByPayload_eq_some found).1, rfl, rfl⟩
  | dynamic pt map info large member found =>
    exact ⟨info, (searchCodecByName_eq_some found).1, rfl, rfl⟩

theorem named_meaning {line : SdpMedia} (wellFormed : line.WellFormed) (large : 96 ≤ pt)
    (member : SdpAttr.rtpmap pt (some map) ∈ line.attrs)
    (found : SystemCodecContainer.searchCodecByName map.encName .audio = some info) :
    map.meaning = advertised (AccountCodecInfo.ofSystem info) := by
  rw [systemAudio_advertised (searchCodecByName_eq_some found).1]
  exact wellFormed.named pt map info member large found

theorem static_meaning (small : pt < 96)
    (found : SystemCodecContainer.searchCodecByPayload pt .audio = some info) :
    staticMeaning pt = some (advertised (AccountCodecInfo.ofSystem info)) := by
  obtain ⟨system, payload⟩ := searchCodecByPayload_eq_some found
  exact (systemAudio_registered system pt small).mp payload

theorem agreed_adoptCodecs {line : SdpMedia} (wellFormed : line.WellFormed) :
    Agreed line (adoptCodecs line) := by
  have adopting := adopting_adoptCodecs line
  constructor
  · intro rc adopted
    cases adopting.origin rc adopted with
    | static pt info small listed found => exact listed
    | dynamic pt map info large member found => exact wellFormed.listed pt (some map) member
  · intro rc adopted
    cases adopting.origin rc adopted with
    | static pt info small listed found =>
      exact wellFormed.meaning_of_static (static_meaning small found)
    | dynamic pt map info large member found =>
      change line.meaning pt = _
      rw [wellFormed.meaning_of_mem member, Option.map_some,
        named_meaning wellFormed large member found]
      rfl
  · apply List.Nodup.map_on _ adopting.distinct.of_map
    intro left leftMember right rightMember same
    obtain ⟨leftInfo, leftSystem, leftCodec, leftMeaning⟩ :=
      (adopting.origin left leftMember).system
    obtain ⟨rightInfo, rightSystem, rightCodec, rightMeaning⟩ :=
      (adopting.origin right rightMember).system
    have sameId : leftInfo.id = rightInfo.id := by
      apply systemAudio_injective leftSystem rightSystem
      rw [← leftMeaning, ← rightMeaning, same]
    apply List.inj_on_of_nodup_map adopting.distinct leftMember rightMember
    unfold codecId
    rw [leftCodec, rightCodec]
    exact sameId

/-- What is adopted was not known: a local codec of the same meaning would have
matched the offer, and nothing is adopted then. -/
theorem adopted_unknown (consistent : sdp.Consistent) {line : SdpMedia}
    (wellFormed : line.WellFormed) (unmatched : sdp.agreedCodecs .audio line = [])
    {codec : AccountCodecInfo} (known : codec ∈ sdp.audioCodecList)
    (adopted : rc ∈ adoptCodecs line) : advertised codec ≠ rc.meaning := by
  intro same
  have missing : matchedPayload line (resolveAudio codec codec.payloadType) = none := by
    have member : resolveAudio codec codec.payloadType ∈ localCodecs .audio sdp.audioCodecList :=
      List.mem_map.mpr ⟨codec, known, rfl⟩
    have dropped := List.filterMap_eq_nil_iff.mp unmatched _ member
    exact Option.map_eq_none_iff.mp dropped
  obtain ⟨unnamed, unlisted⟩ := matchedPayload_eq_none missing
  cases (adopting_adoptCodecs line).origin rc adopted with
  | dynamic pt map info large member found =>
    refine findRemotePayloadType_ne_none member ?_ unnamed
    rw [named_meaning wellFormed large member found]
    exact same.symm
  | static pt info small listed found =>
    have payload : codec.payloadType = pt := by
      rw [consistent.registered codec known pt small, same]
      exact static_meaning small found
    apply unlisted
    rw [payload]
    exact ⟨small, listed⟩

/-! ### The answered line -/

private theorem agreed_answerCodecs (consistent : sdp.Consistent) {line : SdpMedia}
    (wellFormed : line.WellFormed) (type : MediaType) :
    Agreed line (sdp.answerCodecs type line) := by
  unfold answerCodecs
  simp only
  split
  · exact agreed_adoptCodecs wellFormed
  · exact agreed_agreedCodecs consistent wellFormed type

private theorem answerCodecs_notEvent (consistent : sdp.Consistent) (line : SdpMedia) :
    ∀ rc ∈ sdp.answerCodecs .audio line, rc.meaning ≠ telephoneEvent := by
  intro rc member
  unfold answerCodecs at member
  simp only at member
  split at member
  · obtain ⟨info, system, _, meaning⟩ := ((adopting_adoptCodecs line).origin rc member).system
    rw [meaning]
    exact systemAudio_notEvent system
  · obtain ⟨original, originalMember, found⟩ := List.mem_filterMap.mp member
    obtain ⟨pt, _, rfl⟩ := Option.map_eq_some_iff.mp found
    obtain ⟨codec, known, rfl⟩ := List.mem_map.mp originalMember
    exact consistent.notEvent codec known

theorem meaning_of_codecAttrs {type : MediaType}
    (member : SdpAttr.rtpmap pt (some map) ∈ codecAttrs type rc) :
    pt = rc.payload ∧ map.meaning = rc.meaning := by
  have emitted : pt = rc.payload ∧ map = ⟨rc.encName, rc.clockRate,
      if rc.channels > 1 then some rc.channels else none⟩ := by
    unfold codecAttrs at member
    simp only [List.cons_append, List.mem_cons, List.mem_append] at member
    rcases member with rtpmap | annexb | profile
    · cases rtpmap
      exact ⟨rfl, rfl⟩
    · split at annexb
      · cases List.mem_singleton.mp annexb
      · cases annexb
    · split at profile
      · cases List.mem_singleton.mp profile
      · cases profile
  obtain ⟨rfl, rfl⟩ := emitted
  simp only [RtpMap.meaning, ResolvedCodec.meaning, Meaning.mk.injEq, true_and]
  unfold RtpMap.channels
  rcases Nat.lt_or_ge 1 rc.channels with several | few
  · simp only [if_pos several]
    rw [if_pos (by omega), if_neg (by omega)]
  · simp only [if_neg (Nat.not_lt.mpr few)]
    split <;> omega

def answeredEvent (type : MediaType) (line : SdpMedia) : Option Nat :=
  if type = .audio then findRemoteTelephoneEventPayload line else none

def eventMap : RtpMap := ⟨"telephone-event", 8000, none⟩

theorem describeMedia_fmts (answering : sdp.sdpDirection = .answer) (mediaAttr : MediaAttribute)
    (line med : SdpMedia) (resolved : List ResolvedCodec) :
    (sdp.describeMedia mediaAttr (some line) med resolved).fmts =
      resolved.map ResolvedCodec.payload ++ (answeredEvent mediaAttr.type line).toList := by
  unfold describeMedia setTelephoneEventRtpmap answeredEvent addRTCPAttribute
  simp only [answering]
  split
  · cases findRemoteTelephoneEventPayload line with
    | none => split <;> simp
    | some pt => split <;> simp [addTelephoneEvent]
  · split <;> simp

theorem describeMedia_rtpmap (answering : sdp.sdpDirection = .answer) (mediaAttr : MediaAttribute)
    (line med : SdpMedia) (resolved : List ResolvedCodec) (pt : Nat) (map : RtpMap) :
    SdpAttr.rtpmap pt (some map) ∈
        (sdp.describeMedia mediaAttr (some line) med resolved).attrs ↔
      (∃ rc ∈ resolved, SdpAttr.rtpmap pt (some map) ∈ codecAttrs mediaAttr.type rc) ∨
        (answeredEvent mediaAttr.type line = some pt ∧ map = eventMap) := by
  unfold describeMedia setTelephoneEventRtpmap addRTCPAttribute answeredEvent
  simp only [answering, directionAttr, List.mem_append, List.mem_singleton, reduceCtorEq, or_false]
  split
  · cases findRemoteTelephoneEventPayload line with
    | none => split <;> simp
    | some eventPt => split <;> simp [addTelephoneEvent, eventMap, eq_comm]
  · split <;> simp

theorem answeredEvent_sound {type : MediaType} {line : SdpMedia} (wellFormed : line.WellFormed)
    (found : answeredEvent type line = some pt) :
    type = .audio ∧ pt ∈ line.fmts ∧ line.meaning pt = some telephoneEvent := by
  unfold answeredEvent at found
  split at found
  · rename_i audio
    obtain ⟨map, member, same⟩ := findRemotePayloadType_eq_some found
    refine ⟨audio, wellFormed.listed pt (some map) member, ?_⟩
    rw [wellFormed.meaning_of_mem member, Option.map_some, same]
    rfl
  · cases found

theorem faithful_describeMedia (answering : sdp.sdpDirection = .answer) {mediaAttr : MediaAttribute}
    {line : SdpMedia} (wellFormed : line.WellFormed) (med : SdpMedia)
    {resolved : List ResolvedCodec} (agreed : Agreed line resolved)
    (notEvent : mediaAttr.type = .audio → ∀ rc ∈ resolved, rc.meaning ≠ telephoneEvent) :
    line.Faithful (sdp.describeMedia mediaAttr (some line) med resolved) := by
  constructor
  · intro pt member
    rw [describeMedia_fmts answering] at member
    rcases List.mem_append.mp member with codec | extra
    · obtain ⟨rc, rcMember, rfl⟩ := List.mem_map.mp codec
      exact agreed.listed rc rcMember
    · exact (answeredEvent_sound wellFormed (Option.mem_toList.mp extra)).2.1
  · rw [describeMedia_fmts answering, List.nodup_append]
    refine ⟨agreed.payloads_nodup, ?_, ?_⟩
    · cases answeredEvent mediaAttr.type line with
      | none => exact List.nodup_nil
      | some pt => exact List.nodup_singleton pt
    · intro left leftMember right rightMember same
      subst same
      obtain ⟨rc, rcMember, rfl⟩ := List.mem_map.mp leftMember
      obtain ⟨audio, _, meaning⟩ :=
        answeredEvent_sound wellFormed (Option.mem_toList.mp rightMember)
      apply notEvent audio rc rcMember
      rw [agreed.meaning rc rcMember] at meaning
      exact Option.some.inj meaning
  · intro pt map member
    rw [describeMedia_rtpmap answering] at member
    rcases member with ⟨rc, rcMember, emitted⟩ | ⟨found, rfl⟩
    · obtain ⟨rfl, meaning⟩ := meaning_of_codecAttrs emitted
      rw [agreed.meaning rc rcMember, meaning]
    · exact (answeredEvent_sound wellFormed found).2.2

theorem faithful_answerMedia (answering : sdp.sdpDirection = .answer) (consistent : sdp.Consistent)
    {line : SdpMedia} (wellFormed : line.WellFormed) (mediaAttr : MediaAttribute)
    (enabled : (sdp.answerMedia mediaAttr line).port ≠ 0) :
    line.Faithful (sdp.answerMedia mediaAttr line) := by
  have agreed := agreed_answerCodecs consistent wellFormed mediaAttr.type
  have notEvent : mediaAttr.type = .audio →
      ∀ rc ∈ sdp.answerCodecs mediaAttr.type line, rc.meaning ≠ telephoneEvent := by
    intro audio
    rw [audio]
    exact answerCodecs_notEvent consistent line
  have described := faithful_describeMedia answering wellFormed (sdp.emptyMedia mediaAttr)
    agreed notEvent
  unfold answerMedia at enabled ⊢
  simp only at enabled ⊢
  split at enabled
  · exact absurd rfl enabled
  · exact described

/-! ### Histories of offers -/

def answerStep (sdp : Sdp) (offered : MediaAttribute × SdpMedia) : Sdp :=
  match sdp.addMediaDescription offered.1 (some offered.2) with
  | .ok (changed, _) => changed
  | .error _ => sdp

def AnswersFaithfully (sdp : Sdp) (offered : MediaAttribute × SdpMedia) : Prop :=
  ∀ changed answer, sdp.addMediaDescription offered.1 (some offered.2) = .ok (changed, answer) →
    answer.port ≠ 0 → offered.2.Faithful answer

theorem addMediaDescription_answer {changed : Sdp} {answer line : SdpMedia}
    {mediaAttr : MediaAttribute} (answering : sdp.sdpDirection = .answer)
    (result : sdp.addMediaDescription mediaAttr (some line) = .ok (changed, answer)) :
    changed = sdp.keepAdopted mediaAttr.type line ∧ answer = sdp.answerMedia mediaAttr line := by
  unfold addMediaDescription at result
  rw [answering] at result
  cases type : mediaAttr.type with
  | audio | video =>
    rw [type] at result
    cases result
    exact ⟨rfl, rfl⟩
  | none | all =>
    rw [type] at result
    cases result

private theorem advertised_adoptCodecs (line : SdpMedia) :
    ((adoptCodecs line).map ResolvedCodec.codec).map advertised =
      (adoptCodecs line).map ResolvedCodec.meaning := by
  rw [List.map_map]
  apply List.map_congr_left
  intro rc member
  obtain ⟨info, _, codec, meaning⟩ := ((adopting_adoptCodecs line).origin rc member).system
  rw [meaning, ← codec]
  rfl

private theorem system_of_adopted {line : SdpMedia} {codec : AccountCodecInfo}
    (member : codec ∈ (adoptCodecs line).map ResolvedCodec.codec) :
    ∃ info, systemAudio info ∧ codec = AccountCodecInfo.ofSystem info := by
  obtain ⟨rc, rcMember, rfl⟩ := List.mem_map.mp member
  obtain ⟨info, system, same, _⟩ := ((adopting_adoptCodecs line).origin rc rcMember).system
  exact ⟨info, system, same⟩

/-- A list can be told apart also with what it adopts: an adopted codec was not in
the list, or it would have been matched. -/
theorem Consistent.keepAdopted (consistent : sdp.Consistent) {line : SdpMedia}
    (wellFormed : line.WellFormed) (type : MediaType) : (sdp.keepAdopted type line).Consistent := by
  unfold Sdp.keepAdopted
  split
  · rename_i condition
    simp only [Bool.and_eq_true, decide_eq_true_eq, List.isEmpty_iff] at condition
    obtain ⟨⟨rfl, unmatched⟩, _⟩ := condition
    have agreed := agreed_adoptCodecs wellFormed
    constructor
    · rw [List.map_append, advertised_adoptCodecs, List.nodup_append]
      refine ⟨consistent.audioDistinct, agreed.distinct, ?_⟩
      intro left leftMember right rightMember same
      obtain ⟨codec, known, rfl⟩ := List.mem_map.mp leftMember
      obtain ⟨rc, adopted, rfl⟩ := List.mem_map.mp rightMember
      exact adopted_unknown consistent wellFormed unmatched known adopted same
    · exact consistent.videoDistinct
    · intro codec member
      rcases List.mem_append.mp member with known | adopted
      · exact consistent.registered codec known
      · obtain ⟨info, system, rfl⟩ := system_of_adopted adopted
        exact systemAudio_registered system
    · intro codec member
      rcases List.mem_append.mp member with known | adopted
      · exact consistent.notEvent codec known
      · obtain ⟨info, system, rfl⟩ := system_of_adopted adopted
        exact systemAudio_notEvent system
  · exact consistent

theorem keepAdopted_sdpDirection (sdp : Sdp) (type : MediaType) (line : SdpMedia) :
    (sdp.keepAdopted type line).sdpDirection = sdp.sdpDirection := by
  unfold keepAdopted
  split <;> rfl

def answeringWith (codecs : List SystemCodecInfo) : Sdp :=
  { sdpDirection := .answer
    audioCodecList := codecs.map AccountCodecInfo.ofSystem
    localAudioRtpPort := 4000 }

def audioStream : MediaAttribute := { type := .audio, secure := false, enabled := true }

def offeredAudio (fmts : List Nat) (attrs : List SdpAttr) : SdpMedia :=
  ⟨"audio", 5004, "RTP/AVP", fmts, attrs, none⟩

end Sdp

end SipCore
