/-
The description of a conference that its host sends to the participants, written as
JSON text and read by a call of the receiver. How values are written and read is a
parameter. Two descriptions are compared by looking up each participant of the one in
the other, without counting.
-/

import SipCore.Conference.ReceivedJson
import SipCore.Library.AssocMap
import SipCore.Library.JsonObject
import SipCore.Library.SearchEquality
import Mathlib.Data.Set.Finite.Basic

namespace SipCore

open JsonValue Emission

def ParticipantInfo.toJson (info : ParticipantInfo) : JsonValue :=
  .object
    [("active", .bool info.active),
      ("audioLocalMuted", .bool info.audioLocalMuted),
      ("audioModeratorMuted", .bool info.audioModeratorMuted),
      ("device", .string info.device),
      ("h", .int info.h),
      ("handRaised", .bool info.handRaised),
      ("isModerator", .bool info.isModerator),
      ("recording", .bool info.recording),
      ("sinkId", .string info.sinkId),
      ("uri", .string info.uri),
      ("videoMuted", .bool info.videoMuted),
      ("voiceActivity", .bool info.voiceActivity),
      ("w", .int info.w),
      ("x", .int info.x),
      ("y", .int info.y)]

def ConfInfo.participantsMember (info : ConfInfo) : List (String × JsonValue) :=
  if info.participants = [] then []
  else [("p", .array (info.participants.map ParticipantInfo.toJson))]

def ConfInfo.toJson (info : ConfInfo) : JsonValue :=
  .object ([("h", .int info.h), ("layout", .int info.layout)] ++ info.participantsMember ++
    [("v", .int info.v), ("w", .int info.w)])

def ConfInfo.toString {Text : Type} (write : JsonValue → Text) (info : ConfInfo) : Text :=
  write info.toJson

def ParticipantInfo.onWire (info : ParticipantInfo) : ParticipantInfo := { info with callId := "" }

def IsInt (number : Int) : Prop := minInt ≤ number ∧ number ≤ maxInt

structure ParticipantInfo.InRange (info : ParticipantInfo) : Prop where
  x : IsInt info.x
  y : IsInt info.y
  w : IsInt info.w
  h : IsInt info.h

structure ConfInfo.InRange (info : ConfInfo) : Prop where
  participants : ∀ participant ∈ info.participants, participant.InRange
  h : IsInt info.h
  w : IsInt info.w
  v : IsInt info.v
  layout : IsInt info.layout

variable {number : Int}

theorem portable_int (inRange : IsInt number) : (JsonValue.int number).Portable := by
  unfold IsInt minInt maxInt at inRange
  exact .int (by omega) (by omega)

theorem ParticipantInfo.portable_toJson {info : ParticipantInfo} (inRange : info.InRange) :
    info.toJson.Portable := by
  have keys : ["active", "audioLocalMuted", "audioModeratorMuted", "device", "h", "handRaised",
      "isModerator", "recording", "sinkId", "uri", "videoMuted", "voiceActivity", "w", "x",
      "y"].Pairwise (· < ·) := by decide
  refine .object (List.pairwise_map.mp keys) ?_
  simp only [List.forall_mem_cons]
  exact ⟨.bool _, .bool _, .bool _, .string _, portable_int inRange.h, .bool _, .bool _, .bool _,
    .string _, .string _, .bool _, .bool _, portable_int inRange.w, portable_int inRange.x,
    portable_int inRange.y, nofun⟩

theorem ConfInfo.portable_toJson {info : ConfInfo} (inRange : info.InRange) :
    info.toJson.Portable := by
  unfold toJson participantsMember
  split
  · refine .object (List.pairwise_map.mp (by decide : ["h", "layout", "v", "w"].Pairwise (· < ·))) ?_
    simp only [List.append_nil, List.cons_append, List.nil_append, List.forall_mem_cons]
    exact ⟨portable_int inRange.h, portable_int inRange.layout, portable_int inRange.v,
      portable_int inRange.w, nofun⟩
  · refine .object
      (List.pairwise_map.mp (by decide : ["h", "layout", "p", "v", "w"].Pairwise (· < ·))) ?_
    simp only [List.cons_append, List.nil_append, List.forall_mem_cons]
    refine ⟨portable_int inRange.h, portable_int inRange.layout, .array ?_, portable_int inRange.v,
      portable_int inRange.w, nofun⟩
    rw [List.forall_mem_map]
    exact fun participant member =>
      ParticipantInfo.portable_toJson (inRange.participants participant member)

theorem asInt_int (inRange : IsInt number) : (JsonValue.int number).asInt = .ok number :=
  if_pos inRange

private theorem fromJson_toJson {info : ParticipantInfo} (inRange : info.InRange) :
    ParticipantInfo.fromJson info.toJson = .ok info.onWire := by
  have object : info.toJson.isObject = true := rfl
  have numbers : ∀ key number, info.toJson.memberOrNull key = .int number → IsInt number →
      info.toJson.field key asInt = .ok number := by
    intro key number member fits
    rw [field_of_isObject object, member, asInt_int fits]
  have x := numbers "x" info.x rfl inRange.x
  have y := numbers "y" info.y rfl inRange.y
  have w := numbers "w" info.w rfl inRange.w
  have h := numbers "h" info.h rfl inRange.h
  unfold ParticipantInfo.fromJson
  rw [x, y, w, h]
  rfl

theorem readParticipant_toJson (participants : List ParticipantInfo) {info : ParticipantInfo}
    (inRange : info.InRange) :
    readParticipant participants info.toJson = pure (participants ++ [info.onWire]) := by
  unfold readParticipant
  rw [fromJson_toJson inRange]
  rfl

theorem readParticipants_toJson {infos : List ParticipantInfo}
    (inRange : ∀ info ∈ infos, info.InRange) (participants : List ParticipantInfo) :
    foldEach (infos.map ParticipantInfo.toJson) participants readParticipant =
      pure (participants ++ infos.map ParticipantInfo.onWire) := by
  induction infos generalizing participants with
  | nil => exact congrArg pure (List.append_nil participants).symm
  | cons info rest ih =>
    have later : ∀ other ∈ rest, other.InRange :=
      fun other member => inRange other (List.mem_cons_of_mem info member)
    change (readParticipant participants info.toJson >>= fun next =>
      foldEach (rest.map ParticipantInfo.toJson) next readParticipant) = _
    rw [readParticipant_toJson participants (inRange info List.mem_cons_self)]
    change foldEach (rest.map ParticipantInfo.toJson) (participants ++ [info.onWire])
      readParticipant = _
    rw [ih later, List.append_assoc]
    rfl

private theorem elements_array (items : List JsonValue) :
    (JsonValue.array items).elements.map Prod.snd = items := by
  change (items.zipIdx.map fun entry => (toString entry.2, entry.1)).map Prod.snd = items
  rw [List.map_map]
  exact List.zipIdx_map_fst 0 items

def ConfInfo.received (info : ConfInfo) : ConfInfo :=
  { info with participants := info.participants.map ParticipantInfo.onWire, layout := 0 }

theorem ConfInfo.members_toJson (info : ConfInfo) :
    info.toJson.member? "v" = some (.int info.v) ∧ info.toJson.member? "w" = some (.int info.w) ∧
      info.toJson.member? "h" = some (.int info.h) ∧
      (info.toJson.memberOrNull "p").elements.map Prod.snd =
        info.participants.map ParticipantInfo.toJson := by
  unfold ConfInfo.toJson ConfInfo.participantsMember
  by_cases nobody : info.participants = []
  · rw [nobody]
    exact ⟨rfl, rfl, rfl, rfl⟩
  · rw [if_neg nobody]
    exact ⟨rfl, rfl, rfl, elements_array _⟩

private theorem readNumber_int {json : JsonValue} (object : json.isObject = true) {key : String}
    (member : json.member? key = some (.int number)) (inRange : IsInt number) (default : Int) :
    readNumber json key default = .ok number := by
  unfold readNumber
  rw [field_of_isObject object, memberOrNull, member]
  exact asInt_int inRange

variable {info : ConfInfo}

theorem readConfInfo_toJson (inRange : info.InRange) :
    readConfInfo info.toJson = ⟨[.peerConfProtocol info.v], .ok info.received⟩ := by
  have object : info.toJson.isObject = true := rfl
  obtain ⟨v, w, h, p⟩ := info.members_toJson
  have participants : readParticipants (info.toJson.memberOrNull "p") =
      pure (info.participants.map ParticipantInfo.onWire) := by
    unfold readParticipants
    rw [p]
    exact readParticipants_toJson inRange.participants []
  have noted : notePeerConfProtocol info.toJson info.v = call (.peerConfProtocol info.v) := by
    unfold notePeerConfProtocol
    rw [v]
    rfl
  unfold readConfInfo
  rw [participants, readNumber_int object v inRange.v,
    readNumber_int object w inRange.w, readNumber_int object h inRange.h]
  change (notePeerConfProtocol info.toJson info.v >>= fun _ => pure info.received) = _
  rw [noted]
  rfl

def InfoEffect.info? : InfoEffect → Option ConfInfo
  | .peerConfProtocol _ => none
  | .confInfo info => some info
  | .mergeConfInfo info => some info

def receivedInfo {Text : Type} (read : Text → Option JsonValue) (link : ConferenceLink)
    (text : Text) : Option ConfInfo :=
  ((setConferenceInfo link (read text)).calls.filterMap InfoEffect.info?).head?

structure SameOnWire (first second : ConfInfo) : Prop where
  h : first.h = second.h
  w : first.w = second.w
  v : first.v = second.v
  layout : first.layout = second.layout
  participants : first.participants.map ParticipantInfo.onWire =
    second.participants.map ParticipantInfo.onWire

private theorem receivedInfo_toString {Text : Type} {write : JsonValue → Text}
    {read : Text → Option JsonValue}
    (roundTrip : ∀ value : JsonValue, value.Portable → read (write value) = some value)
    (inRange : info.InRange) {link : ConferenceLink} (linked : link ≠ .expired) :
    receivedInfo read link (info.toString write) = some info.received := by
  unfold receivedInfo setConferenceInfo ConfInfo.toString
  rw [roundTrip _ (ConfInfo.portable_toJson inRange)]
  simp only
  rw [readConfInfo_toJson inRange]
  cases link with
  | uninitialized => rfl
  | alive => rfl
  | expired => exact absurd rfl linked

private theorem onWire_onWire (participants : List ParticipantInfo) :
    (participants.map ParticipantInfo.onWire).map ParticipantInfo.onWire =
      participants.map ParticipantInfo.onWire := by
  rw [List.map_map]
  rfl

/-- A description survives being sent exactly when it has the layout 0, the one a new
description starts with. -/
theorem received_same_on_wire_iff {Text : Type} (write : JsonValue → Text)
    (read : Text → Option JsonValue)
    (roundTrip : ∀ value : JsonValue, value.Portable → read (write value) = some value)
    (info : ConfInfo) (inRange : info.InRange) (link : ConferenceLink) (linked : link ≠ .expired) :
    (∃ received, receivedInfo read link (info.toString write) = some received ∧
      SameOnWire received info) ↔ info.layout = 0 := by
  rw [receivedInfo_toString roundTrip inRange linked]
  constructor
  · rintro ⟨received, equal, same⟩
    cases equal
    exact same.layout.symm
  · intro default
    refine ⟨info.received, rfl, rfl, rfl, rfl, default.symm, ?_⟩
    exact onWire_onWire info.participants

def ParticipantInfo.unset : ParticipantInfo :=
  { uri := "", device := "", sinkId := "", active := false, x := 0, y := 0, w := 0, h := 0,
    videoMuted := false, audioLocalMuted := false, audioModeratorMuted := false,
    isModerator := false, handRaised := false, voiceActivity := false, recording := false,
    callId := "" }

def twoTalking : ConfInfo :=
  { ConfInfo.empty with
    w := 1280
    h := 720
    participants :=
      [{ ParticipantInfo.unset with
          uri := "alice", sinkId := "c1_video_0", active := true, w := 640, h := 720
          isModerator := true, voiceActivity := true, callId := "c1" },
        { ParticipantInfo.unset with
          uri := "bob", device := "phone", x := 640, w := 640, h := 720, videoMuted := true
          audioLocalMuted := true, handRaised := true, recording := true, callId := "c2" }] }

theorem received_same_on_wire_of_grid :
    ∃ received, receivedInfo some .uninitialized (twoTalking.toString id) = some received ∧
      SameOnWire received twoTalking := by
  have small : ∀ number : Int, -1280 ≤ number → number ≤ 1280 → IsInt number := by
    unfold IsInt minInt maxInt
    omega
  apply (received_same_on_wire_iff id some (fun _ _ => rfl) twoTalking ?_ .uninitialized
    (by decide)).mpr rfl
  refine ⟨?_, small _ (by decide) (by decide), small _ (by decide) (by decide),
    small _ (by decide) (by decide), small _ (by decide) (by decide)⟩
  simp only [twoTalking, List.forall_mem_cons]
  exact ⟨⟨small _ (by decide) (by decide), small _ (by decide) (by decide),
      small _ (by decide) (by decide), small _ (by decide) (by decide)⟩,
    ⟨small _ (by decide) (by decide), small _ (by decide) (by decide),
      small _ (by decide) (by decide), small _ (by decide) (by decide)⟩,
    fun _ member => (nomatch member)⟩

/-- A description with one large stream arrives as one with a grid. -/
theorem layout_not_received :
    receivedInfo some .uninitialized (({ twoTalking with layout := 2 } : ConfInfo).toString id) =
        some twoTalking.received ∧
      ¬ SameOnWire twoTalking.received { twoTalking with layout := 2 } := by
  constructor
  · rfl
  · intro same
    exact absurd same.layout (by decide)

/-- `operator==` of a participant: every field but the id of the call. -/
def ParticipantInfo.same (p1 p2 : ParticipantInfo) : Bool :=
  p1.uri == p2.uri && p1.device == p2.device && p1.sinkId == p2.sinkId &&
    p1.active == p2.active && p1.x == p2.x && p1.y == p2.y && p1.w == p2.w &&
    p1.h == p2.h && p1.videoMuted == p2.videoMuted &&
    p1.audioLocalMuted == p2.audioLocalMuted &&
    p1.audioModeratorMuted == p2.audioModeratorMuted &&
    p1.isModerator == p2.isModerator && p1.handRaised == p2.handRaised &&
    p1.voiceActivity == p2.voiceActivity && p1.recording == p2.recording

/-- `operator==` of a description; the version is not compared. -/
def ConfInfo.same (c1 c2 : ConfInfo) : Bool :=
  if c1.h ≠ c2.h ∨ c1.w ≠ c2.w ∨ c1.layout ≠ c2.layout then false
  else if c1.participants.length ≠ c2.participants.length then false
  else c1.participants.all fun p1 => c2.participants.any fun p2 => p1.same p2

theorem ParticipantInfo.same_iff (p1 p2 : ParticipantInfo) :
    p1.same p2 = true ↔ p1.onWire = p2.onWire := by
  cases p1
  cases p2
  simp only [same, onWire, Bool.and_eq_true, beq_iff_eq, mk.injEq, and_true, and_assoc]

def ConfInfo.people (info : ConfInfo) : List ParticipantInfo :=
  info.participants.map ParticipantInfo.onWire

/-- The same size, the same layout, and the same participants in any order. -/
structure ConfInfo.SamePeople (c1 c2 : ConfInfo) : Prop where
  h : c1.h = c2.h
  w : c1.w = c2.w
  layout : c1.layout = c2.layout
  people : c1.people.Perm c2.people

private theorem all_found_iff (first second : List ParticipantInfo) :
    (first.all fun p1 => second.any fun p2 => p1.same p2) = true ↔
      ∀ person ∈ first.map ParticipantInfo.onWire, person ∈ second.map ParticipantInfo.onWire := by
  rw [List.all_eq_true, List.forall_mem_map]
  apply forall₂_congr
  intro p1 _
  rw [List.any_eq_true, List.mem_map]
  apply exists_congr
  intro p2
  rw [ParticipantInfo.same_iff, eq_comm]

theorem ConfInfo.same_iff_found (c1 c2 : ConfInfo) :
    c1.same c2 = true ↔ c1.h = c2.h ∧ c1.w = c2.w ∧ c1.layout = c2.layout ∧
      SearchEquality.Found c1.people c2.people := by
  have lengths : c1.people.length = c2.people.length ↔
      c1.participants.length = c2.participants.length := by
    rw [people, people, List.length_map, List.length_map]
  unfold ConfInfo.same SearchEquality.Found
  rw [lengths]
  by_cases frame : c1.h ≠ c2.h ∨ c1.w ≠ c2.w ∨ c1.layout ≠ c2.layout
  · rw [if_pos frame]
    constructor
    · intro impossible
      cases impossible
    · rintro ⟨h, w, layout, _⟩
      simp [h, w, layout] at frame
  · rw [if_neg frame]
    rw [not_or, not_or, not_not, not_not, not_not] at frame
    obtain ⟨h, w, layout⟩ := frame
    by_cases size : c1.participants.length = c2.participants.length
    · rw [if_neg (not_not.mpr size), all_found_iff]
      simp only [h, w, layout, size, true_and]
      exact Iff.rfl
    · rw [if_pos size]
      constructor
      · intro impossible
        cases impossible
      · rintro ⟨_, _, _, equal, _⟩
        exact absurd equal size

/-! ### The descriptions of other hosts -/

/-- The video of a peer: the size of the frames it sends, and how a cell of its
description is moved into the place it has here. -/
structure RemoteVideo where
  frameSize : String → Option (Int × Int)
  scale : (width height : Int) → (localCell remoteCell : ParticipantInfo) → ParticipantInfo

inductive MergeEffect where
  | sendConferenceInfos
  | updateLayout
  deriving DecidableEq, Repr

structure RemoteHosts where
  confInfo : ConfInfo
  remoteHosts : AssocMap String ConfInfo
  videoMixer : Bool

def remoteFrame (video : RemoteVideo) (confInfo : ConfInfo) (peerURI : String) : Int × Int :=
  if confInfo.h = 0 ∨ confInfo.w = 0 then
    (video.frameSize peerURI).getD (confInfo.w, confInfo.h)
  else (confInfo.w, confInfo.h)

def resizeRemoteParticipants (video : RemoteVideo) (hosts : RemoteHosts) (confInfo : ConfInfo)
    (peerURI : String) : ConfInfo :=
  let frame := remoteFrame video confInfo peerURI
  if frame.2 = 0 ∨ frame.1 = 0 then confInfo
  else
    let localCell :=
      (hosts.confInfo.participants.find? fun p => p.uri == peerURI).getD ParticipantInfo.unset
    { confInfo with
      participants := confInfo.participants.map (video.scale frame.1 frame.2 localCell) }

def mergeConfInfo (video : RemoteVideo) (hosts : RemoteHosts) (newInfo : ConfInfo)
    (peerURI : String) : RemoteHosts × List MergeEffect :=
  if newInfo.participants = [] then
    ({ hosts with remoteHosts := hosts.remoteHosts.erase peerURI }, [.sendConferenceInfos])
  else
    let resized := resizeRemoteParticipants video hosts newInfo peerURI
    let unchanged := match hosts.remoteHosts.find? peerURI with
      | some stored => stored.same resized
      | none => false
    if unchanged then (hosts, [])
    else
      ({ hosts with remoteHosts := hosts.remoteHosts.assign peerURI resized },
        if hosts.videoMixer then [.updateLayout] else [])

def announced (video : RemoteVideo) (hosts : RemoteHosts) (newInfo : ConfInfo)
    (peerURI : String) : Option ConfInfo :=
  if newInfo.participants = [] then none
  else some (resizeRemoteParticipants video hosts newInfo peerURI)

theorem mergeConfInfo_stored (video : RemoteVideo) (hosts : RemoteHosts) (newInfo : ConfInfo)
    (peerURI : String)
    (noticed : ∀ stored ∈ hosts.remoteHosts.find? peerURI,
      ∀ update ∈ announced video hosts newInfo peerURI, stored.same update = false) :
    (mergeConfInfo video hosts newInfo peerURI).1.remoteHosts.find? peerURI =
      announced video hosts newInfo peerURI := by
  unfold mergeConfInfo announced at *
  by_cases nobody : newInfo.participants = []
  · rw [if_pos nobody, if_pos nobody]
    rw [AssocMap.find?_erase, if_pos rfl]
  · rw [if_neg nobody] at noticed ⊢
    rw [if_neg nobody]
    have changed : (match hosts.remoteHosts.find? peerURI with
        | some stored => stored.same (resizeRemoteParticipants video hosts newInfo peerURI)
        | none => false) = false := by
      cases found : hosts.remoteHosts.find? peerURI with
      | none => rfl
      | some stored => exact noticed stored found _ rfl
    simp only [changed, Bool.false_eq_true, if_false]
    rw [AssocMap.find?_assign, if_pos rfl]

/-- The comparison with a description is that of the participants in any order, and no
update that changes its participants is taken for it. -/
structure ComparedRight (info : ConfInfo) : Prop where
  equality : ∀ other, info.same other = true ↔ info.SamePeople other
  updates : ∀ video hosts newInfo peerURI, hosts.remoteHosts.find? peerURI = some info →
    (∀ update ∈ announced video hosts newInfo peerURI, ¬ info.people.Perm update.people) →
      (mergeConfInfo video hosts newInfo peerURI).1.remoteHosts.find? peerURI =
        announced video hosts newInfo peerURI

theorem same_iff_samePeople (distinct : info.people.Nodup) (other : ConfInfo) :
    info.same other = true ↔ info.SamePeople other := by
  rw [ConfInfo.same_iff_found]
  constructor
  · rintro ⟨h, w, layout, found⟩
    exact ⟨h, w, layout, SearchEquality.perm_of_found distinct found⟩
  · intro same
    exact ⟨same.h, same.w, same.layout, SearchEquality.found_of_perm same.people⟩

def numbered (number : Nat) : ParticipantInfo :=
  { ParticipantInfo.unset with uri := String.ofList (List.replicate number 'a') }

theorem numbered_injective : Function.Injective numbered := by
  intro first second same
  have uris : String.ofList (List.replicate first 'a') = String.ofList (List.replicate second 'a') :=
    congrArg ParticipantInfo.uri same
  have lengths := congrArg List.length (String.ofList_injective uris)
  rwa [List.length_replicate, List.length_replicate] at lengths

private theorem exists_unused (people : List ParticipantInfo) :
    ∃ fresh : ParticipantInfo, fresh.onWire = fresh ∧ fresh ∉ people := by
  obtain ⟨fresh, ⟨number, equal⟩, unused⟩ :=
    (Set.infinite_range_of_injective numbered_injective).exists_notMem_finset people.toFinset
  refine ⟨fresh, ?_, fun member => unused (List.mem_toFinset.mpr member)⟩
  rw [← equal]
  rfl

theorem people_of_onWire (wired : ∀ person ∈ info.participants, person.onWire = person) :
    info.people = info.participants := by
  unfold ConfInfo.people
  nth_rewrite 2 [← List.map_id info.participants]
  exact List.map_congr_left wired

private theorem exists_mistaken (twice : ¬ info.people.Nodup) :
    ∃ other : ConfInfo, info.same other = true ∧ ¬ info.people.Perm other.people := by
  obtain ⟨fresh, wired, unused⟩ := exists_unused info.people
  obtain ⟨second, found, notPerm, elements⟩ :=
    SearchEquality.exists_found_not_perm twice unused
  have people : ({ info with participants := second } : ConfInfo).people = second := by
    apply people_of_onWire
    intro person member
    rcases elements person member with old | new
    · obtain ⟨source, _, equal⟩ := List.mem_map.mp old
      rw [← equal]
      rfl
    · rw [new]
      exact wired
  refine ⟨{ info with participants := second }, ?_, ?_⟩
  · rw [ConfInfo.same_iff_found, people]
    exact ⟨rfl, rfl, rfl, found⟩
  · rw [people]
    exact notPerm

/-- A description is compared right, with every other one and in every update of the
stored one, exactly when it has no participant twice. -/
theorem comparedRight_iff (info : ConfInfo) : ComparedRight info ↔ info.people.Nodup := by
  constructor
  · intro right
    by_contra twice
    obtain ⟨other, same, notPerm⟩ := exists_mistaken twice
    exact notPerm ((right.equality other).mp same).people
  · intro distinct
    refine ⟨same_iff_samePeople distinct, ?_⟩
    intro video hosts newInfo peerURI stored changed
    apply mergeConfInfo_stored
    intro other found update isUpdate
    cases Option.some_inj.mp (stored.symm.trans found)
    rw [Bool.eq_false_iff]
    intro same
    exact changed update isUpdate ((same_iff_samePeople distinct update).mp same).people

def alice : ParticipantInfo := { ParticipantInfo.unset with uri := "alice" }

def bob : ParticipantInfo := { ParticipantInfo.unset with uri := "bob" }

/-- Alice twice is found in alice and bob, not the other way round; and bob is missed
when he comes. -/
theorem alice_twice_mistaken :
    let twice := { ConfInfo.empty with participants := [alice, alice] }
    let both := { ConfInfo.empty with participants := [alice, bob] }
    twice.same both = true ∧ both.same twice = false ∧ ¬ twice.people.Perm both.people ∧
      ((mergeConfInfo ⟨fun _ => none, fun _ _ _ cell => cell⟩
        ⟨ConfInfo.empty, AssocMap.empty.emplace "host" twice, true⟩ both "host").1.remoteHosts.find?
          "host" = some twice) := by
  decide +kernel

end SipCore
