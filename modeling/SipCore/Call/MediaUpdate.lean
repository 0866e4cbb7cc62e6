/-
What a list of streams makes of the stream vector, position by position. An entry
whose label is known updates that stream where it stands, any other is appended, and
what lies beyond the length of the list is cut.
-/

import SipCore.Call.NegotiatedMedia

namespace SipCore

variable {newAttr : MediaAttribute}

variable {stream : RtpStream} {i : Nat}

namespace SIPCall

variable (platform : Platform)

def newStream (inConference : Bool) (newAttr : MediaAttribute) : RtpStream :=
  let mediaAttr := normalizedAttr inConference newAttr
  ⟨{ mediaAttr with
      sourceUri :=
        if mediaAttr.sourceUri = "" then platform.defaultMrl else mediaAttr.sourceUri }⟩

def aligned (inConference : Bool) : List RtpStream → List MediaAttribute → List RtpStream
  | streams, [] => streams
  | [], newAttr :: later => newStream platform inConference newAttr :: aligned inConference [] later
  | stream :: rest, newAttr :: later =>
    updateMediaStream platform newAttr stream :: aligned inConference rest later

section Loop

variable {platform} {inConference : Bool} {streams final : List RtpStream}
  {mediaAttrList : List MediaAttribute}

theorem newStream_label (newAttr : MediaAttribute) :
    (newStream platform inConference newAttr).mediaAttribute.label = newAttr.label := by
  unfold newStream normalizedAttr
  split <;> rfl

theorem findRtpStreamIndex_absent {label : String} (absent : label ∉ labels streams) :
    findRtpStreamIndex streams label = none := by
  unfold findRtpStreamIndex
  rw [List.findIdx?_eq_none_iff]
  intro stream member
  apply decide_eq_false
  intro same
  apply absent
  rw [same]
  exact List.mem_map_of_mem member

private theorem findRtpStreamIndex_behind {label : String} (absent : label ∉ labels streams)
    (found : stream.mediaAttribute.label = label) (rest : List RtpStream) :
    findRtpStreamIndex (streams ++ stream :: rest) label = some streams.length := by
  have missed := findRtpStreamIndex_absent absent
  unfold findRtpStreamIndex at missed ⊢
  rw [List.findIdx?_append, missed, List.findIdx?_cons, if_pos (decide_eq_true found.symm)]
  exact congrArg some (Nat.zero_add _)

private theorem modify_behind (stream : RtpStream) (rest : List RtpStream)
    (change : RtpStream → RtpStream) :
    (streams ++ stream :: rest).modify streams.length change =
      streams ++ change stream :: rest := by
  induction streams with
  | nil => rfl
  | cons head tail ih =>
    rw [List.cons_append, List.length_cons, List.modify_succ_cons, ih]
    rfl

private theorem fresh_later {later : List MediaAttribute}
    (fresh : ∀ attr ∈ newAttr :: later, attr.label ∉ labels streams)
    (distinct : ((newAttr :: later).map MediaAttribute.label).Nodup)
    (named : stream.mediaAttribute.label = newAttr.label) :
    ∀ attr ∈ later, attr.label ∉ labels (streams ++ [stream]) := by
  intro attr member known
  rw [List.map_cons, List.nodup_cons] at distinct
  rw [labels, List.map_append, List.mem_append] at known
  rcases known with before | here
  · exact fresh attr (List.mem_cons_of_mem newAttr member) before
  · have same : attr.label = newAttr.label := by
      rw [← named]
      exact List.mem_singleton.mp here
    apply distinct.1
    rw [← same]
    exact List.mem_map_of_mem member

/-- Behind the streams that are done, the loop updates the streams there are and then
appends: each label is found exactly where its entry stands in the list. -/
theorem updateStreams_aligned (done : List RtpStream) {remaining : List RtpStream}
    (fresh : ∀ attr ∈ mediaAttrList, attr.label ∉ labels done)
    (distinct : (mediaAttrList.map MediaAttribute.label).Nodup)
    (agree : ∀ (i : Nat) attr stream, mediaAttrList[i]? = some attr → remaining[i]? = some stream →
      stream.mediaAttribute.label = attr.label)
    (result : updateStreams platform inConference (done ++ remaining) mediaAttrList = .ok final) :
    final = done ++ aligned platform inConference remaining mediaAttrList := by
  induction mediaAttrList generalizing done remaining with
  | nil =>
    cases result
    rw [aligned]
  | cons newAttr later ih =>
    have absent := fresh newAttr List.mem_cons_self
    have laterDistinct := (List.nodup_cons.mp distinct).2
    unfold updateStreams updateStream at result
    cases remaining with
    | nil =>
      rw [List.append_nil, findRtpStreamIndex_absent absent] at result
      dsimp only at result
      split at result
      · cases result
      · rename_i changed added
        split at added
        · cases added
          have named : (newStream platform inConference newAttr).mediaAttribute.label =
            newAttr.label := newStream_label newAttr
          change updateStreams platform inConference
            (done ++ [newStream platform inConference newAttr]) later = .ok final at result
          rw [← List.append_nil (done ++ [_])] at result
          rw [ih _ (fresh_later fresh distinct named) laterDistinct
            (fun _ _ _ _ missing => by cases missing) result, List.append_assoc]
          rfl
        · cases added
    | cons stream rest =>
      have found := agree 0 newAttr stream rfl rfl
      rw [findRtpStreamIndex_behind absent found rest] at result
      dsimp only at result
      rw [modify_behind, ← List.singleton_append, ← List.append_assoc] at result
      have named : (updateMediaStream platform newAttr stream).mediaAttribute.label =
          newAttr.label := (updateMediaStream_label platform newAttr stream).trans found
      rw [ih _ (fresh_later fresh distinct named) laterDistinct
        (fun i => agree (i + 1)) result, List.append_assoc]
      rfl

theorem updateStreams_labels_prefix
    (result : updateStreams platform inConference streams mediaAttrList = .ok final) :
    labels streams <+: labels final := by
  induction mediaAttrList generalizing streams with
  | nil =>
    cases result
    exact List.prefix_refl _
  | cons newAttr later ih =>
    unfold updateStreams at result
    cases first : updateStream platform inConference streams newAttr with
    | error failure =>
      rw [first] at result
      cases result
    | ok changed =>
      rw [first] at result
      refine List.IsPrefix.trans ?_ (ih result)
      unfold updateStream at first
      split at first
      · cases first
        have kept := labels_modify (updateMediaStream_label platform newAttr)
        exact ⟨[], (List.append_nil _).trans (kept _ _).symm⟩
      · split at first
        · cases first
          unfold addMediaStream labels
          rw [List.map_append]
          exact List.prefix_append _ _
        · cases first

private theorem updateStreams_label_at
    (result : updateStreams platform inConference streams mediaAttrList = .ok final)
    {before after : RtpStream} (present : streams[i]? = some before)
    (stored : final[i]? = some after) :
    before.mediaAttribute.label = after.mediaAttribute.label := by
  obtain ⟨added, grown⟩ := updateStreams_labels_prefix result
  have named : (labels streams)[i]? = some before.mediaAttribute.label := by
    rw [labels, List.getElem?_map, present]
    rfl
  have kept : (labels final)[i]? = some before.mediaAttribute.label := by
    rw [← grown, List.getElem?_append_left (List.getElem?_eq_some_iff.mp named).1]
    exact named
  rw [labels, List.getElem?_map, stored] at kept
  exact (Option.some.inj kept).symm

private theorem aligned_kept (entry : mediaAttrList[i]? = some newAttr)
    (present : streams[i]? = some stream) :
    (aligned platform inConference streams mediaAttrList)[i]? =
      some (updateMediaStream platform newAttr stream) := by
  induction mediaAttrList generalizing streams i with
  | nil => cases entry
  | cons first later ih =>
    cases streams with
    | nil => cases present
    | cons head rest =>
      cases i with
      | zero =>
        cases entry
        cases present
        rfl
      | succ i => exact ih entry present

theorem aligned_new (entry : mediaAttrList[i]? = some newAttr) (beyond : streams.length ≤ i) :
    (aligned platform inConference streams mediaAttrList)[i]? =
      some (newStream platform inConference newAttr) := by
  induction mediaAttrList generalizing streams i with
  | nil => cases entry
  | cons first later ih =>
    cases i with
    | zero =>
      cases entry
      rw [List.length_eq_zero_iff.mp (Nat.le_zero.mp beyond)]
      rfl
    | succ i =>
      cases streams with
      | nil =>
        exact ih entry (Nat.zero_le i)
      | cons head rest =>
        exact ih entry (Nat.le_of_succ_le_succ beyond)

end Loop

section Positions

variable {platform} {call updated : SIPCall} {mediaAttrList : List MediaAttribute}

/-! ### Position by position -/

theorem updateAllMediaStreams_true
    (result : updateAllMediaStreams platform call mediaAttrList = .ok (true, updated)) :
    ∃ streams, updateStreams platform call.inConference call.rtpStreams mediaAttrList = .ok streams ∧
      updated = { call with rtpStreams := streams.take mediaAttrList.length } := by
  unfold updateAllMediaStreams at result
  split at result
  · cases result
  · split at result
    · cases result
    · rename_i streams loop
      cases result
      exact ⟨streams, loop, rfl⟩

def LabelsAgree (call : SIPCall) (mediaAttrList : List MediaAttribute) : Prop :=
  ∀ (i : Nat) attr stream, mediaAttrList[i]? = some attr → call.rtpStreams[i]? = some stream →
    stream.mediaAttribute.label = attr.label

private theorem updated_at (distinct : (mediaAttrList.map MediaAttribute.label).Nodup)
    (result : updateAllMediaStreams platform call mediaAttrList = .ok (true, updated))
    (agree : LabelsAgree call mediaAttrList) {attr : MediaAttribute}
    (entry : mediaAttrList[i]? = some attr) :
    updated.rtpStreams[i]? =
      (aligned platform call.inConference call.rtpStreams mediaAttrList)[i]? := by
  obtain ⟨streams, loop, rfl⟩ := updateAllMediaStreams_true result
  have known : streams = aligned platform call.inConference call.rtpStreams mediaAttrList :=
    updateStreams_aligned [] (fun _ _ => List.not_mem_nil) distinct agree loop
  rw [← known]
  exact List.getElem?_take_of_lt (List.getElem?_eq_some_iff.mp entry).1

theorem labelsAgree_of_updated (distinct : (mediaAttrList.map MediaAttribute.label).Nodup)
    (result : updateAllMediaStreams platform call mediaAttrList = .ok (true, updated))
    (agree : LabelsAgree updated mediaAttrList) : LabelsAgree call mediaAttrList := by
  have length := updateAllMediaStreams_length platform distinct result
  obtain ⟨streams, loop, rfl⟩ := updateAllMediaStreams_true result
  intro i attr stream entry present
  have within := (List.getElem?_eq_some_iff.mp entry).1
  have stored := List.getElem?_eq_getElem (Nat.lt_of_lt_of_eq within length.symm)
  rw [← agree i attr _ entry stored]
  apply updateStreams_label_at loop present
  rw [← List.getElem?_take_of_lt within]
  exact stored

theorem updated_agrees_iff {agrees : MediaAttribute → RtpStream → Prop}
    (labelled : ∀ attr stream, agrees attr stream → stream.mediaAttribute.label = attr.label)
    (distinct : (mediaAttrList.map MediaAttribute.label).Nodup)
    (result : updateAllMediaStreams platform call mediaAttrList = .ok (true, updated)) :
    (∀ (i : Nat) attr stream, mediaAttrList[i]? = some attr → updated.rtpStreams[i]? = some stream →
        agrees attr stream) ↔
      (∀ (i : Nat) attr stream, mediaAttrList[i]? = some attr → call.rtpStreams[i]? = some stream →
        agrees attr (updateMediaStream platform attr stream)) ∧
      ∀ (i : Nat) attr, mediaAttrList[i]? = some attr → call.rtpStreams.length ≤ i →
        agrees attr (newStream platform call.inConference attr) := by
  constructor
  · intro carried
    have agree := labelsAgree_of_updated distinct result
      (fun i attr stream entry stored => labelled attr stream (carried i attr stream entry stored))
    constructor
    · intro i attr stream entry present
      apply carried i attr _ entry
      rw [updated_at distinct result agree entry]
      exact aligned_kept entry present
    · intro i attr entry beyond
      apply carried i attr _ entry
      rw [updated_at distinct result agree entry]
      exact aligned_new entry beyond
  · intro settled i attr stream entry stored
    obtain ⟨old, new⟩ := settled
    have agree : LabelsAgree call mediaAttrList := by
      intro i attr stream entry present
      rw [← updateMediaStream_label platform attr stream]
      exact labelled attr _ (old i attr stream entry present)
    rw [updated_at distinct result agree entry] at stored
    rcases Nat.lt_or_ge i call.rtpStreams.length with before | beyond
    · have present := List.getElem?_eq_getElem before
      rw [aligned_kept entry present] at stored
      cases stored
      exact old i attr _ entry present
    · rw [aligned_new entry beyond] at stored
      cases stored
      exact new i attr entry beyond

end Positions

structure Carries (attr : MediaAttribute) (stream : RtpStream) : Prop where
  label : stream.mediaAttribute.label = attr.label
  type : stream.mediaAttribute.type = attr.type
  muted : stream.mediaAttribute.muted = attr.muted
  enabled : stream.mediaAttribute.enabled = attr.enabled

/-- The vector before agrees with the list in what no update changes, and the entries
beyond it do not ask for video that is not muted, unless the call is in a conference. -/
def Fits (call : SIPCall) (mediaAttrList : List MediaAttribute) : Prop :=
  (∀ (i : Nat) attr stream, mediaAttrList[i]? = some attr → call.rtpStreams[i]? = some stream →
    stream.mediaAttribute.label = attr.label ∧ stream.mediaAttribute.type = attr.type ∧
      stream.mediaAttribute.enabled = attr.enabled) ∧
  ∀ (i : Nat) attr, mediaAttrList[i]? = some attr → call.rtpStreams.length ≤ i →
    attr.type = .video → attr.muted = true ∨ call.inConference = true

theorem carries_updateMediaStream_iff (attr : MediaAttribute) (stream : RtpStream) :
    Carries attr (updateMediaStream platform attr stream) ↔
      stream.mediaAttribute.label = attr.label ∧ stream.mediaAttribute.type = attr.type ∧
        stream.mediaAttribute.enabled = attr.enabled := by
  unfold updateMediaStream
  dsimp only
  split
  · exact ⟨fun carried => ⟨carried.label, carried.type, carried.enabled⟩,
      fun same => ⟨same.1, same.2.1, rfl, same.2.2⟩⟩
  · exact ⟨fun carried => ⟨carried.label, carried.type, carried.enabled⟩,
      fun same => ⟨same.1, same.2.1, rfl, same.2.2⟩⟩

theorem carries_newStream_iff (inConference : Bool) (attr : MediaAttribute) :
    Carries attr (newStream platform inConference attr) ↔
      (attr.type = .video → attr.muted = true ∨ inConference = true) := by
  unfold newStream normalizedAttr
  split
  · rename_i forced
    simp only [Bool.and_eq_true, decide_eq_true_eq, Bool.not_eq_true'] at forced
    constructor
    · intro carried _
      exact .inl carried.muted.symm
    · intro allowed
      rcases allowed forced.1 with muted | inside
      · exact ⟨rfl, rfl, muted.symm, rfl⟩
      · rw [forced.2] at inside
        cases inside
  · rename_i free
    simp only [Bool.and_eq_true, decide_eq_true_eq, Bool.not_eq_true', not_and,
      Bool.not_eq_false] at free
    constructor
    · intro _ video
      exact .inr (free video)
    · intro _
      exact ⟨rfl, rfl, rfl, rfl⟩

/-- The vector has the length of the list, and it carries the list position by
position exactly if it fitted the list before. -/
theorem updateAllMediaStreams_carries_iff (call updated : SIPCall)
    (mediaAttrList : List MediaAttribute)
    (distinct : (mediaAttrList.map MediaAttribute.label).Nodup)
    (result : updateAllMediaStreams platform call mediaAttrList = .ok (true, updated)) :
    (updated.rtpStreams.length = mediaAttrList.length ∧
      ∀ (i : Nat) attr stream, mediaAttrList[i]? = some attr →
        updated.rtpStreams[i]? = some stream → Carries attr stream) ↔
      Fits call mediaAttrList := by
  have length := updateAllMediaStreams_length platform distinct result
  have positions := updated_agrees_iff (fun _ _ carried => Carries.label carried) distinct result
  simp only [carries_updateMediaStream_iff, carries_newStream_iff] at positions
  exact ⟨fun carried => positions.mp carried.2, fun fits => ⟨length, positions.mpr fits⟩⟩

def usualCall : SIPCall :=
  { rtpStreams :=
      [⟨{ type := .audio, enabled := true, label := "audio_0" }⟩,
        ⟨{ type := .video, enabled := true, label := "video_0", sourceUri := "camera" }⟩] }

/-- Muting in the order of the streams. -/
theorem updateAllMediaStreams_carries_when_muting :
    let muting : List MediaAttribute :=
      [{ type := .audio, muted := true, enabled := true, label := "audio_0" },
        { type := .video, muted := true, enabled := true, label := "video_0" }]
    ∃ updated, updateAllMediaStreams plainPlatform usualCall muting = .ok (true, updated) ∧
      updated.rtpStreams.length = muting.length ∧
      ∀ (i : Nat) attr stream, muting[i]? = some attr → updated.rtpStreams[i]? = some stream →
        Carries attr stream := by
  intro muting
  refine ⟨_, rfl, (updateAllMediaStreams_carries_iff plainPlatform usualCall _ muting
    (by decide) rfl).mpr ⟨?_, ?_⟩⟩
  · intro i attr stream entry present
    match i with
    | 0 | 1 =>
      cases entry
      cases present
      exact ⟨rfl, rfl, rfl⟩
    | _ + 2 => cases entry
  · intro i attr entry beyond
    match i with
    | 0 | 1 => exact absurd beyond (by decide)
    | _ + 2 => cases entry

/-- The same streams listed in the other order stay where they are. -/
theorem swapped_list_not_carried :
    let swapped : List MediaAttribute :=
      [{ type := .video, enabled := true, label := "video_0", sourceUri := "camera" },
        { type := .audio, enabled := true, label := "audio_0" }]
    (swapped.map MediaAttribute.label).Nodup ∧
    ∃ updated, updateAllMediaStreams plainPlatform usualCall swapped = .ok (true, updated) ∧
      ¬ ∀ (i : Nat) attr stream, swapped[i]? = some attr →
        updated.rtpStreams[i]? = some stream → Carries attr stream := by
  intro swapped
  refine ⟨by decide, _, rfl, ?_⟩
  intro carried
  have label := (carried 0 _ _ rfl rfl).label
  revert label
  decide

end SIPCall

end SipCore
