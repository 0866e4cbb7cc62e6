/-
The sources of the video mixer and the order they are drawn in. A frame producer is
attached under a stream id and becomes a source; a stream without video has a
placeholder instead. Both take their place from a table of stable indices by stream id.
Sources are detached in the next pass only.
-/

import Mathlib.Data.List.Sort
import SipCore.Library.AssocMap
import SipCore.Library.GuardedRun
import SipCore.Library.ListMove
import SipCore.Video.MixerPositions

namespace SipCore

namespace Replacement

variable {α : Type} [DecidableEq α] (pattern replacement : List α)

/-- The first argument counts the symbols that still belong to a replaced occurrence. -/
def replaceFrom : Nat → List α → List α
  | _, [] => []
  | skipped + 1, _ :: rest => replaceFrom skipped rest
  | 0, symbol :: rest =>
    if pattern.isPrefixOf (symbol :: rest) then
      replacement ++ replaceFrom (pattern.length - 1) rest
    else symbol :: replaceFrom 0 rest

def replaceAll (text : List α) : List α := replaceFrom pattern replacement 0 text

/-- What holds no first symbol of the pattern is left alone. -/
theorem replaceAll_append {first : α} {text : List α} (clear : first ∉ text)
    (rest later : List α) : replaceAll (first :: later) replacement (text ++ rest) =
      text ++ replaceAll (first :: later) replacement rest := by
  induction text with
  | nil => rfl
  | cons symbol others ih =>
    obtain ⟨different, behind⟩ := List.ne_and_not_mem_of_not_mem_cons clear
    have elsewhere : (first :: later).isPrefixOf (symbol :: (others ++ rest)) = false := by
      simp [List.isPrefixOf, different]
    unfold replaceAll at ih ⊢
    rw [List.cons_append, replaceFrom, elsewhere, ih behind]
    rfl

end Replacement

structure StreamInfo where
  callId : String := ""
  streamId : String := ""
  deriving DecidableEq, Repr

abbrev FrameSource := Nat

structure RegisteredSource where
  source : FrameSource
  stableIndex : Nat
  deriving DecidableEq, Repr

structure AudioOnlySource where
  overlayLabel : String
  stableIndex : Nat
  deriving DecidableEq, Repr

variable {item : RegisteredSource}

structure SourceList where
  items : List RegisteredSource := []
  distinct : (items.map RegisteredSource.source).Nodup := by decide

namespace SourceList

variable (sources : SourceList)

def has (source : FrameSource) : Bool := sources.items.any (fun item => item.source = source)

def remove (source : FrameSource) : SourceList :=
  { items := sources.items.eraseP (fun item => item.source = source)
    distinct := sources.distinct.sublist (List.eraseP_sublist.map RegisteredSource.source) }

theorem mem_remove {source : FrameSource} :
    item ∈ (sources.remove source).items ↔ item ∈ sources.items ∧ item.source ≠ source := by
  obtain ⟨items, distinct⟩ := sources
  change item ∈ items.eraseP _ ↔ _
  induction items with
  | nil => simp
  | cons head later ih =>
    rw [List.map_cons, List.nodup_cons] at distinct
    by_cases first : head.source = source
    · rw [List.eraseP_cons_of_pos (by simpa using first)]
      constructor
      · intro behind
        refine ⟨List.mem_cons_of_mem head behind, ?_⟩
        intro same
        exact distinct.1 (first ▸ same ▸ List.mem_map_of_mem behind)
      · intro listed
        rcases List.mem_cons.mp listed.1 with same | behind
        · rw [same] at listed
          exact absurd first listed.2
        · exact behind
    · rw [List.eraseP_cons_of_neg (by simpa using first), List.mem_cons, List.mem_cons,
        ih distinct.2]
      constructor
      · rintro (same | behind)
        · rw [same]
          exact ⟨.inl rfl, first⟩
        · exact ⟨.inr behind.1, behind.2⟩
      · rintro ⟨same | behind, other⟩
        · exact .inl same
        · exact .inr ⟨behind, other⟩

def insertSorted (item : RegisteredSource) (items : List RegisteredSource) :
    List RegisteredSource :=
  items.takeWhile (fun other => other.stableIndex ≤ item.stableIndex) ++
    item :: items.dropWhile (fun other => other.stableIndex ≤ item.stableIndex)

theorem insertSorted_perm (item : RegisteredSource) (items : List RegisteredSource) :
    (insertSorted item items).Perm (item :: items) := by
  refine List.perm_middle.trans (.cons item ?_)
  rw [List.takeWhile_append_dropWhile]

def place (item : RegisteredSource) : SourceList :=
  { items := insertSorted item (sources.remove item.source).items
    distinct := by
      rw [((insertSorted_perm item _).map RegisteredSource.source).nodup_iff, List.map_cons,
        List.nodup_cons]
      refine ⟨?_, (sources.remove item.source).distinct⟩
      intro listed
      obtain ⟨other, member, same⟩ := List.mem_map.mp listed
      exact (sources.mem_remove.mp member).2 same }

private theorem mem_place {other : RegisteredSource} :
    other ∈ (sources.place item).items ↔
      other = item ∨ (other ∈ sources.items ∧ other.source ≠ item.source) := by
  change other ∈ insertSorted item (sources.remove item.source).items ↔ _
  rw [(insertSorted_perm item _).mem_iff, List.mem_cons, mem_remove]

def move (fromIndex toIndex : Nat) (inside : toIndex < sources.items.length) : SourceList :=
  { items := ListMove.splice sources.items fromIndex toIndex
    distinct := by
      rw [((ListMove.splice_perm inside).map RegisteredSource.source).nodup_iff]
      exact sources.distinct }

end SourceList

variable {order : List RegisteredSource}

/-- The fields of the mixer that its sources are kept in. `observing` holds the producers
that have the mixer among their observers. -/
structure MixerRegistry where
  sources : SourceList := {}
  audioOnlySources : AssocMap (String × String) AudioOnlySource := .empty
  videoToStreamInfo : AssocMap FrameSource StreamInfo := .empty
  observing : List FrameSource := []
  pendingDetaches : List FrameSource := []
  stableOrder : AssocMap String Nat := .empty
  nextStableIndex : Nat := 0
  activeStream : String := ""
  currentLayout : Layout := .grid
  layoutUpdated : Nat := 0

namespace MixerRegistry

def videoStreamId (streamId : String) : String :=
  String.ofList (Replacement.replaceAll "audio".toList "video".toList streamId.toList)

section StreamIds

-- The ids of calls are decimal, and the host counts as a call.
variable {call number : String} (callPlain : 'a' ∉ call.toList)
  (numberPlain : 'a' ∉ number.toList)
include callPlain numberPlain

theorem videoStreamId_video :
    videoStreamId (call ++ "_video_" ++ number) = call ++ "_video_" ++ number := by
  have plain : 'a' ∉ (call ++ "_video_" ++ number).toList := by
    simp [String.toList_append, callPlain, numberPlain]
  have same := Replacement.replaceAll_append "video".toList plain [] "udio".toList
  rw [List.append_nil] at same
  unfold videoStreamId
  refine (congrArg String.ofList (same.trans (List.append_nil _))).trans ?_
  exact String.ofList_toList

theorem videoStreamId_audio :
    videoStreamId (call ++ "_audio_" ++ number) = call ++ "_video_" ++ number := by
  have front : 'a' ∉ call.toList ++ ['_'] := by simp [callPlain]
  have back : 'a' ∉ '_' :: number.toList := by simp [numberPlain]
  have parts : (call ++ "_audio_" ++ number).toList =
      (call.toList ++ ['_']) ++ ("audio".toList ++ (('_' :: number.toList) ++ [])) := by
    simp [String.toList_append]
  have turned : ∀ rest,
      Replacement.replaceAll "audio".toList "video".toList ("audio".toList ++ rest) =
        "video".toList ++ Replacement.replaceAll "audio".toList "video".toList rest :=
    fun _ => rfl
  apply String.toList_injective
  unfold videoStreamId
  rw [parts, String.toList_ofList]
  have ends := Replacement.replaceAll_append "video".toList back [] "udio".toList
  refine (Replacement.replaceAll_append _ front _ "udio".toList).trans ?_
  refine (congrArg _ ((turned _).trans (congrArg _ ends))).trans ?_
  simp [String.toList_append, Replacement.replaceAll, Replacement.replaceFrom]

end StreamIds

variable (mixer : MixerRegistry)

def updateLayout : MixerRegistry :=
  { mixer with
    currentLayout := if mixer.activeStream = "" then .grid else mixer.currentLayout
    layoutUpdated := mixer.layoutUpdated + 1 }

def stableIndexOf (streamId : String) : Nat :=
  (mixer.stableOrder.find? streamId).getD mixer.nextStableIndex

def registerStream (streamId : String) : MixerRegistry :=
  { mixer with
    stableOrder := mixer.stableOrder.emplace streamId mixer.nextStableIndex
    nextStableIndex :=
      if mixer.stableOrder.contains streamId then mixer.nextStableIndex
      else mixer.nextStableIndex + 1 }

def streamInfo (source : FrameSource) : StreamInfo :=
  (mixer.videoToStreamInfo.find? source).getD {}

/-- A source left over from an earlier attachment goes, and so does a detachment that is
pending. -/
def attached (source : FrameSource) : MixerRegistry :=
  if (mixer.streamInfo source).streamId ≠ "" then
    updateLayout
      { mixer.registerStream (mixer.streamInfo source).streamId with
        sources := mixer.sources.place
          ⟨source, mixer.stableIndexOf (mixer.streamInfo source).streamId⟩
        pendingDetaches := mixer.pendingDetaches.filter (· ≠ source) }
  else
    updateLayout
      { mixer with
        sources := mixer.sources.place ⟨source, mixer.nextStableIndex⟩
        pendingDetaches := mixer.pendingDetaches.filter (· ≠ source)
        nextStableIndex := mixer.nextStableIndex + 1 }

/-- `Observable::attach` tells the mixer only if it was not attached. -/
def attach (source : FrameSource) : MixerRegistry :=
  if source ∈ mixer.observing then mixer
  else attached { mixer with observing := source :: mixer.observing } source

def detach (source : FrameSource) : MixerRegistry :=
  if source ∈ mixer.observing then
    { mixer with
      observing := mixer.observing.filter (· ≠ source)
      pendingDetaches := mixer.pendingDetaches ++ [source] }
  else mixer

def attachVideo (source : FrameSource) (callId streamId : String) : MixerRegistry :=
  attach
    { mixer with videoToStreamInfo := mixer.videoToStreamInfo.assign source ⟨callId, streamId⟩ }
    source

def leaveActive (streamId : String) : MixerRegistry :=
  if streamId ≠ "" ∧ mixer.activeStream = streamId then { mixer with activeStream := "" }
  else mixer

def detachVideo (source : FrameSource) : MixerRegistry :=
  match mixer.videoToStreamInfo.find? source with
  | none => mixer
  | some info =>
    (detach { mixer with videoToStreamInfo := mixer.videoToStreamInfo.erase source }
      source).leaveActive info.streamId

def addAudioOnlySource (callId streamId overlayLabel : String) : MixerRegistry :=
  match mixer.audioOnlySources.find? (callId, streamId) with
  | some stored =>
    updateLayout
      { mixer with
        audioOnlySources := mixer.audioOnlySources.assign (callId, streamId)
          { stored with
            overlayLabel := if overlayLabel ≠ "" then overlayLabel else stored.overlayLabel } }
  | none =>
    updateLayout
      { mixer.registerStream (videoStreamId streamId) with
        audioOnlySources := mixer.audioOnlySources.assign (callId, streamId)
          ⟨overlayLabel, mixer.stableIndexOf (videoStreamId streamId)⟩ }

def removeAudioOnlySource (callId streamId : String) : MixerRegistry :=
  if mixer.audioOnlySources.contains (callId, streamId) then
    updateLayout
      { mixer with audioOnlySources := mixer.audioOnlySources.erase (callId, streamId) }
  else mixer

def removeSource (source : FrameSource) : MixerRegistry :=
  if mixer.sources.has source then
    updateLayout { mixer with sources := mixer.sources.remove source }
  else mixer

def processPendingDetaches : MixerRegistry :=
  mixer.pendingDetaches.foldl removeSource { mixer with pendingDetaches := [] }

def moveSource (fromIndex toIndex : Nat) : Option MixerRegistry :=
  if accepted : fromIndex ≠ toIndex ∧ fromIndex < mixer.sources.items.length ∧
      toIndex < mixer.sources.items.length then
    some (updateLayout
      { mixer with sources := mixer.sources.move fromIndex toIndex accepted.2.2 })
  else none

structure PendingItem where
  stableIndex : Nat
  source : Option FrameSource
  streamId : String
  deriving DecidableEq, Repr

def videoItem (item : RegisteredSource) : PendingItem :=
  ⟨item.stableIndex, some item.source, (mixer.streamInfo item.source).streamId⟩

def audioOnlyItem (entry : (String × String) × AudioOnlySource) : PendingItem :=
  ⟨entry.2.stableIndex, none, entry.1.2⟩

def pending : List PendingItem :=
  mixer.sources.items.map mixer.videoItem ++ mixer.audioOnlySources.entries.map audioOnlyItem

/-- An order the sort of a pass may give. It need not be stable. -/
structure PassOrder (order : List PendingItem) : Prop where
  complete : order.Perm mixer.pending
  sorted : order.Pairwise (fun left right => left.stableIndex ≤ right.stableIndex)

def PendingItem.registered (item : PendingItem) : Option RegisteredSource :=
  item.source.map (fun source => ⟨source, item.stableIndex⟩)

/-- An order of the video sources among the tiles of a pass. -/
def VideoOrder (order : List RegisteredSource) : Prop :=
  ∃ pass, mixer.PassOrder pass ∧ order = pass.filterMap PendingItem.registered

inductive Event where
  | attachVideo (source : FrameSource) (callId streamId : String)
  | detachVideo (source : FrameSource)
  | detach (source : FrameSource)
  | addAudioOnlySource (callId streamId overlayLabel : String)
  | removeAudioOnlySource (callId streamId : String)
  | process
  deriving DecidableEq, Repr

def step (mixer : MixerRegistry) : Event → MixerRegistry
  | .attachVideo source callId streamId => mixer.attachVideo source callId streamId
  | .detachVideo source => mixer.detachVideo source
  | .detach source => mixer.detach source
  | .addAudioOnlySource callId streamId overlayLabel =>
    mixer.addAudioOnlySource callId streamId overlayLabel
  | .removeAudioOnlySource callId streamId => mixer.removeAudioOnlySource callId streamId
  | .process => mixer.processPendingDetaches

section Move

variable {mixer}

private theorem filterMap_pending :
    mixer.pending.filterMap PendingItem.registered = mixer.sources.items := by
  unfold pending
  rw [List.filterMap_append, List.filterMap_map, List.filterMap_map]
  have videos : PendingItem.registered ∘ mixer.videoItem = some := rfl
  have placeholders : PendingItem.registered ∘ audioOnlyItem = fun _ => none := rfl
  rw [videos, placeholders]
  simp

theorem VideoOrder.perm (shown : mixer.VideoOrder order) : order.Perm mixer.sources.items := by
  obtain ⟨pass, ordered, rfl⟩ := shown
  rw [← filterMap_pending]
  exact ordered.complete.filterMap _

theorem VideoOrder.sorted (shown : mixer.VideoOrder order) :
    order.Pairwise (fun left right => left.stableIndex ≤ right.stableIndex) := by
  obtain ⟨pass, ordered, rfl⟩ := shown
  apply ordered.sorted.filterMap
  intro left right before leftSource leftFound rightSource rightFound
  obtain ⟨_, _, rfl⟩ := Option.map_eq_some_iff.mp leftFound
  obtain ⟨_, _, rfl⟩ := Option.map_eq_some_iff.mp rightFound
  exact before

private theorem exists_videoOrder (mixer : MixerRegistry) : ∃ order, mixer.VideoOrder order := by
  refine ⟨_, mixer.pending.insertionSort
    (fun left right => left.stableIndex ≤ right.stableIndex), ?_, rfl⟩
  constructor
  · exact List.perm_insertionSort _ _
  · exact List.pairwise_insertionSort _ _

variable {fromIndex toIndex : Nat} {moved : MixerRegistry}

section

variable (accepted : mixer.moveSource fromIndex toIndex = some moved)
include accepted

theorem moveSource_eq_some :
    (fromIndex ≠ toIndex ∧ fromIndex < mixer.sources.items.length ∧
      toIndex < mixer.sources.items.length) ∧
    moved.sources.items = ListMove.moveElement mixer.sources.items fromIndex toIndex ∧
    moved.pending.Perm mixer.pending := by
  unfold moveSource at accepted
  split at accepted
  · rename_i admitted
    cases accepted
    refine ⟨admitted, ListMove.splice_eq_moveElement admitted.2.2, ?_⟩
    apply List.Perm.append_right
    exact (ListMove.splice_perm admitted.2.2).map mixer.videoItem
  · cases accepted

theorem VideoOrder.of_move (shown : mixer.VideoOrder order) : moved.VideoOrder order := by
  obtain ⟨pass, ordered, same⟩ := shown
  refine ⟨pass, ?_, same⟩
  exact ⟨ordered.complete.trans (moveSource_eq_some accepted).2.2.symm, ordered.sorted⟩

/-- With distinct indices there is one order, before the move and after it. -/
theorem order_kept_by_move
    (distinct : (mixer.sources.items.map RegisteredSource.stableIndex).Nodup)
    {before after : List RegisteredSource} (shownBefore : mixer.VideoOrder before)
    (shownAfter : moved.VideoOrder after) : after = before := by
  obtain ⟨admitted, spliced, _⟩ := moveSource_eq_some accepted
  have items : after.Perm before := by
    refine shownAfter.perm.trans ?_
    rw [spliced, ← ListMove.splice_eq_moveElement admitted.2.2]
    exact (ListMove.splice_perm admitted.2.2).trans shownBefore.perm.symm
  apply items.eq_of_pairwise _ shownAfter.sorted shownBefore.sorted
  intro left right leftMember rightMember below above
  apply List.inj_on_of_nodup_map distinct
  · exact shownBefore.perm.mem_iff.mp (items.mem_iff.mp leftMember)
  · exact shownBefore.perm.mem_iff.mp rightMember
  · exact Nat.le_antisymm below above

end

theorem accepted_move_never_shown
    (accepted : mixer.moveSource fromIndex toIndex = some moved) :
    ¬ ∀ before after, mixer.VideoOrder before → moved.VideoOrder after →
      after = ListMove.moveElement before fromIndex toIndex := by
  intro followed
  obtain ⟨order, shown⟩ := exists_videoOrder mixer
  obtain ⟨admitted, _, _⟩ := moveSource_eq_some accepted
  have same := followed order order shown (shown.of_move accepted)
  have distinct : order.Nodup := by
    rw [shown.perm.nodup_iff]
    exact .of_map _ mixer.sources.distinct
  have length : order.length = mixer.sources.items.length := shown.perm.length_eq
  apply ListMove.moveElement_ne distinct admitted.1 _ _ same.symm
  · rw [length]
    exact admitted.2.1
  · rw [length]
    exact admitted.2.2

def twoSources : MixerRegistry :=
  { sources := { items := [⟨1, 0⟩, ⟨2, 1⟩] }
    observing := [1, 2]
    videoToStreamInfo :=
      (AssocMap.empty.emplace 1 ⟨"c1", "c1_video_0"⟩).emplace 2 ⟨"c2", "c2_video_0"⟩
    stableOrder := (AssocMap.empty.emplace "c1_video_0" 0).emplace "c2_video_0" 1
    nextStableIndex := 2 }

theorem two_sources_never_shown_moved :
    (twoSources.moveSource 0 1).isSome = true ∧
      ∀ moved, twoSources.moveSource 0 1 = some moved →
        ¬ ∀ before after, twoSources.VideoOrder before → moved.VideoOrder after →
          after = ListMove.moveElement before 0 1 :=
  ⟨by decide, fun _ accepted => accepted_move_never_shown accepted⟩

/-- The first of two sources is moved behind the second and drawn before it. -/
theorem moved_source_drawn_first :
    ∃ moved, twoSources.moveSource 0 1 = some moved ∧
      twoSources.VideoOrder [⟨1, 0⟩, ⟨2, 1⟩] ∧ moved.VideoOrder [⟨1, 0⟩, ⟨2, 1⟩] ∧
      ListMove.moveElement [RegisteredSource.mk 1 0, ⟨2, 1⟩] 0 1 = [⟨2, 1⟩, ⟨1, 0⟩] := by
  refine ⟨_, rfl, ?_, ?_, by decide⟩
  · exact ⟨[⟨0, some 1, "c1_video_0"⟩, ⟨1, some 2, "c2_video_0"⟩],
      ⟨by decide +kernel, by decide⟩, by decide⟩
  · exact ⟨[⟨0, some 1, "c1_video_0"⟩, ⟨1, some 2, "c2_video_0"⟩],
      ⟨by decide +kernel, by decide⟩, by decide⟩

end Move

/-- No two streams have one index, and a new index is larger than all. -/
structure Indexed (stableOrder : AssocMap String Nat) (nextStableIndex : Nat) : Prop where
  below : ∀ stream index, stableOrder.find? stream = some index → index < nextStableIndex
  distinct : ∀ left right index, stableOrder.find? left = some index →
    stableOrder.find? right = some index → left = right

def Extends (later earlier : AssocMap String Nat) : Prop :=
  ∀ stream index, earlier.find? stream = some index → later.find? stream = some index

section Register

variable {mixer : MixerRegistry} (key : String)

theorem find?_registerStream (stream : String) :
    (mixer.registerStream key).stableOrder.find? stream =
      if stream = key then some (mixer.stableIndexOf key) else mixer.stableOrder.find? stream :=
  AssocMap.find?_emplace mixer.stableOrder key stream mixer.nextStableIndex

theorem extends_registerStream :
    Extends (mixer.registerStream key).stableOrder mixer.stableOrder := by
  intro stream index found
  rw [find?_registerStream]
  split
  · rename_i same
    unfold stableIndexOf
    rw [← same, found]
    rfl
  · exact found

theorem indexed_registerStream (indexed : Indexed mixer.stableOrder mixer.nextStableIndex) :
    Indexed (mixer.registerStream key).stableOrder (mixer.registerStream key).nextStableIndex := by
  cases known : mixer.stableOrder.find? key with
  | some kept =>
    have same : ∀ stream, (mixer.registerStream key).stableOrder.find? stream =
        mixer.stableOrder.find? stream := by
      intro stream
      rw [find?_registerStream]
      split
      · rename_i here
        unfold stableIndexOf
        rw [here, known]
        rfl
      · rfl
    have counter : (mixer.registerStream key).nextStableIndex = mixer.nextStableIndex := by
      simp [MixerRegistry.registerStream, AssocMap.contains, known]
    constructor
    · intro stream index
      rw [same, counter]
      exact indexed.below stream index
    · intro left right index
      rw [same, same]
      exact indexed.distinct left right index
  | none =>
    have fresh : mixer.stableIndexOf key = mixer.nextStableIndex := by
      unfold stableIndexOf
      rw [known]
      rfl
    have counter : (mixer.registerStream key).nextStableIndex = mixer.nextStableIndex + 1 := by
      simp [MixerRegistry.registerStream, AssocMap.contains, known]
    constructor
    · intro stream index found
      rw [find?_registerStream, fresh] at found
      rw [counter]
      split at found
      · cases found
        exact Nat.lt_succ_self _
      · exact Nat.lt_succ_of_lt (indexed.below stream index found)
    · intro left right index leftFound rightFound
      rw [find?_registerStream, fresh] at leftFound rightFound
      split at leftFound <;> split at rightFound
      · rename_i leftKey rightKey
        rw [leftKey, rightKey]
      · cases leftFound
        exact absurd (indexed.below right _ rightFound) (Nat.lt_irrefl _)
      · cases rightFound
        exact absurd (indexed.below left _ leftFound) (Nat.lt_irrefl _)
      · exact indexed.distinct left right index leftFound rightFound

end Register

/-! ### Where the sources stand -/

/-- Every source and every placeholder has the index of its stream. A source about to be
removed may have lost its stream; every other one is watched for its detachment. -/
structure Placed (mixer : MixerRegistry) : Prop where
  indexed : Indexed mixer.stableOrder mixer.nextStableIndex
  source_placed : ∀ item ∈ mixer.sources.items, item.source ∈ mixer.pendingDetaches ∨
    ∃ info, mixer.videoToStreamInfo.find? item.source = some info ∧
      mixer.stableOrder.find? (videoStreamId info.streamId) = some item.stableIndex
  source_watched : ∀ item ∈ mixer.sources.items,
    item.source ∈ mixer.observing ∨ item.source ∈ mixer.pendingDetaches
  placeholder_placed : ∀ key stored, mixer.audioOnlySources.find? key = some stored →
    mixer.stableOrder.find? (videoStreamId key.2) = some stored.stableIndex

/-- A producer is attached under the id of a video stream, and not under another one
while it is attached. -/
def keepsStreams (mixer : MixerRegistry) : Event → Bool
  | .attachVideo source _ streamId =>
    streamId ≠ "" && videoStreamId streamId = streamId &&
      (!mixer.observing.contains source || (mixer.streamInfo source).streamId = streamId)
  | _ => true

section Steps

variable {mixer : MixerRegistry}

theorem Placed.detach (placed : mixer.Placed) (source : FrameSource) :
    (mixer.detach source).Placed := by
  unfold MixerRegistry.detach
  split
  · constructor
    · exact placed.indexed
    · intro item listed
      exact (placed.source_placed item listed).imp_left (List.mem_append_left [source])
    · intro item listed
      by_cases same : item.source = source
      · right
        rw [same]
        exact List.mem_append_right _ List.mem_cons_self
      · rcases placed.source_watched item listed with watched | leaving
        · exact .inl (List.mem_filter.mpr ⟨watched, by simpa using same⟩)
        · exact .inr (List.mem_append_left _ leaving)
    · exact placed.placeholder_placed
  · exact placed

theorem Placed.detachVideo (placed : mixer.Placed) (source : FrameSource) :
    (mixer.detachVideo source).Placed := by
  have detached := placed.detach source
  unfold MixerRegistry.detachVideo
  split
  · exact placed
  · have forgotten : (MixerRegistry.detach { mixer with
        videoToStreamInfo := mixer.videoToStreamInfo.erase source } source).Placed := by
      unfold MixerRegistry.detach at detached ⊢
      split
      · rename_i attached
        rw [if_pos attached] at detached
        refine ⟨detached.indexed, ?_, detached.source_watched, detached.placeholder_placed⟩
        intro item listed
        by_cases same : item.source = source
        · left
          rw [same]
          exact List.mem_append_right _ List.mem_cons_self
        · rw [AssocMap.find?_erase, if_neg same]
          exact detached.source_placed item listed
      · rename_i unattached
        refine ⟨placed.indexed, ?_, placed.source_watched, placed.placeholder_placed⟩
        intro item listed
        by_cases same : item.source = source
        · rcases placed.source_watched item listed with watched | leaving
          · rw [same] at watched
            exact absurd watched unattached
          · exact .inl leaving
        · rw [AssocMap.find?_erase, if_neg same]
          exact placed.source_placed item listed
    unfold leaveActive
    split
    · exact ⟨forgotten.indexed, forgotten.source_placed, forgotten.source_watched,
        forgotten.placeholder_placed⟩
    · exact forgotten

section

variable (placed : mixer.Placed) {source : FrameSource} {callId streamId : String}
include placed

theorem Placed.relabel (same : (mixer.streamInfo source).streamId = streamId) :
    Placed { mixer with
      videoToStreamInfo := mixer.videoToStreamInfo.assign source ⟨callId, streamId⟩ } := by
  refine ⟨placed.indexed, ?_, placed.source_watched, placed.placeholder_placed⟩
  intro item listed
  rw [AssocMap.find?_assign]
  rcases placed.source_placed item listed with leaving | ⟨info, found, index⟩
  · exact .inl leaving
  · right
    split
    · rename_i here
      refine ⟨_, rfl, ?_⟩
      unfold streamInfo at same
      rw [← here, found] at same
      rw [← same]
      exact index
    · exact ⟨info, found, index⟩

theorem Placed.attached (named : streamId ≠ "") (video : videoStreamId streamId = streamId) :
    (MixerRegistry.attached { mixer with
      videoToStreamInfo := mixer.videoToStreamInfo.assign source ⟨callId, streamId⟩
      observing := source :: mixer.observing } source).Placed := by
  have stream : (streamInfo { mixer with
      videoToStreamInfo := mixer.videoToStreamInfo.assign source ⟨callId, streamId⟩
      observing := source :: mixer.observing } source).streamId = streamId := by
    unfold streamInfo
    rw [AssocMap.find?_assign, if_pos rfl]
    rfl
  unfold MixerRegistry.attached
  rw [stream, if_pos named]
  have indexed := indexed_registerStream streamId placed.indexed
  have kept : ∀ other, other ≠ source → other ∈ mixer.pendingDetaches →
      other ∈ mixer.pendingDetaches.filter (· ≠ source) := by
    intro other different leaving
    exact List.mem_filter.mpr ⟨leaving, by simpa using different⟩
  refine ⟨indexed, ?_, ?_, ?_⟩
  · intro item listed
    rcases (SourceList.mem_place _).mp listed with same | ⟨old, different⟩
    · right
      refine ⟨⟨callId, streamId⟩, ?_, ?_⟩
      · rw [same]
        change (mixer.videoToStreamInfo.assign source _).find? source = _
        rw [AssocMap.find?_assign, if_pos rfl]
      · rw [video, same]
        exact (find?_registerStream streamId streamId).trans (if_pos rfl)
    · rcases placed.source_placed item old with leaving | ⟨info, found, index⟩
      · exact .inl (kept _ different leaving)
      · right
        refine ⟨info, ?_, extends_registerStream streamId _ _ index⟩
        change (mixer.videoToStreamInfo.assign source _).find? item.source = _
        rw [AssocMap.find?_assign, if_neg different]
        exact found
  · intro item listed
    rcases (SourceList.mem_place _).mp listed with same | ⟨old, different⟩
    · left
      rw [same]
      exact List.mem_cons_self
    · rcases placed.source_watched item old with watched | leaving
      · exact .inl (List.mem_cons_of_mem source watched)
      · exact .inr (kept _ different leaving)
  · intro key stored found
    exact extends_registerStream streamId _ _ (placed.placeholder_placed key stored found)

theorem Placed.attachVideo
    (admissible : mixer.keepsStreams (.attachVideo source callId streamId) = true) :
    (mixer.attachVideo source callId streamId).Placed := by
  unfold keepsStreams at admissible
  simp only [Bool.and_eq_true, Bool.or_eq_true, decide_eq_true_eq, Bool.not_eq_true',
    List.contains_eq_mem, decide_eq_false_iff_not] at admissible
  obtain ⟨⟨named, video⟩, free⟩ := admissible
  unfold MixerRegistry.attachVideo attach
  split
  · rename_i attached
    exact placed.relabel (free.resolve_left (fun unattached => unattached attached))
  · exact placed.attached named video

end

theorem Placed.addAudioOnlySource (placed : mixer.Placed) (callId streamId overlayLabel : String) :
    (mixer.addAudioOnlySource callId streamId overlayLabel).Placed := by
  unfold MixerRegistry.addAudioOnlySource
  split
  · rename_i existing found
    refine ⟨placed.indexed, placed.source_placed, placed.source_watched, ?_⟩
    exact AssocMap.forall_assign (placed.placeholder_placed _ existing found)
      placed.placeholder_placed
  · have indexed := indexed_registerStream (videoStreamId streamId) placed.indexed
    refine ⟨indexed, ?_, placed.source_watched, ?_⟩
    · intro item listed
      rcases placed.source_placed item listed with leaving | ⟨info, found, index⟩
      · exact .inl leaving
      · exact .inr ⟨info, found, extends_registerStream _ _ _ index⟩
    · apply AssocMap.forall_assign
      · exact (find?_registerStream _ _).trans (if_pos rfl)
      · intro key stored found
        exact extends_registerStream _ _ _ (placed.placeholder_placed key stored found)

theorem Placed.removeAudioOnlySource (placed : mixer.Placed) (callId streamId : String) :
    (mixer.removeAudioOnlySource callId streamId).Placed := by
  unfold MixerRegistry.removeAudioOnlySource
  split
  · refine ⟨placed.indexed, placed.source_placed, placed.source_watched, ?_⟩
    intro key stored
    change (mixer.audioOnlySources.erase _).find? key = _ → _
    rw [AssocMap.find?_erase]
    split
    · intro absent
      cases absent
    · exact placed.placeholder_placed key stored
  · exact placed

end Steps

section Detaches

/-- Apart from the list of sources and the layout the removals change nothing. -/
structure SameStreams (left right : MixerRegistry) : Prop where
  audioOnlySources : left.audioOnlySources = right.audioOnlySources
  videoToStreamInfo : left.videoToStreamInfo = right.videoToStreamInfo
  observing : left.observing = right.observing
  pendingDetaches : left.pendingDetaches = right.pendingDetaches
  stableOrder : left.stableOrder = right.stableOrder
  nextStableIndex : left.nextStableIndex = right.nextStableIndex

private theorem removeSource_spec (mixer : MixerRegistry) (source : FrameSource) :
    SameStreams (mixer.removeSource source) mixer ∧
      ∀ item, item ∈ (mixer.removeSource source).sources.items ↔
        item ∈ mixer.sources.items ∧ item.source ≠ source := by
  unfold removeSource
  split
  · exact ⟨⟨rfl, rfl, rfl, rfl, rfl, rfl⟩, fun item => mixer.sources.mem_remove⟩
  · rename_i absent
    refine ⟨⟨rfl, rfl, rfl, rfl, rfl, rfl⟩, fun item => ?_⟩
    constructor
    · intro listed
      refine ⟨listed, ?_⟩
      intro same
      apply absent
      unfold SourceList.has
      rw [List.any_eq_true]
      exact ⟨item, listed, by simpa using same⟩
    · exact And.left

theorem removeSources_spec (leaving : List FrameSource) (mixer : MixerRegistry) :
    SameStreams (leaving.foldl removeSource mixer) mixer ∧
      ∀ item, item ∈ (leaving.foldl removeSource mixer).sources.items ↔
        item ∈ mixer.sources.items ∧ item.source ∉ leaving := by
  induction leaving generalizing mixer with
  | nil => exact ⟨⟨rfl, rfl, rfl, rfl, rfl, rfl⟩, by simp⟩
  | cons source later ih =>
    obtain ⟨first, firstMembers⟩ := removeSource_spec mixer source
    obtain ⟨others, otherMembers⟩ := ih (mixer.removeSource source)
    constructor
    · exact ⟨others.1.trans first.1, others.2.trans first.2, others.3.trans first.3,
        others.4.trans first.4, others.5.trans first.5, others.6.trans first.6⟩
    · intro item
      rw [List.foldl_cons, otherMembers, firstMembers, List.mem_cons, not_or, and_assoc]

variable (mixer : MixerRegistry)

private theorem mem_processed :
    item ∈ mixer.processPendingDetaches.sources.items ↔
      item ∈ mixer.sources.items ∧ item.source ∉ mixer.pendingDetaches :=
  (removeSources_spec mixer.pendingDetaches _).2 item

theorem processed_same :
    SameStreams mixer.processPendingDetaches { mixer with pendingDetaches := [] } :=
  (removeSources_spec mixer.pendingDetaches _).1

variable {mixer}

theorem Placed.processPendingDetaches (placed : mixer.Placed) :
    mixer.processPendingDetaches.Placed := by
  obtain ⟨placeholders, streams, observing, leaving, order, counter⟩ := processed_same mixer
  constructor
  · rw [order, counter]
    exact placed.indexed
  · intro item listed
    obtain ⟨old, staying⟩ := (mem_processed mixer).mp listed
    right
    rw [streams, order]
    exact (placed.source_placed item old).resolve_left staying
  · intro item listed
    obtain ⟨old, staying⟩ := (mem_processed mixer).mp listed
    left
    rw [observing]
    exact (placed.source_watched item old).resolve_right staying
  · rw [placeholders, order]
    exact placed.placeholder_placed

end Detaches

/-! ### The order over whole runs -/

section Runs

variable {mixer : MixerRegistry}

theorem Placed.step (placed : mixer.Placed) (event : Event)
    (admissible : mixer.keepsStreams event = true) : (mixer.step event).Placed := by
  cases event with
  | attachVideo source callId streamId => exact placed.attachVideo admissible
  | detachVideo source => exact placed.detachVideo source
  | detach source => exact placed.detach source
  | addAudioOnlySource callId streamId overlayLabel =>
    exact placed.addAudioOnlySource callId streamId overlayLabel
  | removeAudioOnlySource callId streamId => exact placed.removeAudioOnlySource callId streamId
  | process => exact placed.processPendingDetaches

private theorem detach_stableOrder (mixer : MixerRegistry) (source : FrameSource) :
    (mixer.detach source).stableOrder = mixer.stableOrder := by
  unfold detach
  split <;> rfl

private theorem extends_attached (mixer : MixerRegistry) (source : FrameSource) :
    Extends (mixer.attached source).stableOrder mixer.stableOrder := by
  unfold attached
  split
  · exact extends_registerStream _
  · exact fun _ _ found => found

private theorem extends_step (mixer : MixerRegistry) (event : Event) :
    Extends (mixer.step event).stableOrder mixer.stableOrder := by
  cases event with
  | attachVideo source callId streamId =>
    change Extends (mixer.attachVideo source callId streamId).stableOrder _
    unfold attachVideo attach
    split
    · exact fun _ _ found => found
    · exact extends_attached _ source
  | detachVideo source =>
    change Extends (mixer.detachVideo source).stableOrder _
    unfold detachVideo leaveActive
    split
    · exact fun _ _ found => found
    · split <;> (rw [detach_stableOrder]; exact fun _ _ found => found)
  | detach source =>
    change Extends (mixer.detach source).stableOrder _
    rw [detach_stableOrder]
    exact fun _ _ found => found
  | addAudioOnlySource callId streamId overlayLabel =>
    change Extends (mixer.addAudioOnlySource callId streamId overlayLabel).stableOrder _
    unfold addAudioOnlySource
    split
    · exact fun _ _ found => found
    · exact extends_registerStream _
  | removeAudioOnlySource callId streamId =>
    change Extends (mixer.removeAudioOnlySource callId streamId).stableOrder _
    unfold removeAudioOnlySource
    split <;> exact fun _ _ found => found
  | process =>
    change Extends mixer.processPendingDetaches.stableOrder _
    rw [(processed_same mixer).stableOrder]
    exact fun _ _ found => found

private theorem extends_after (mixer : MixerRegistry) (events : List Event) :
    Extends (Run.after step mixer events).stableOrder mixer.stableOrder := by
  induction events generalizing mixer with
  | nil => exact fun _ _ found => found
  | cons event later ih =>
    intro stream index found
    exact ih (mixer.step event) stream index (extends_step mixer event stream index found)

def PendingItem.participantStream (item : PendingItem) : String := videoStreamId item.streamId

theorem Placed.drawn (placed : mixer.Placed) {item : PendingItem}
    (drawn : item ∈ mixer.processPendingDetaches.pending) :
    mixer.stableOrder.find? item.participantStream = some item.stableIndex := by
  have after := placed.processPendingDetaches
  have order : mixer.processPendingDetaches.stableOrder = mixer.stableOrder :=
    (processed_same mixer).stableOrder
  rw [← order]
  rcases List.mem_append.mp drawn with video | placeholder
  · obtain ⟨source, listed, rfl⟩ := List.mem_map.mp video
    rcases after.source_placed source listed with leaving | ⟨info, found, index⟩
    · rw [(processed_same mixer).pendingDetaches] at leaving
      cases leaving
    · have stream : (mixer.processPendingDetaches.streamInfo source.source).streamId =
          info.streamId := by
        unfold streamInfo
        rw [found]
        rfl
      change _ = some source.stableIndex
      rw [← index]
      unfold PendingItem.participantStream videoItem
      rw [stream]
  · obtain ⟨entry, listed, rfl⟩ := List.mem_map.mp placeholder
    exact after.placeholder_placed entry.1 entry.2
      ((AssocMap.mem_entries_iff _ _ _).mp listed)

theorem Placed.indices_of_before (placed : mixer.Placed) {order : List PendingItem}
    (pass : mixer.processPendingDetaches.PassOrder order) {left right : String}
    (before : List.Sublist [left, right] (order.map PendingItem.participantStream)) :
    ∃ leftIndex rightIndex, mixer.stableOrder.find? left = some leftIndex ∧
      mixer.stableOrder.find? right = some rightIndex ∧ leftIndex ≤ rightIndex := by
  obtain ⟨items, inside, names⟩ := List.sublist_map_iff.mp before
  match items, names with
  | [first, second], names =>
    simp only [List.map_cons, List.map_nil, List.cons.injEq, and_true] at names
    have drawn : ∀ item ∈ [first, second], item ∈ mixer.processPendingDetaches.pending :=
      fun item member => pass.complete.mem_iff.mp (inside.subset member)
    have sorted := pass.sorted.sublist inside
    rw [List.pairwise_pair] at sorted
    refine ⟨first.stableIndex, second.stableIndex, ?_, ?_, sorted⟩
    · rw [names.1]
      exact placed.drawn (drawn first List.mem_cons_self)
    · rw [names.2]
      exact placed.drawn (drawn second (List.mem_cons_of_mem first List.mem_cons_self))

private theorem placed_initially : Placed {} := by
  constructor
  · constructor
    · intro stream index absent
      cases absent
    · intro left right index absent
      cases absent
  · intro item absent
    cases absent
  · intro item absent
    cases absent
  · intro key stored absent
    cases absent

private theorem placed_after (events : List Event)
    (kept : Run.Guarded step (fun mixer event => mixer.keepsStreams event = true) {} events) :
    (Run.after step {} events).Placed :=
  (Run.always_of_guarded (fun _ event placed admissible => placed.step event admissible)
    placed_initially kept).last

theorem streams_keep_their_order (first second : List Event)
    (kept : Run.Guarded step (fun mixer event => mixer.keepsStreams event = true) {}
      (first ++ second))
    (earlier later : List PendingItem)
    (earlierPass : (Run.after step {} first).processPendingDetaches.PassOrder earlier)
    (laterPass : (Run.after step {} (first ++ second)).processPendingDetaches.PassOrder later)
    {left right : String} (different : left ≠ right)
    (before : List.Sublist [left, right] (earlier.map PendingItem.participantStream)) :
    ¬ List.Sublist [right, left] (later.map PendingItem.participantStream) := by
  intro turned
  obtain ⟨leftIndex, rightIndex, leftFound, rightFound, below⟩ :=
    (placed_after first kept.of_append).indices_of_before earlierPass before
  obtain ⟨rightLater, leftLater, rightFoundLater, leftFoundLater, above⟩ :=
    (placed_after (first ++ second) kept).indices_of_before laterPass turned
  have grown := extends_after (Run.after step {} first) second
  rw [← Run.after_append] at grown
  -- The indices are those of the earlier pass, so they are equal.
  have leftSame : leftLater = leftIndex :=
    Option.some.inj (leftFoundLater.symm.trans (grown left leftIndex leftFound))
  have rightSame : rightLater = rightIndex :=
    Option.some.inj (rightFoundLater.symm.trans (grown right rightIndex rightFound))
  have equal : leftIndex = rightIndex := by omega
  apply different
  rw [← equal] at rightFound
  exact (placed_after first kept.of_append).indexed.distinct left right leftIndex
    leftFound rightFound

/-- The first of two participants is held and comes back. -/
theorem held_participant_keeps_its_order :
    (Run.Guarded step (fun mixer event => mixer.keepsStreams event = true) {}
      ([.attachVideo 1 "c1" "c1_video_0", .attachVideo 2 "c2" "c2_video_0"] ++
        [.process, .addAudioOnlySource "c1" "c1_audio_0" "", .detachVideo 1, .process])) ∧
    ¬ List.Sublist ["c2_video_0", "c1_video_0"]
      ([⟨0, none, "c1_audio_0"⟩, ⟨1, some 2, "c2_video_0"⟩].map PendingItem.participantStream) :=
  ⟨by decide +kernel,
    streams_keep_their_order
      [.attachVideo 1 "c1" "c1_video_0", .attachVideo 2 "c2" "c2_video_0"]
      [.process, .addAudioOnlySource "c1" "c1_audio_0" "", .detachVideo 1, .process]
      (by decide +kernel)
      [⟨0, some 1, "c1_video_0"⟩, ⟨1, some 2, "c2_video_0"⟩]
      [⟨0, none, "c1_audio_0"⟩, ⟨1, some 2, "c2_video_0"⟩]
      ⟨by decide +kernel, by decide⟩ ⟨by decide +kernel, by decide⟩ (by decide)
      (by decide +kernel)⟩

/-- An input that is attached twice is drawn in the place of its first stream. -/
theorem input_attached_twice_changes_order :
    ∃ earlier later,
      (Run.after step {} [.attachVideo 1 "" "host_video_0", .attachVideo 2 "c1" "c1_video_0",
        .attachVideo 1 "" "host_video_1"]).processPendingDetaches.PassOrder earlier ∧
      (Run.after step {} [.attachVideo 1 "" "host_video_0", .attachVideo 2 "c1" "c1_video_0",
        .attachVideo 1 "" "host_video_1", .process, .detachVideo 1,
        .attachVideo 3 "" "host_video_1"]).processPendingDetaches.PassOrder later ∧
      List.Sublist ["host_video_1", "c1_video_0"] (earlier.map PendingItem.participantStream) ∧
      List.Sublist ["c1_video_0", "host_video_1"] (later.map PendingItem.participantStream) := by
  refine ⟨[⟨0, some 1, "host_video_1"⟩, ⟨1, some 2, "c1_video_0"⟩],
    [⟨1, some 2, "c1_video_0"⟩, ⟨2, some 3, "host_video_1"⟩], ?_, ?_, ?_, ?_⟩
  · exact ⟨by decide +kernel, by decide⟩
  · exact ⟨by decide +kernel, by decide⟩
  · decide +kernel
  · decide +kernel

end Runs

end MixerRegistry
end SipCore
