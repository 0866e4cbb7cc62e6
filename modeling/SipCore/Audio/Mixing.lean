/-
Mixing the frames of several ring buffers. `AudioFrame::mix` adds sample by sample
and cuts every sum to sixteen bits. A set of bindings is ordered by the addresses of
its owners, so any order of the buffers may be the one they are mixed in.
-/

import SipCore.Audio.PoolData
import SipCore.Library.ClampedSum

namespace SipCore.Audio

open ClampedSum (clamp fold above below)

inductive AVSampleFormat where
  | u8 | s16 | s32 | flt | dbl
  | u8p | s16p | s32p | fltp | dblp
  | s64 | s64p
  deriving DecidableEq, Repr

def AVSampleFormat.isPlanar : AVSampleFormat → Bool
  | .u8p | .s16p | .s32p | .fltp | .dblp | .s64p => true
  | .u8 | .s16 | .s32 | .flt | .dbl | .s64 => false

def AVSampleFormat.name : AVSampleFormat → String
  | .u8 => "u8" | .s16 => "s16" | .s32 => "s32" | .flt => "flt" | .dbl => "dbl"
  | .u8p => "u8p" | .s16p => "s16p" | .s32p => "s32p" | .fltp => "fltp" | .dblp => "dblp"
  | .s64 => "s64" | .s64p => "s64p"

def AVSampleFormat.isS16 (format : AVSampleFormat) : Bool := format = .s16 ∨ format = .s16p

def AVSampleFormat.isFlt (format : AVSampleFormat) : Bool := format = .flt ∨ format = .fltp

structure AudioFormat where
  sampleRate : Nat
  nbChannels : Nat
  sampleFormat : AVSampleFormat
  deriving DecidableEq, Repr

def AudioFormat.channels (format : AudioFormat) : Nat :=
  if format.sampleFormat.isPlanar then format.nbChannels else 1

def AudioFormat.samplesPerChannel (format : AudioFormat) (nbSamples : Nat) : Nat :=
  if format.sampleFormat.isPlanar then nbSamples else nbSamples * format.nbChannels

/-- A frame with its samples in both readings of its memory, by array and position;
`φ` are the floating point numbers. -/
structure AudioFrame (φ : Type) where
  format : AudioFormat
  nbSamples : Nat
  dataS16 : Nat → Nat → Int16
  dataFlt : Nat → Nat → φ
  hasVoice : Bool

variable {φ : Type} [Zero φ] [Add φ]

def AudioFrame.create (format : AudioFormat) : AudioFrame φ :=
  ⟨format, 0, fun _ _ => 0, fun _ _ => 0, false⟩

def AudioFrame.silence (frame : AudioFrame φ) (nbSamples : Nat) : AudioFrame φ :=
  { frame with nbSamples := nbSamples, dataS16 := fun _ _ => 0, dataFlt := fun _ _ => 0 }

def addClamped (left right : Int16) : Int16 :=
  Int16.ofInt (clamp (-32768) 32767 (left.toInt + right.toInt))

def AudioFrame.overSamples {σ : Type} (frame : AudioFrame φ) (change : σ → σ → σ)
    (data dataIn : Nat → Nat → σ) : Nat → Nat → σ := fun channel sample =>
  if channel < frame.format.channels ∧ sample < frame.format.samplesPerChannel frame.nbSamples then
    change (data channel sample) (dataIn channel sample)
  else data channel sample

def AudioFrame.addSamples (frame frameIn : AudioFrame φ) : Except String (AudioFrame φ) :=
  if frame.format.sampleFormat.isS16 then
    .ok { frame with dataS16 := frame.overSamples addClamped frame.dataS16 frameIn.dataS16 }
  else if frame.format.sampleFormat.isFlt then
    .ok { frame with dataFlt := frame.overSamples (· + ·) frame.dataFlt frameIn.dataFlt }
  else .error ("Unsupported format for mixing: " ++ frame.format.sampleFormat.name)

def AudioFrame.mix (frame frameIn : AudioFrame φ) : Except String (AudioFrame φ) :=
  if frame.format.nbChannels ≠ frameIn.format.nbChannels ∨
      frame.format.sampleFormat ≠ frameIn.format.sampleFormat ∨
      frame.format.sampleRate ≠ frameIn.format.sampleRate then
    .error "Can't mix frames with different formats"
  else if frame.nbSamples = 0 then
    (frame.silence frameIn.nbSamples).addSamples frameIn
  else if frame.nbSamples ≠ frameIn.nbSamples then
    .error "Can't mix frames with different length"
  else frame.addSamples frameIn

def frameMixer (internalAudioFormat : AudioFormat) : Mixer (AudioFrame φ) where
  blank := AudioFrame.create internalAudioFormat
  mix mixBuffer frame :=
    (mixBuffer.mix frame).map fun mixture =>
      { mixture with hasVoice := mixture.hasVoice || frame.hasVoice }

private theorem addClamped_toInt (left right : Int16) :
    (addClamped left right).toInt = clamp (-32768) 32767 (left.toInt + right.toInt) := by
  apply Int16.toInt_ofInt_of_le
  · exact le_max_left _ _
  · unfold clamp
    omega

def AudioFrame.sofar (frame : AudioFrame φ) (channel sample : Nat) : Int :=
  if frame.nbSamples = 0 then 0 else (frame.dataS16 channel sample).toInt

theorem format_eq_of_fields {left right : AudioFormat} (channels : left.nbChannels = right.nbChannels)
    (format : left.sampleFormat = right.sampleFormat) (rate : left.sampleRate = right.sampleRate) :
    left = right := by
  cases left
  cases right
  simp only at channels format rate
  rw [channels, format, rate]

theorem mix_other_format {frame frameIn : AudioFrame φ} (differ : frame.format ≠ frameIn.format) :
    frame.mix frameIn = .error "Can't mix frames with different formats" := by
  unfold AudioFrame.mix
  rw [if_pos]
  by_contra same
  rw [not_or, not_or, not_not, not_not, not_not] at same
  exact differ (format_eq_of_fields same.1 same.2.1 same.2.2)

structure MixedIn (mixBuffer frame mixture : AudioFrame φ) : Prop where
  format : mixture.format = mixBuffer.format
  nbSamples : mixture.nbSamples = frame.nbSamples
  sample : ∀ channel < mixBuffer.format.channels,
    ∀ sample < mixBuffer.format.samplesPerChannel frame.nbSamples,
      (mixture.dataS16 channel sample).toInt =
        clamp (-32768) 32767
          (mixBuffer.sofar channel sample + (frame.dataS16 channel sample).toInt)

omit [Zero φ] in
theorem addSamples_s16 (frame frameIn : AudioFrame φ)
    (signed : frame.format.sampleFormat.isS16 = true) :
    ∃ mixture, frame.addSamples frameIn = .ok mixture ∧ mixture.format = frame.format ∧
      mixture.nbSamples = frame.nbSamples ∧
      ∀ channel < frame.format.channels,
        ∀ sample < frame.format.samplesPerChannel frame.nbSamples,
          (mixture.dataS16 channel sample).toInt = clamp (-32768) 32767
            ((frame.dataS16 channel sample).toInt + (frameIn.dataS16 channel sample).toInt) := by
  refine ⟨_, if_pos signed, rfl, rfl, ?_⟩
  intro channel inChannels sample inSamples
  change (frame.overSamples addClamped frame.dataS16 frameIn.dataS16 channel sample).toInt = _
  rw [AudioFrame.overSamples, if_pos ⟨inChannels, inSamples⟩, addClamped_toInt]

private theorem mix_s16 {mixBuffer frame : AudioFrame φ} (format : frame.format = mixBuffer.format)
    (signed : mixBuffer.format.sampleFormat.isS16 = true)
    (length : mixBuffer.nbSamples = 0 ∨ mixBuffer.nbSamples = frame.nbSamples) :
    ∃ mixture, mixBuffer.mix frame = .ok mixture ∧ MixedIn mixBuffer frame mixture := by
  unfold AudioFrame.mix
  rw [if_neg (by rw [format]; simp)]
  by_cases empty : mixBuffer.nbSamples = 0
  · rw [if_pos empty]
    obtain ⟨mixture, added, sameFormat, sameLength, samples⟩ :=
      addSamples_s16 (mixBuffer.silence frame.nbSamples) frame signed
    refine ⟨mixture, added, sameFormat, sameLength, ?_⟩
    intro channel inChannels sample inSamples
    rw [samples channel inChannels sample inSamples, AudioFrame.sofar, if_pos empty]
    rfl
  · have equal : mixBuffer.nbSamples = frame.nbSamples := length.resolve_left empty
    rw [if_neg empty, if_neg (not_not.mpr equal)]
    obtain ⟨mixture, added, sameFormat, sameLength, samples⟩ :=
      addSamples_s16 mixBuffer frame signed
    refine ⟨mixture, added, sameFormat, sameLength.trans equal, ?_⟩
    intro channel inChannels sample inSamples
    rw [← equal] at inSamples
    rw [samples channel inChannels sample inSamples, AudioFrame.sofar, if_neg empty]

private theorem frameMixer_mix_s16 (internal : AudioFormat) {mixBuffer frame : AudioFrame φ}
    (format : frame.format = mixBuffer.format)
    (signed : mixBuffer.format.sampleFormat.isS16 = true)
    (length : mixBuffer.nbSamples = 0 ∨ mixBuffer.nbSamples = frame.nbSamples) :
    ∃ mixture, (frameMixer internal).mix mixBuffer frame = .ok mixture ∧
      MixedIn mixBuffer frame mixture := by
  obtain ⟨mixture, mixed, mixedIn⟩ := mix_s16 format signed length
  refine ⟨{ mixture with hasVoice := mixture.hasVoice || frame.hasVoice }, ?_, ?_⟩
  · change (mixBuffer.mix frame).map _ = _
    rw [mixed]
    rfl
  · exact ⟨mixedIn.format, mixedIn.nbSamples, mixedIn.sample⟩

omit [Zero φ] [Add φ] in
theorem sofar_of_sample {frame : AudioFrame φ} {format : AudioFormat} {nbSamples : Nat}
    (length : frame.nbSamples = nbSamples) {channel sample : Nat}
    (inSamples : sample < format.samplesPerChannel nbSamples) :
    frame.sofar channel sample = (frame.dataS16 channel sample).toInt := by
  rw [AudioFrame.sofar, if_neg]
  rw [length]
  intro zero
  rw [zero, AudioFormat.samplesPerChannel, Nat.zero_mul, ite_self] at inSamples
  exact Nat.not_lt_zero _ inSamples

/-! ### All frames of a reader -/

def mixAll {α : Type} (mixer : Mixer α) : List α → α → Except String α
  | [], mixBuffer => .ok mixBuffer
  | frame :: rest, mixBuffer =>
    match mixer.mix mixBuffer frame with
    | .error message => .error message
    | .ok mixture => mixAll mixer rest mixture

private theorem mixAll_s16 (internal : AudioFormat) {nbSamples : Nat} (frames : List (AudioFrame φ))
    (mixBuffer : AudioFrame φ) (signed : mixBuffer.format.sampleFormat.isS16 = true)
    (fit : ∀ frame ∈ frames, frame.format = mixBuffer.format ∧ frame.nbSamples = nbSamples)
    (length : mixBuffer.nbSamples = 0 ∨ mixBuffer.nbSamples = nbSamples) :
    ∃ mixture, mixAll (frameMixer internal) frames mixBuffer = .ok mixture ∧
      (mixBuffer.nbSamples = nbSamples ∨ frames ≠ [] → mixture.nbSamples = nbSamples) ∧
      ∀ channel < mixBuffer.format.channels,
        ∀ sample < mixBuffer.format.samplesPerChannel nbSamples,
          mixture.sofar channel sample = fold (-32768) 32767 (mixBuffer.sofar channel sample)
            (frames.map fun frame => (frame.dataS16 channel sample).toInt) := by
  induction frames generalizing mixBuffer with
  | nil =>
    refine ⟨mixBuffer, rfl, ?_, fun _ _ _ _ => rfl⟩
    exact fun either => either.resolve_right fun some_frame => some_frame rfl
  | cons frame rest ih =>
    obtain ⟨format, frameLength⟩ := fit frame List.mem_cons_self
    obtain ⟨next, mixed, mixedIn⟩ := frameMixer_mix_s16 internal format signed
      (by rw [frameLength]; exact length)
    have nextFit : ∀ later ∈ rest, later.format = next.format ∧ later.nbSamples = nbSamples := by
      rw [mixedIn.format]
      exact fun later member => fit later (List.mem_cons_of_mem frame member)
    have nextLength := mixedIn.nbSamples.trans frameLength
    obtain ⟨mixture, result, final, samples⟩ :=
      ih next (by rw [mixedIn.format]; exact signed) nextFit (.inr nextLength)
    refine ⟨mixture, ?_, fun _ => final (.inl nextLength), ?_⟩
    · rw [mixAll, mixed]
      exact result
    · intro channel inChannels sample inSamples
      rw [mixedIn.format] at samples
      rw [samples channel inChannels sample inSamples]
      rw [sofar_of_sample nextLength inSamples,
        mixedIn.sample channel inChannels sample (by rw [frameLength]; exact inSamples)]
      rfl

end SipCore.Audio

namespace SipCore.RingBufferPool

variable {α : Type}

theorem takeFrame_frame (pool : RingBufferPool α) (rbuf callId : String)
    (filterPlayback filterMic : Bool) :
    (pool.takeFrame rbuf callId filterPlayback filterMic).1 =
      if filterPlayback && pool.localPlaybackMutedIds.contains rbuf then none
      else if filterMic && rbuf == defaultId then none
      else (pool.ringBufferMap.find? rbuf).bind fun ring => (ring.get callId).1 := by
  unfold takeFrame skipMutedBuffer
  by_cases muted : filterPlayback && pool.localPlaybackMutedIds.contains rbuf
  · rw [if_pos muted, if_pos muted]
  · rw [if_neg muted, if_neg muted]
    by_cases microphone : filterMic && rbuf == defaultId
    · rw [if_pos microphone, if_pos microphone]
    · rw [if_neg microphone, if_neg microphone]
      rfl

private theorem takeFrame_leaves (pool : RingBufferPool α) (rbuf callId : String)
    (filterPlayback filterMic : Bool) :
    (pool.takeFrame rbuf callId filterPlayback filterMic).2.localPlaybackMutedIds =
        pool.localPlaybackMutedIds ∧
      ∀ other, other ≠ rbuf →
        (pool.takeFrame rbuf callId filterPlayback filterMic).2.ringBufferMap.find? other =
          pool.ringBufferMap.find? other := by
  have read : ∀ other, other ≠ rbuf →
      (pool.getFrom rbuf callId).2.ringBufferMap.find? other = pool.ringBufferMap.find? other := by
    intro other different
    exact (AssocMap.find?_modify _ _ _ _).trans (if_neg different)
  unfold takeFrame skipMutedBuffer
  by_cases muted : filterPlayback && pool.localPlaybackMutedIds.contains rbuf
  · rw [if_pos muted]
    exact ⟨rfl, fun _ _ => rfl⟩
  · rw [if_neg muted]
    by_cases microphone : filterMic && rbuf == defaultId
    · rw [if_pos microphone]
      exact ⟨rfl, read⟩
    · rw [if_neg microphone]
      exact ⟨rfl, read⟩

theorem takeFrame_other (pool : RingBufferPool α) {rbuf other : String} (different : other ≠ rbuf)
    (callId : String) (filterPlayback filterMic : Bool) :
    ((pool.takeFrame rbuf callId filterPlayback filterMic).2.takeFrame other callId filterPlayback
      filterMic).1 = (pool.takeFrame other callId filterPlayback filterMic).1 := by
  obtain ⟨muted, rings⟩ := takeFrame_leaves pool rbuf callId filterPlayback filterMic
  rw [takeFrame_frame, takeFrame_frame, muted, rings other different]

theorem mixFrom_delivered (mixer : Mixer α) (callId : String) (filterPlayback filterMic : Bool)
    {frameOf : String → α} (bindings : List String) (mixBuffer : α) (mixed : Bool)
    (pool : RingBufferPool α) (distinct : bindings.Nodup)
    (delivers : ∀ rbuf ∈ bindings,
      (pool.takeFrame rbuf callId filterPlayback filterMic).1 = some (frameOf rbuf)) :
    (mixFrom mixer callId filterPlayback filterMic bindings mixBuffer mixed pool).1 =
      (Audio.mixAll mixer (bindings.map frameOf) mixBuffer).map
        fun mixture => (mixture, mixed || !bindings.isEmpty) := by
  induction bindings generalizing mixBuffer mixed pool with
  | nil =>
    rw [List.isEmpty_nil, Bool.not_true, Bool.or_false]
    rfl
  | cons rbuf rest ih =>
    obtain ⟨fresh, restDistinct⟩ := List.nodup_cons.mp distinct
    have frame := delivers rbuf List.mem_cons_self
    have later : ∀ other ∈ rest, ((pool.takeFrame rbuf callId filterPlayback
        filterMic).2.takeFrame other callId filterPlayback filterMic).1 =
          some (frameOf other) := by
      intro other member
      have different : other ≠ rbuf := fun same => fresh (same ▸ member)
      rw [takeFrame_other pool different]
      exact delivers other (List.mem_cons_of_mem rbuf member)
    rw [mixFrom, List.map_cons, Audio.mixAll]
    generalize pool.takeFrame rbuf callId filterPlayback filterMic = turn at frame later ⊢
    obtain ⟨taken, read⟩ := turn
    cases frame
    simp only
    cases mixture : mixer.mix mixBuffer (frameOf rbuf) with
    | error message => rfl
    | ok next =>
      rw [ih next true read restDistinct later, List.isEmpty_cons, Bool.not_false,
        Bool.or_true, Bool.true_or]

def delivered (pool : RingBufferPool α) (callId rbuf : String) : Option α :=
  (pool.takeFrame rbuf callId (pool.filterPlayback callId) (pool.filterMic callId)).1

theorem getData_delivered (mixer : Mixer α) (pool : RingBufferPool α) (callId : String)
    {frameOf : String → α} (several : 2 ≤ (pool.readBindings callId).length)
    (distinct : (pool.readBindings callId).Nodup)
    (delivers : ∀ rbuf ∈ pool.readBindings callId, pool.delivered callId rbuf = some (frameOf rbuf)) :
    (pool.getData mixer callId).1 =
      (Audio.mixAll mixer ((pool.readBindings callId).map frameOf) mixer.blank).map some := by
  have mixing := mixFrom_delivered mixer callId (pool.filterPlayback callId)
    (pool.filterMic callId) (pool.readBindings callId) mixer.blank false pool distinct delivers
  unfold getData
  generalize pool.readBindings callId = bindings at several mixing ⊢
  match bindings, several with
  | first :: second :: rest, _ =>
    simp only
    generalize mixFrom mixer callId (pool.filterPlayback callId) (pool.filterMic callId)
      (first :: second :: rest) mixer.blank false pool = outcome at mixing ⊢
    obtain ⟨result, read⟩ := outcome
    subst mixing
    cases Audio.mixAll mixer ((first :: second :: rest).map frameOf) mixer.blank with
    | error message => rfl
    | ok mixture => rfl

def reordered (pool : RingBufferPool α) (callId : String) (order : List String)
    (same : order.Perm (pool.readBindings callId)) : RingBufferPool α :=
  { pool with
    readBindingsMap := pool.readBindingsMap.modify callId fun _ => order
    boundAlive := by
      intro reader rbuf bound
      rw [AssocMap.find?_modify] at bound
      split at bound
      · cases found : pool.readBindingsMap.find? callId with
        | none =>
          rw [found] at bound
          cases bound
        | some bindings =>
          rw [found] at bound
          exact pool.boundAlive callId rbuf (same.mem_iff.mp bound)
      · exact pool.boundAlive reader rbuf bound }

theorem readBindings_reordered (pool : RingBufferPool α) (callId : String) (order : List String)
    (same : order.Perm (pool.readBindings callId)) :
    (pool.reordered callId order same).readBindings callId = order := by
  change ((pool.readBindingsMap.modify callId fun _ => order).find? callId).getD [] = order
  rw [AssocMap.find?_modify, if_pos rfl]
  cases found : pool.readBindingsMap.find? callId with
  | none =>
    rw [readBindings, found] at same
    exact (List.perm_nil.mp same).symm
  | some bindings => rfl

theorem delivered_reordered (pool : RingBufferPool α) (callId : String) (order : List String)
    (same : order.Perm (pool.readBindings callId)) (rbuf : String) :
    (pool.reordered callId order same).delivered callId rbuf = pool.delivered callId rbuf := by
  rw [delivered, delivered, takeFrame_frame, takeFrame_frame]
  rfl

end SipCore.RingBufferPool

namespace SipCore.Audio

open ClampedSum (clamp fold above below)

variable {φ : Type} [Zero φ] [Add φ]

def sampleOf (pool : RingBufferPool (AudioFrame φ)) (callId : String) (channel sample : Nat)
    (rbuf : String) : Int :=
  ((pool.delivered callId rbuf).map fun frame => (frame.dataS16 channel sample).toInt).getD 0

/-- `getData` gives a frame whose samples are the exact sums, each cut once. -/
def MixedExactly (internal format : AudioFormat) (nbSamples : Nat)
    (pool : RingBufferPool (AudioFrame φ)) (callId : String) : Prop :=
  ∃ mixture, (pool.getData (frameMixer internal) callId).1 = .ok (some mixture) ∧
    ∀ channel < format.channels, ∀ sample < format.samplesPerChannel nbSamples,
      (mixture.dataS16 channel sample).toInt =
        clamp (-32768) 32767
          ((pool.readBindings callId).map (sampleOf pool callId channel sample)).sum

def AllDeliver (format : AudioFormat) (nbSamples : Nat) (pool : RingBufferPool (AudioFrame φ))
    (callId : String) : Prop :=
  ∀ rbuf ∈ pool.readBindings callId,
    (pool.delivered callId rbuf).map (fun frame => (frame.format, frame.nbSamples)) =
      some (format, nbSamples)

def frameOf (pool : RingBufferPool (AudioFrame φ)) (callId : String) (other : AudioFrame φ)
    (rbuf : String) : AudioFrame φ :=
  (pool.delivered callId rbuf).getD other

section Delivered

omit [Zero φ] [Add φ]

variable {format : AudioFormat} {nbSamples : Nat} {pool : RingBufferPool (AudioFrame φ)}
  {callId : String}

theorem AllDeliver.frame (deliver : AllDeliver format nbSamples pool callId)
    (other : AudioFrame φ) {rbuf : String} (member : rbuf ∈ pool.readBindings callId) :
    pool.delivered callId rbuf = some (frameOf pool callId other rbuf) ∧
      (frameOf pool callId other rbuf).format = format ∧
      (frameOf pool callId other rbuf).nbSamples = nbSamples := by
  have fields := deliver rbuf member
  unfold frameOf
  cases found : pool.delivered callId rbuf with
  | none =>
    rw [found] at fields
    cases fields
  | some frame =>
    rw [found, Option.map_some, Option.some_inj, Prod.mk.injEq] at fields
    exact ⟨rfl, fields⟩

theorem AllDeliver.reordered (deliver : AllDeliver format nbSamples pool callId)
    {order : List String} (same : order.Perm (pool.readBindings callId)) :
    AllDeliver format nbSamples (pool.reordered callId order same) callId := by
  intro rbuf member
  rw [pool.readBindings_reordered] at member
  rw [pool.delivered_reordered]
  exact deliver rbuf (same.mem_iff.mp member)

private theorem sampleOf_reordered (pool : RingBufferPool (AudioFrame φ)) (callId : String)
    {order : List String} (same : order.Perm (pool.readBindings callId)) (channel sample : Nat) :
    sampleOf (pool.reordered callId order same) callId channel sample =
      sampleOf pool callId channel sample := by
  funext rbuf
  rw [sampleOf, sampleOf, pool.delivered_reordered]

end Delivered

theorem getData_s16 {internal : AudioFormat} {nbSamples : Nat}
    (pool : RingBufferPool (AudioFrame φ)) (callId : String)
    (signed : internal.sampleFormat.isS16 = true)
    (several : 2 ≤ (pool.readBindings callId).length)
    (distinct : (pool.readBindings callId).Nodup)
    (deliver : AllDeliver internal nbSamples pool callId) :
    ∃ mixture, (pool.getData (frameMixer internal) callId).1 = .ok (some mixture) ∧
      ∀ channel < internal.channels, ∀ sample < internal.samplesPerChannel nbSamples,
        (mixture.dataS16 channel sample).toInt = fold (-32768) 32767 0
          ((pool.readBindings callId).map (sampleOf pool callId channel sample)) := by
  have frames := fun rbuf (member : rbuf ∈ pool.readBindings callId) =>
    deliver.frame (AudioFrame.create internal) member
  generalize frameOf pool callId (AudioFrame.create internal) = frameOf at frames
  have fit : ∀ frame ∈ (pool.readBindings callId).map frameOf,
      frame.format = internal ∧ frame.nbSamples = nbSamples := by
    intro frame member
    obtain ⟨rbuf, bound, equal⟩ := List.mem_map.mp member
    rw [← equal]
    exact (frames rbuf bound).2
  have some_frame : (pool.readBindings callId).map frameOf ≠ [] := by
    intro none_bound
    rw [List.map_eq_nil_iff.mp none_bound] at several
    exact absurd several (by decide)
  obtain ⟨mixture, mixed, length, samples⟩ := mixAll_s16 internal
    ((pool.readBindings callId).map frameOf) (AudioFrame.create internal) signed fit (Or.inl rfl)
  refine ⟨mixture, ?_, ?_⟩
  · rw [pool.getData_delivered (frameMixer internal) callId several distinct
      fun rbuf member => (frames rbuf member).1]
    change (mixAll (frameMixer internal) _ (AudioFrame.create internal)).map some = _
    rw [mixed]
    rfl
  · intro channel inChannels sample inSamples
    rw [← sofar_of_sample (length (Or.inr some_frame)) inSamples,
      samples channel inChannels sample inSamples, List.map_map]
    congr 1
    apply List.map_congr_left
    intro rbuf member
    simp only [sampleOf, Function.comp_apply, (frames rbuf member).1, Option.map_some,
      Option.getD_some]

private theorem getData_other_format {internal format : AudioFormat} {nbSamples : Nat}
    (pool : RingBufferPool (AudioFrame φ)) (callId : String) (differ : format ≠ internal)
    (several : 2 ≤ (pool.readBindings callId).length)
    (distinct : (pool.readBindings callId).Nodup)
    (deliver : AllDeliver format nbSamples pool callId) :
    (pool.getData (frameMixer internal) callId).1 =
      .error "Can't mix frames with different formats" := by
  have frames := fun rbuf (member : rbuf ∈ pool.readBindings callId) =>
    deliver.frame (AudioFrame.create internal) member
  generalize frameOf pool callId (AudioFrame.create internal) = frameOf at frames
  rw [pool.getData_delivered (frameMixer internal) callId several distinct
    fun rbuf member => (frames rbuf member).1]
  cases bindings : pool.readBindings callId with
  | nil =>
    rw [bindings] at several
    exact absurd several (by decide)
  | cons rbuf rest =>
    have given : (frameOf rbuf).format = format := by
      apply (frames rbuf _).2.1
      rw [bindings]
      exact List.mem_cons_self
    have refused : (frameMixer internal).mix (frameMixer internal).blank (frameOf rbuf) =
        .error "Can't mix frames with different formats" := by
      change (AudioFrame.mix (AudioFrame.create internal) (frameOf rbuf)).map _ = _
      rw [mix_other_format]
      · rfl
      · rw [given]
        exact fun same => differ same.symm
    rw [List.map_cons, mixAll, refused]
    rfl

/-- The samples at one place do not depend on the order: one of the signs is missing,
or neither the positive nor the negative ones alone leave the range. -/
def Mixable (samples : List Int) : Prop :=
  below samples = 0 ∨ above samples = 0 ∨ above samples ≤ 32767 ∧ -32768 ≤ below samples

instance (samples : List Int) : Decidable (Mixable samples) :=
  inferInstanceAs (Decidable (_ ∨ _ ∨ _ ∧ _))

/-- In every order the mix of several buffers is exact, exactly when their frames have
the pool's format and the samples at every place are mixable. -/
theorem mixedExactly_in_every_order_iff (internal format : AudioFormat) (nbSamples : Nat)
    (pool : RingBufferPool (AudioFrame φ)) (callId : String)
    (signed : format.sampleFormat.isS16 = true)
    (several : 2 ≤ (pool.readBindings callId).length)
    (distinct : (pool.readBindings callId).Nodup)
    (deliver : AllDeliver format nbSamples pool callId) :
    (∀ (order : List String) (same : order.Perm (pool.readBindings callId)),
        MixedExactly internal format nbSamples (pool.reordered callId order same) callId) ↔
      format = internal ∧
        ∀ channel < format.channels, ∀ sample < format.samplesPerChannel nbSamples,
          Mixable ((pool.readBindings callId).map (sampleOf pool callId channel sample)) := by
  have severalIn : ∀ (order : List String) (same : order.Perm (pool.readBindings callId)),
      2 ≤ ((pool.reordered callId order same).readBindings callId).length := by
    intro order same
    rw [pool.readBindings_reordered, same.length_eq]
    exact several
  have distinctIn : ∀ (order : List String) (same : order.Perm (pool.readBindings callId)),
      ((pool.reordered callId order same).readBindings callId).Nodup := by
    intro order same
    rw [pool.readBindings_reordered]
    exact same.nodup_iff.mpr distinct
  by_cases differ : format = internal
  swap
  · constructor
    · intro everywhere
      obtain ⟨mixture, result, _⟩ := everywhere _ (List.Perm.refl _)
      rw [getData_other_format _ callId differ (severalIn _ _) (distinctIn _ _)
        (deliver.reordered _)] at result
      cases result
    · exact fun both => absurd both.1 differ
  subst differ
  -- What every order gives, as a sum with a cut after each addition.
  have folded := fun (order : List String) (same : order.Perm (pool.readBindings callId)) =>
    getData_s16 (pool.reordered callId order same) callId signed (severalIn order same)
      (distinctIn order same) (deliver.reordered same)
  simp only [pool.readBindings_reordered, sampleOf_reordered] at folded
  constructor
  · intro everywhere
    refine ⟨rfl, fun channel inChannels sample inSamples => ?_⟩
    apply (ClampedSum.forall_perm_fold_iff (by decide) (by decide) _ _).mp
    intro order same
    obtain ⟨mixture, result, samples⟩ := folded order same
    obtain ⟨other, otherResult, exact_samples⟩ := everywhere order same
    rw [result] at otherResult
    cases otherResult
    rw [← samples channel inChannels sample inSamples,
      exact_samples channel inChannels sample inSamples, pool.readBindings_reordered,
      sampleOf_reordered, (same.map _).sum_eq]
  · rintro ⟨_, mixable⟩ order same
    obtain ⟨mixture, result, samples⟩ := folded order same
    refine ⟨mixture, result, fun channel inChannels sample inSamples => ?_⟩
    rw [samples channel inChannels sample inSamples, pool.readBindings_reordered,
      sampleOf_reordered, (same.map _).sum_eq]
    exact (ClampedSum.forall_perm_fold_iff (by decide) (by decide) _ _).mpr
      (mixable channel inChannels sample inSamples) order same

def monoFormat : AudioFormat := ⟨48000, 1, .s16⟩

def oneSample (value : Int16) : AudioFrame Int :=
  ⟨monoFormat, 1, fun _ _ => value, fun _ _ => 0, false⟩

def boundPool (inputs : List (String × Int16)) : RingBufferPool (AudioFrame Int) :=
  let bound := inputs.foldl
    (fun pool input => (pool.createRingBuffer input.1).bindHalfDuplexOut "call" input.1)
    RingBufferPool.create
  inputs.foldl (fun pool input => pool.put input.1 (oneSample input.2)) bound

theorem mixedExactly_in_every_order_of_two :
    2 ≤ ((boundPool [("a", 30000), ("b", 20000)]).readBindings "call").length ∧
      ∀ (order : List String)
        (same : order.Perm ((boundPool [("a", 30000), ("b", 20000)]).readBindings "call")),
        MixedExactly monoFormat monoFormat 1
          ((boundPool [("a", 30000), ("b", 20000)]).reordered "call" order same) "call" := by
  constructor
  · decide +kernel
  · apply (mixedExactly_in_every_order_iff monoFormat monoFormat 1
      (boundPool [("a", 30000), ("b", 20000)]) "call" rfl ?_ ?_ ?_).mpr
    · exact ⟨rfl, by decide +kernel⟩
    · decide +kernel
    · decide +kernel
    · unfold AllDeliver
      decide +kernel

/-- The loudest sample, one more and one less: the cut after the second is not made
good by the third. -/
theorem three_buffers_mixed_inexactly :
    2 ≤ ((boundPool [("a", -1), ("b", 1), ("c", 32767)]).readBindings "call").length ∧
      AllDeliver monoFormat 1 (boundPool [("a", -1), ("b", 1), ("c", 32767)]) "call" ∧
      ¬ MixedExactly monoFormat monoFormat 1
        (boundPool [("a", -1), ("b", 1), ("c", 32767)]) "call" := by
  refine ⟨by decide +kernel, ?_, ?_⟩
  · unfold AllDeliver
    decide +kernel
  · rintro ⟨mixture, result, samples⟩
    have mixed := samples 0 (by decide) 0 (by decide)
    have sample : ((boundPool [("a", -1), ("b", 1), ("c", 32767)]).getData
        (frameMixer monoFormat) "call").1.toOption.join.map
          (fun frame => (frame.dataS16 0 0).toInt) = some 32766 := by
      decide +kernel
    rw [result] at sample
    have value : (mixture.dataS16 0 0).toInt = 32766 := Option.some_inj.mp sample
    rw [value] at mixed
    exact absurd mixed (by decide)

end SipCore.Audio
