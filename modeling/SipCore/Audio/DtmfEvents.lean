/-
Telephone events of the audio sender. While digits are queued, each audio frame that
arrives makes the sender build one event packet instead of encoding the frame. The
duration field has sixteen bits and a long event is never split.

The product of the requested seconds and the sample rate, converted to an unsigned
integer, is an argument. The builder's second reading of the clock is the one of the
caller.
-/

import SipCore.Library.GuardedRun
import Mathlib.Algebra.Order.Floor.Div
import Mathlib.Algebra.BigOperators.Group.List.Basic

namespace SipCore.DtmfEvents

structure Dtmf where
  event : Nat
  duration : Nat
  requestedDuration : Nat
  volume : Nat
  samplesPerPacket : Nat
  eBitRetransmissions : Nat
  firstSent : Bool
deriving DecidableEq, Repr

structure RtpDtmfPayload where
  event : Nat
  volume : Nat
  duration : Nat
deriving DecidableEq, Repr

structure SentBuffer where
  dtmfBytes : Nat × Nat × Nat × Nat
  samples : Nat
  flags : Nat
deriving DecidableEq, Repr

structure AudioSender where
  sampleRate : Nat
  txDtmfQueue : List Dtmf
  nextDigitEarliest : Nat
  sentSamples : Nat
deriving DecidableEq, Repr

def AudioSender.create (sampleRate : Nat) : AudioSender :=
  { sampleRate := sampleRate, txDtmfQueue := [], nextDigitEarliest := 0, sentSamples := 0 }

def maxDtmfVolume : Nat := 55

def interDigitGapMs : Nat := 300

def tolower (c : UInt8) : Nat :=
  if 'A'.toNat ≤ c.toNat ∧ c.toNat ≤ 'Z'.toNat then c.toNat + 32 else c.toNat

def eventCode (dig : Nat) : Option Nat :=
  if '0'.toNat ≤ dig ∧ dig ≤ '9'.toNat then some (dig - '0'.toNat)
  else if 'a'.toNat ≤ dig ∧ dig ≤ 'd'.toNat then some (dig - 'a'.toNat + 12)
  else if dig = '*'.toNat then some 10
  else if dig = '#'.toNat then some 11
  else if dig = 'r'.toNat then some 16
  else none

def newDigit (sampleRate durationSamples volume event : Nat) : Dtmf :=
  { event := event
    duration := 0
    requestedDuration := max durationSamples (sampleRate / 10)
    volume := min volume maxDtmfVolume
    samplesPerPacket := sampleRate / 50
    eBitRetransmissions := 0
    firstSent := false }

namespace AudioSender

/-- What a call of `sendRtpEvents` queues. Unknown symbols are skipped. -/
def acceptedDigits (sender : AudioSender) (events : List UInt8) (durationSamples volume : Nat) :
    List Dtmf :=
  if 32 ≤ sender.txDtmfQueue.length + events.length then []
  else (events.filterMap (fun c => eventCode (tolower c))).map
    (newDigit sender.sampleRate durationSamples volume)

def sendRtpEvents (sender : AudioSender) (events : List UInt8) (durationSamples volume : Nat) :
    AudioSender × Bool :=
  ({ sender with
      txDtmfQueue := sender.txDtmfQueue ++ sender.acceptedDigits events durationSamples volume },
    !(sender.acceptedDigits events durationSamples volume).isEmpty)

end AudioSender

/-- The outcome of one call of the builder. `front` is the digit as it stays in
the queue, or nothing if it was removed. -/
structure Created where
  payload : RtpDtmfPayload
  first : Bool
  last : Bool
  samples : Nat
  front : Option Dtmf
deriving DecidableEq, Repr

def startsNow (data : Dtmf) : Bool :=
  decide (0 < data.duration) && !data.firstSent

def createDtmfPayload (data : Dtmf) : Created :=
  if data.requestedDuration ≤ data.duration then
    { payload := ⟨data.event % 256, data.volume % 256 ||| 128, data.duration % 65536⟩
      first := startsNow data
      last := true
      samples := if 3 ≤ data.eBitRetransmissions + 1 then data.samplesPerPacket else 0
      front :=
        if 3 ≤ data.eBitRetransmissions + 1 then none
        else some { data with
          eBitRetransmissions := data.eBitRetransmissions + 1
          firstSent := data.firstSent || startsNow data } }
  else
    { payload := ⟨data.event % 256, data.volume % 256, data.duration % 65536⟩
      first := startsNow data
      last := false
      samples := if data.duration ≠ 0 then data.samplesPerPacket else 0
      front := some { data with
        duration := (data.duration + data.samplesPerPacket) % 4294967296
        firstSent := data.firstSent || startsNow data } }

def sentBuffer (created : Created) : SentBuffer :=
  { dtmfBytes :=
      (created.payload.event, created.payload.volume,
        created.payload.duration / 256 % 256, created.payload.duration % 256)
    samples := created.samples
    flags := if created.first then 32 ||| 128 ||| 64 else 32 }

namespace AudioSender

def encodeFrame (sender : AudioSender) (nbSamples : Nat) : AudioSender :=
  { sender with sentSamples := sender.sentSamples + nbSamples }

def afterPayload (sender : AudioSender) (created : Created) (rest : List Dtmf) (now : Nat) :
    AudioSender :=
  match created.front with
  | some data => { sender with txDtmfQueue := data :: rest }
  | none =>
    { sender with txDtmfQueue := rest, nextDigitEarliest := now + interDigitGapMs }

/-- One audio frame arrives. The second component is the event packet handed to
the encoder, if there is one. -/
def update (sender : AudioSender) (now nbSamples : Nat) : AudioSender × Option SentBuffer :=
  match sender.txDtmfQueue with
  | [] => (sender.encodeFrame nbSamples, none)
  | data :: rest =>
    if sender.nextDigitEarliest ≤ now then
      if (createDtmfPayload data).samples = 0 ∧ (createDtmfPayload data).last = false then
        (sender.afterPayload (createDtmfPayload data) rest now, none)
      else
        ({ sender.afterPayload (createDtmfPayload data) rest now with
            sentSamples := sender.sentSamples + (createDtmfPayload data).samples },
          some (sentBuffer (createDtmfPayload data)))
    else (sender.encodeFrame nbSamples, none)

end AudioSender

inductive Operation where
  | sendRtpEvents (events : List UInt8) (durationSamples volume : Nat)
  | update (now nbSamples : Nat)
deriving DecidableEq, Repr

structure Trace where
  sender : AudioSender
  accepted : List Dtmf
  sent : List SentBuffer
deriving DecidableEq, Repr

def Trace.start (sampleRate : Nat) : Trace :=
  { sender := AudioSender.create sampleRate, accepted := [], sent := [] }

def step (trace : Trace) : Operation → Trace
  | .sendRtpEvents events durationSamples volume =>
    { trace with
      sender := (trace.sender.sendRtpEvents events durationSamples volume).1
      accepted := trace.accepted ++ trace.sender.acceptedDigits events durationSamples volume }
  | .update now nbSamples =>
    { trace with
      sender := (trace.sender.update now nbSamples).1
      sent := trace.sent ++ (trace.sender.update now nbSamples).2.toList }

def updates (frames : List (Nat × Nat)) : List Operation :=
  frames.map (fun frame => .update frame.1 frame.2)

structure EventPacket where
  event : Nat
  volume : Nat
  duration : Nat
  ended : Bool
  start : Bool
  samples : Nat
deriving DecidableEq, Repr

def readPacket (buffer : SentBuffer) : EventPacket :=
  { event := buffer.dtmfBytes.1
    volume := buffer.dtmfBytes.2.1 % 128
    duration := 256 * buffer.dtmfBytes.2.2.1 + buffer.dtmfBytes.2.2.2
    ended := decide (128 ≤ buffer.dtmfBytes.2.1)
    start := decide (buffer.flags = 32 ||| 128 ||| 64)
    samples := buffer.samples }

/-- The packets announce the digit in `count` steps: the last duration is the first
multiple not below the requested one, it is sent three times with the end bit, and
only the first packet has the start flags. -/
structure Announces (digit : Dtmf) (count : Nat) (packets : List EventPacket) : Prop where
  reached : digit.requestedDuration ≤ count * digit.samplesPerPacket
  earliest : ∀ other, digit.requestedDuration ≤ other * digit.samplesPerPacket →
    count * digit.samplesPerPacket ≤ other * digit.samplesPerPacket
  starts : packets.map (·.start) = true :: List.replicate (count + 1) false
  durations : packets.map (·.duration) =
    (List.range count).map (fun index => (index + 1) * digit.samplesPerPacket) ++
      [count * digit.samplesPerPacket, count * digit.samplesPerPacket]
  ends : packets.map (·.ended) = List.replicate (count - 1) false ++ [true, true, true]
  samples : (packets.map (·.samples)).sum = count * digit.samplesPerPacket
  digit : ∀ packet ∈ packets, packet.event = digit.event ∧ packet.volume = digit.volume

/-- Further frames empty the queue, and once it is empty the packets are the
announcements of the accepted digits, one after the other. -/
structure Delivers (trace : Trace) : Prop where
  finishes : ∃ frames, (Run.after step trace (updates frames)).sender.txDtmfQueue = []
  announced : ∀ frames, (Run.after step trace (updates frames)).sender.txDtmfQueue = [] →
    ∃ parts : List (List EventPacket),
      (Run.after step trace (updates frames)).sent.map readPacket = parts.flatten ∧
      List.Forall₂ (fun digit packets => ∃ count, Announces digit count packets)
        trace.accepted parts

/-! ### One digit -/

def packetCount (digit : Dtmf) : Nat :=
  digit.requestedDuration ⌈/⌉ digit.samplesPerPacket

def finalDuration (digit : Dtmf) : Nat :=
  packetCount digit * digit.samplesPerPacket

def afterCalls (digit : Dtmf) (calls : Nat) : Dtmf :=
  { digit with
    duration := min calls (packetCount digit) * digit.samplesPerPacket
    eBitRetransmissions := calls - packetCount digit
    firstSent := decide (2 ≤ calls) }

def packet (digit : Dtmf) (index : Nat) : EventPacket :=
  { event := digit.event
    volume := digit.volume
    duration := min (index + 1) (packetCount digit) * digit.samplesPerPacket
    ended := decide (packetCount digit ≤ index + 1)
    start := decide (index = 0)
    samples :=
      if index + 1 < packetCount digit ∨ index = packetCount digit + 1 then
        digit.samplesPerPacket
      else 0 }

/-- A newly queued digit whose durations fit the field. -/
structure Fits (digit : Dtmf) : Prop where
  fresh : digit.duration = 0 ∧ digit.eBitRetransmissions = 0 ∧ digit.firstSent = false
  event : digit.event < 256
  volume : digit.volume < 128
  samplesPerPacket : 0 < digit.samplesPerPacket
  packets : 2 ≤ packetCount digit
  final : finalDuration digit < 65536

theorem requested_le_iff {digit : Dtmf} (positive : 0 < digit.samplesPerPacket) (count : Nat) :
    digit.requestedDuration ≤ count * digit.samplesPerPacket ↔ packetCount digit ≤ count := by
  unfold packetCount
  rw [ceilDiv_le_iff_le_mul positive, Nat.mul_comm]

theorem afterCalls_zero {digit : Dtmf} (fits : Fits digit) : afterCalls digit 0 = digit := by
  obtain ⟨duration, retransmissions, sent⟩ := fits.fresh
  cases digit
  simp_all [afterCalls]

section

variable {digit : Dtmf} (fits : Fits digit) (calls : Nat)
include fits

theorem ended_iff :
    (afterCalls digit calls).requestedDuration ≤ (afterCalls digit calls).duration ↔
      packetCount digit ≤ calls := by
  change digit.requestedDuration ≤ min calls (packetCount digit) * digit.samplesPerPacket ↔ _
  rw [requested_le_iff fits.samplesPerPacket, le_min_iff]
  exact and_iff_left (Nat.le_refl _)

theorem duration_pos_iff : 0 < (afterCalls digit calls).duration ↔ 1 ≤ calls := by
  change 0 < min calls (packetCount digit) * digit.samplesPerPacket ↔ _
  have several := fits.packets
  rw [Nat.mul_pos_iff_of_pos_right fits.samplesPerPacket]
  omega

theorem duration_lt : (afterCalls digit calls).duration < 65536 :=
  Nat.lt_of_le_of_lt (Nat.mul_le_mul_right _ (Nat.min_le_right _ _)) fits.final

theorem startsNow_afterCalls : startsNow (afterCalls digit calls) = decide (calls = 1) := by
  unfold startsNow
  rw [decide_eq_decide.mpr (duration_pos_iff fits calls)]
  change (decide (1 ≤ calls) && !decide (2 ≤ calls)) = _
  rw [← decide_not, ← Bool.decide_and]
  apply decide_eq_decide.mpr
  omega

private theorem firstSent_afterCalls :
    ((afterCalls digit calls).firstSent || startsNow (afterCalls digit calls)) =
      decide (2 ≤ calls + 1) := by
  rw [startsNow_afterCalls fits]
  change (decide (2 ≤ calls) || decide (calls = 1)) = _
  rw [← Bool.decide_or]
  apply decide_eq_decide.mpr
  omega

theorem front_afterCalls :
    (createDtmfPayload (afterCalls digit calls)).front =
      if packetCount digit + 2 ≤ calls then none else some (afterCalls digit (calls + 1)) := by
  have sent := firstSent_afterCalls fits calls
  unfold createDtmfPayload
  by_cases ended : packetCount digit ≤ calls
  · rw [if_pos ((ended_iff fits calls).mpr ended)]
    have third : 3 ≤ (afterCalls digit calls).eBitRetransmissions + 1 ↔
        packetCount digit + 2 ≤ calls := by
      change 3 ≤ calls - packetCount digit + 1 ↔ _
      omega
    simp only [third, sent]
    by_cases removed : packetCount digit + 2 ≤ calls
    · rw [if_pos removed, if_pos removed]
    · unfold afterCalls
      rw [Nat.min_eq_right ended, Nat.min_eq_right (Nat.le_succ_of_le ended),
        Nat.succ_sub ended]
  · have early : ¬ packetCount digit + 2 ≤ calls := by omega
    rw [if_neg (fun reached => ended ((ended_iff fits calls).mp reached)), if_neg early]
    simp only [sent]
    have next : (afterCalls digit calls).duration + digit.samplesPerPacket =
        (afterCalls digit (calls + 1)).duration := by
      change min calls _ * _ + _ = min (calls + 1) _ * _
      rw [Nat.min_eq_left (by omega), Nat.min_eq_left (by omega), Nat.succ_mul]
    have small := duration_lt fits (calls + 1)
    change some { afterCalls digit calls with
        duration := ((afterCalls digit calls).duration + digit.samplesPerPacket) % 4294967296
        firstSent := decide (2 ≤ calls + 1) } = _
    rw [next, Nat.mod_eq_of_lt (by omega)]
    unfold afterCalls
    rw [show calls - packetCount digit = calls + 1 - packetCount digit by omega]

end

theorem or_endBit_mod {volume : Nat} (small : volume < 128) : (volume ||| 128) % 128 = volume := by
  have low : (volume ||| 128) % 2 ^ 7 = volume % 2 ^ 7 ||| 128 % 2 ^ 7 := Nat.or_mod_two_pow
  rw [show (2 : Nat) ^ 7 = 128 from rfl, Nat.mod_eq_of_lt small, Nat.or_zero] at low
  exact low

def volumeField (digit : Dtmf) (ended : Bool) : Nat :=
  if ended then digit.volume ||| 128 else digit.volume

section

variable {digit : Dtmf} (fits : Fits digit)
include fits

private theorem payload_afterCalls (calls : Nat) :
    (createDtmfPayload (afterCalls digit calls)).payload =
      ⟨digit.event, volumeField digit (decide (packetCount digit ≤ calls)),
        (afterCalls digit calls).duration⟩ := by
  have event : (afterCalls digit calls).event % 256 = digit.event := Nat.mod_eq_of_lt fits.event
  have volume : (afterCalls digit calls).volume % 256 = digit.volume :=
    Nat.mod_eq_of_lt (Nat.lt_of_lt_of_le fits.volume (by decide))
  unfold createDtmfPayload volumeField
  by_cases ended : packetCount digit ≤ calls
  · rw [if_pos ((ended_iff fits calls).mpr ended), decide_eq_true ended, if_pos rfl]
    simp only [event, volume, Nat.mod_eq_of_lt (duration_lt fits calls)]
  · rw [if_neg (fun reached => ended ((ended_iff fits calls).mp reached)),
      decide_eq_false ended, if_neg Bool.false_ne_true]
    simp only [event, volume, Nat.mod_eq_of_lt (duration_lt fits calls)]

private theorem first_afterCalls (calls : Nat) :
    (createDtmfPayload (afterCalls digit calls)).first = decide (calls = 1) := by
  rw [← startsNow_afterCalls fits]
  unfold createDtmfPayload
  split <;> rfl

private theorem last_afterCalls (calls : Nat) :
    (createDtmfPayload (afterCalls digit calls)).last = decide (packetCount digit ≤ calls) := by
  rw [← decide_eq_decide.mpr (ended_iff fits calls)]
  unfold createDtmfPayload
  split
  · rename_i ended
    exact (decide_eq_true ended).symm
  · rename_i ended
    exact (decide_eq_false ended).symm

theorem samples_afterCalls {calls : Nat} (limit : calls ≤ packetCount digit + 2) :
    (createDtmfPayload (afterCalls digit calls)).samples =
      if 1 ≤ calls ∧ calls < packetCount digit ∨ calls = packetCount digit + 2 then
        digit.samplesPerPacket
      else 0 := by
  unfold createDtmfPayload
  by_cases ended : packetCount digit ≤ calls
  · rw [if_pos ((ended_iff fits calls).mpr ended)]
    change (if 3 ≤ calls - packetCount digit + 1 then digit.samplesPerPacket else 0) = _
    apply if_congr _ rfl rfl
    omega
  · rw [if_neg (fun reached => ended ((ended_iff fits calls).mp reached))]
    apply if_congr _ rfl rfl
    rw [← Nat.pos_iff_ne_zero, duration_pos_iff fits]
    omega

private theorem silent_afterCalls_iff {calls : Nat} (limit : calls ≤ packetCount digit + 2) :
    ((createDtmfPayload (afterCalls digit calls)).samples = 0 ∧
      (createDtmfPayload (afterCalls digit calls)).last = false) ↔ calls = 0 := by
  have several := fits.packets
  have positive := fits.samplesPerPacket
  rw [samples_afterCalls fits limit, last_afterCalls fits, decide_eq_false_iff_not]
  split <;> omega

theorem read_afterCalls {index : Nat} (limit : index < packetCount digit + 2) :
    readPacket (sentBuffer (createDtmfPayload (afterCalls digit (index + 1)))) =
      packet digit index := by
  have field : volumeField digit (decide (packetCount digit ≤ index + 1)) % 128 = digit.volume ∧
      decide (128 ≤ volumeField digit (decide (packetCount digit ≤ index + 1))) =
        decide (packetCount digit ≤ index + 1) := by
    have small := fits.volume
    cases decide (packetCount digit ≤ index + 1) with
    | true => exact ⟨or_endBit_mod small, decide_eq_true Nat.right_le_or⟩
    | false => exact ⟨Nat.mod_eq_of_lt small, decide_eq_false (Nat.not_le.mpr small)⟩
  have bytes : 256 * ((afterCalls digit (index + 1)).duration / 256 % 256) +
      (afterCalls digit (index + 1)).duration % 256 = (afterCalls digit (index + 1)).duration := by
    have small := duration_lt fits (index + 1)
    omega
  have flags : decide ((if decide (index + 1 = 1) = true then 32 ||| 128 ||| 64 else 32) =
      (32 ||| 128 ||| 64 : Nat)) = decide (index = 0) := by
    by_cases start : index = 0
    · subst start
      rfl
    · have later : ¬ index + 1 = 1 := by omega
      rw [decide_eq_false later, decide_eq_false start]
      rfl
  have samples : (if 1 ≤ index + 1 ∧ index + 1 < packetCount digit ∨
        index + 1 = packetCount digit + 2 then digit.samplesPerPacket else 0) =
      if index + 1 < packetCount digit ∨ index = packetCount digit + 1 then
        digit.samplesPerPacket else 0 := by
    apply if_congr _ rfl rfl
    omega
  unfold readPacket sentBuffer
  rw [payload_afterCalls fits, first_afterCalls fits, samples_afterCalls fits limit]
  simp only [field, bytes, flags, samples]
  rfl

end

def middlePacket (digit : Dtmf) (index : Nat) : EventPacket :=
  { event := digit.event
    volume := digit.volume
    duration := (index + 1) * digit.samplesPerPacket
    ended := false
    start := decide (index = 0)
    samples := digit.samplesPerPacket }

def endPacket (digit : Dtmf) (samples : Nat) : EventPacket :=
  { event := digit.event
    volume := digit.volume
    duration := finalDuration digit
    ended := true
    start := false
    samples := samples }

theorem packets_eq {digit : Dtmf} {before : Nat} (count : packetCount digit = before + 2) :
    (List.range (packetCount digit + 2)).map (packet digit) =
      (List.range (before + 1)).map (middlePacket digit) ++
        [endPacket digit 0, endPacket digit 0, endPacket digit digit.samplesPerPacket] := by
  have middle : ∀ index ∈ List.range (before + 1), packet digit index = middlePacket digit index := by
    intro index member
    have bound := List.mem_range.mp member
    unfold packet middlePacket
    rw [if_pos (by omega), Nat.min_eq_left (by omega), decide_eq_false (by omega)]
  have atEnd : ∀ index, before < index → index < before + 4 →
      packet digit index =
        endPacket digit (if index = before + 3 then digit.samplesPerPacket else 0) := by
    intro index above below
    unfold packet endPacket finalDuration
    rw [Nat.min_eq_right (by omega), decide_eq_true (by omega), decide_eq_false (by omega)]
    congr 1
    apply if_congr _ rfl rfl
    omega
  rw [count, List.range_succ,
    List.range_succ, List.range_succ, List.append_assoc, List.append_assoc, List.map_append,
    List.map_congr_left middle]
  simp only [List.map_cons, List.map_nil, List.cons_append, List.nil_append]
  rw [atEnd (before + 1) (by omega) (by omega), atEnd (before + 1 + 1) (by omega) (by omega),
    atEnd (before + 1 + 1 + 1) (by omega) (by omega), if_neg (by omega), if_neg (by omega),
    if_pos rfl]

private theorem packets_announce {digit : Dtmf} (fits : Fits digit) :
    Announces digit (packetCount digit)
      ((List.range (packetCount digit + 2)).map (packet digit)) := by
  obtain ⟨before, count⟩ : ∃ before, packetCount digit = before + 2 :=
    ⟨_, (Nat.sub_add_cancel fits.packets).symm⟩
  have final : finalDuration digit = (before + 2) * digit.samplesPerPacket := by
    unfold finalDuration
    rw [count]
  constructor
  · exact (requested_le_iff fits.samplesPerPacket _).mpr (Nat.le_refl _)
  · intro other reached
    exact Nat.mul_le_mul_right _ ((requested_le_iff fits.samplesPerPacket other).mp reached)
  · rw [packets_eq count, count, List.range_succ_eq_map]
    simp [middlePacket, endPacket, Function.comp_def, List.replicate_succ']
  · rw [packets_eq count, count]
    simp [middlePacket, endPacket, Function.comp_def, final, List.range_succ]
  · rw [packets_eq count, count]
    simp [middlePacket, endPacket, Function.comp_def]
  · rw [packets_eq count, count]
    simp [middlePacket, endPacket, Function.comp_def]
    rw [Nat.succ_mul (before + 1)]
  · intro packet member
    obtain ⟨index, _, rfl⟩ := List.mem_map.mp member
    exact ⟨rfl, rfl⟩

/-! ### The run -/

variable (sampleRate : Nat) {data : Dtmf}

/-- The packets sent so far. All digits of `finished` are announced, the first of
`waiting` has been given to the builder `calls` times. -/
structure Progress (trace : Trace) (finished waiting : List Dtmf) (calls : Nat) : Prop where
  accepted : trace.accepted = finished ++ waiting
  limit : ∀ digit ∈ waiting.head?, calls ≤ packetCount digit + 2
  idle : waiting = [] → calls = 0
  queue : trace.sender.txDtmfQueue = waiting.modifyHead (fun digit => afterCalls digit calls)
  sent : trace.sent.map readPacket =
    finished.flatMap (fun digit => (List.range (packetCount digit + 2)).map (packet digit)) ++
      waiting.head?.elim [] (fun digit => (List.range (calls - 1)).map (packet digit))

namespace Progress

variable {trace : Trace} {finished waiting : List Dtmf} {calls : Nat}

theorem start : Progress (Trace.start sampleRate) [] [] 0 :=
  ⟨rfl, nofun, fun _ => rfl, rfl, rfl⟩

private theorem sendRtpEvents (progress : Progress trace finished waiting calls)
    (events : List UInt8) (durationSamples volume : Nat)
    (fit : ∀ digit ∈ trace.sender.acceptedDigits events durationSamples volume, Fits digit) :
    Progress (step trace (.sendRtpEvents events durationSamples volume)) finished
      (waiting ++ trace.sender.acceptedDigits events durationSamples volume) calls := by
  have accepted : (step trace (.sendRtpEvents events durationSamples volume)).accepted =
      finished ++ (waiting ++ trace.sender.acceptedDigits events durationSamples volume) := by
    rw [← List.append_assoc, ← progress.accepted]
    rfl
  cases waiting with
  | nil =>
    have none_yet : calls = 0 := progress.idle rfl
    subst none_yet
    constructor
    · exact accepted
    · intro digit _
      exact Nat.zero_le _
    · intro _
      rfl
    · change trace.sender.txDtmfQueue ++ _ = _
      rw [progress.queue]
      -- the digit now in front has not been given to the builder
      cases queued : trace.sender.acceptedDigits events durationSamples volume with
      | nil => rfl
      | cons digit rest =>
        have fresh := afterCalls_zero (fit digit (queued ▸ List.mem_cons_self))
        change digit :: rest = afterCalls digit 0 :: rest
        rw [fresh]
    · change trace.sent.map readPacket = _
      rw [progress.sent]
      cases trace.sender.acceptedDigits events durationSamples volume with
      | nil => rfl
      | cons digit rest => rfl
  | cons digit rest =>
    constructor
    · exact accepted
    · exact progress.limit
    · intro empty
      cases empty
    · change trace.sender.txDtmfQueue ++ _ = _
      rw [progress.queue]
      rfl
    · exact progress.sent

theorem update_idle (progress : Progress trace finished waiting calls) {now : Nat} (nbSamples : Nat)
    (idle : waiting = [] ∨ now < trace.sender.nextDigitEarliest) :
    Progress (step trace (.update now nbSamples)) finished waiting calls := by
  have unchanged : trace.sender.update now nbSamples =
      (trace.sender.encodeFrame nbSamples, none) := by
    unfold AudioSender.update
    cases queue : trace.sender.txDtmfQueue with
    | nil => rfl
    | cons data rest =>
      rcases idle with empty | early
      · rw [progress.queue, empty] at queue
        cases queue
      · exact if_neg (Nat.not_le.mpr early)
  unfold step
  simp only [unchanged]
  constructor
  · exact progress.accepted
  · exact progress.limit
  · exact progress.idle
  · exact progress.queue
  · rw [← progress.sent]
    simp

end Progress

variable {sender : AudioSender}

theorem update_open {rest : List Dtmf} {now : Nat} (queue : sender.txDtmfQueue = data :: rest)
    (due : sender.nextDigitEarliest ≤ now) (nbSamples : Nat) :
    (sender.update now nbSamples).1.txDtmfQueue =
        (createDtmfPayload data).front.toList ++ rest ∧
      (sender.update now nbSamples).2 =
        if (createDtmfPayload data).samples = 0 ∧ (createDtmfPayload data).last = false then none
        else some (sentBuffer (createDtmfPayload data)) := by
  unfold AudioSender.update AudioSender.afterPayload
  simp only [queue, if_pos due]
  cases (createDtmfPayload data).front with
  | none => split <;> exact ⟨rfl, rfl⟩
  | some later => split <;> exact ⟨rfl, rfl⟩

theorem sent_afterCalls {digit : Dtmf} (fits : Fits digit) {calls : Nat}
    (limit : calls ≤ packetCount digit + 2) {rest : List Dtmf} {now : Nat}
    (queue : sender.txDtmfQueue = afterCalls digit calls :: rest)
    (due : sender.nextDigitEarliest ≤ now) (nbSamples : Nat) :
    (List.range (calls - 1)).map (packet digit) ++
        ((sender.update now nbSamples).2.toList.map readPacket) =
      (List.range calls).map (packet digit) := by
  rw [(update_open queue due nbSamples).2]
  cases calls with
  | zero =>
    rw [if_pos ((silent_afterCalls_iff fits limit).mpr rfl)]
    rfl
  | succ index =>
    rw [if_neg (fun silent =>
      (Nat.succ_ne_zero index) ((silent_afterCalls_iff fits limit).mp silent))]
    change _ ++ [readPacket (sentBuffer _)] = _
    rw [read_afterCalls fits (Nat.lt_of_succ_le limit), List.range_succ, List.map_append]
    rfl

namespace Progress

variable {trace : Trace} {finished rest : List Dtmf} {digit : Dtmf} {calls now : Nat}

theorem update_due (progress : Progress trace finished (digit :: rest) calls) (fits : Fits digit)
    (due : trace.sender.nextDigitEarliest ≤ now) (nbSamples : Nat)
    (unfinished : calls < packetCount digit + 2) :
    Progress (step trace (.update now nbSamples)) finished (digit :: rest) (calls + 1) := by
  have queue : trace.sender.txDtmfQueue = afterCalls digit calls :: rest := progress.queue
  constructor
  · exact progress.accepted
  · intro first member
    cases member
    exact unfinished
  · intro empty
    cases empty
  · change (trace.sender.update now nbSamples).1.txDtmfQueue = _
    rw [(update_open queue due nbSamples).1, front_afterCalls fits,
      if_neg (Nat.not_le.mpr unfinished)]
    rfl
  · change (trace.sent ++ _).map readPacket = _
    rw [List.map_append, progress.sent, List.append_assoc]
    exact congrArg _ (sent_afterCalls fits (Nat.le_of_lt unfinished) queue due nbSamples)

theorem update_last (progress : Progress trace finished (digit :: rest) calls)
    (fits : Fits digit) (fitNext : ∀ next ∈ rest, Fits next)
    (due : trace.sender.nextDigitEarliest ≤ now) (nbSamples : Nat)
    (complete : calls = packetCount digit + 2) :
    Progress (step trace (.update now nbSamples)) (finished ++ [digit]) rest 0 := by
  have queue : trace.sender.txDtmfQueue = afterCalls digit calls :: rest := progress.queue
  constructor
  · change trace.accepted = _
    rw [progress.accepted, List.append_assoc]
    rfl
  · intro next _
    exact Nat.zero_le _
  · intro _
    rfl
  · change (trace.sender.update now nbSamples).1.txDtmfQueue = _
    rw [(update_open queue due nbSamples).1, front_afterCalls fits,
      if_pos (Nat.le_of_eq complete.symm)]
    cases rest with
    | nil => rfl
    | cons next others =>
      change next :: others = afterCalls next 0 :: others
      rw [afterCalls_zero (fitNext next List.mem_cons_self)]
  · change (trace.sent ++ _).map readPacket = _
    rw [List.map_append, progress.sent, List.append_assoc, List.flatMap_append]
    have whole := sent_afterCalls fits (Nat.le_of_eq complete) queue due nbSamples
    have nothing : rest.head?.elim [] (fun next => (List.range (0 - 1)).map (packet next)) = [] := by
      cases rest <;> rfl
    rw [nothing, List.append_nil, List.flatMap_singleton, ← complete]
    exact congrArg _ whole

end Progress

/-- As long as all accepted digits fit, the packets sent are the announcements up
to the present one. -/
structure Orderly (trace : Trace) : Prop where
  progress : (∀ digit ∈ trace.accepted, Fits digit) →
    ∃ finished waiting calls, Progress trace finished waiting calls

theorem orderly_step (trace : Trace) (operation : Operation) (orderly : Orderly trace) :
    Orderly (step trace operation) := by
  constructor
  intro fit
  cases operation with
  | sendRtpEvents events durationSamples volume =>
    obtain ⟨finished, waiting, calls, progress⟩ := orderly.progress
      (fun digit member => fit digit (List.mem_append_left _ member))
    exact ⟨_, _, _, progress.sendRtpEvents events durationSamples volume
      (fun digit member => fit digit (List.mem_append_right _ member))⟩
  | update now nbSamples =>
    obtain ⟨finished, waiting, calls, progress⟩ := orderly.progress fit
    cases waiting with
    | nil => exact ⟨_, _, _, progress.update_idle nbSamples (.inl rfl)⟩
    | cons digit rest =>
      rcases Nat.lt_or_ge now trace.sender.nextDigitEarliest with early | due
      · exact ⟨_, _, _, progress.update_idle nbSamples (.inr early)⟩
      · have fits : ∀ each ∈ digit :: rest, Fits each := by
          intro each member
          apply fit
          change each ∈ trace.accepted
          rw [progress.accepted]
          exact List.mem_append_right _ member
        have first := fits digit List.mem_cons_self
        rcases Nat.lt_or_eq_of_le (progress.limit digit rfl) with unfinished | complete
        · exact ⟨_, _, _, progress.update_due first due nbSamples unfinished⟩
        · exact ⟨_, _, _, progress.update_last first
            (fun next member => fits next (List.mem_cons_of_mem _ member)) due nbSamples complete⟩

theorem accepted_updates (trace : Trace) (frames : List (Nat × Nat)) :
    (Run.after step trace (updates frames)).accepted = trace.accepted := by
  induction frames generalizing trace with
  | nil => rfl
  | cons frame rest ih => exact ih _

private theorem queue_empties {trace : Trace} {finished waiting : List Dtmf} {calls : Nat}
    (progress : Progress trace finished waiting calls) (fit : ∀ digit ∈ waiting, Fits digit) :
    ∃ frames, (Run.after step trace (updates frames)).sender.txDtmfQueue = [] := by
  induction waiting generalizing trace finished calls with
  | nil => exact ⟨[], progress.queue⟩
  | cons digit rest ih =>
    have fits := fit digit List.mem_cons_self
    have fitRest := fun next member => fit next (List.mem_cons_of_mem digit member)
    -- inner induction on the calls the first digit still needs
    induction left : packetCount digit + 2 - calls generalizing trace calls with
    | zero =>
      have limit := progress.limit digit rfl
      obtain ⟨frames, empty⟩ := ih (progress.update_last fits fitRest (Nat.le_refl _) 0
        (by omega)) fitRest
      exact ⟨(trace.sender.nextDigitEarliest, 0) :: frames, empty⟩
    | succ count inner =>
      obtain ⟨frames, empty⟩ := inner (progress.update_due fits (Nat.le_refl _) 0 (by omega))
        (by omega)
      exact ⟨(trace.sender.nextDigitEarliest, 0) :: frames, empty⟩

private theorem delivers_of_fit {trace : Trace} (orderly : Orderly trace)
    (fit : ∀ digit ∈ trace.accepted, Fits digit) : Delivers trace := by
  constructor
  · obtain ⟨finished, waiting, calls, progress⟩ := orderly.progress fit
    apply queue_empties progress
    intro digit member
    apply fit
    rw [progress.accepted]
    exact List.mem_append_right _ member
  · intro frames empty
    have later : Orderly (Run.after step trace (updates frames)) :=
      (Run.always_of_preserved orderly_step orderly (updates frames)).last
    rw [← accepted_updates trace frames] at fit ⊢
    obtain ⟨finished, waiting, calls, progress⟩ := later.progress fit
    have done : waiting = [] := by
      rw [progress.queue] at empty
      exact List.modifyHead_eq_nil_iff.mp empty
    subst done
    refine ⟨finished.map (fun digit => (List.range (packetCount digit + 2)).map (packet digit)), ?_, ?_⟩
    · rw [progress.sent]
      exact List.append_nil _
    · rw [progress.accepted, List.append_nil, List.forall₂_map_right_iff, List.forall₂_same]
      intro digit member
      refine ⟨packetCount digit, packets_announce (fit digit ?_)⟩
      rw [progress.accepted, List.append_nil]
      exact member

theorem eventCode_le {dig event : Nat} (coded : eventCode dig = some event) : event ≤ 16 := by
  unfold eventCode at coded
  have nine : '9'.toNat = 57 := rfl
  have zero : '0'.toNat = 48 := rfl
  have a : 'a'.toNat = 97 := rfl
  have d : 'd'.toNat = 100 := rfl
  split_ifs at coded <;> cases coded <;> omega

theorem five_packets_le (sampleRate durationSamples volume event : Nat) :
    5 * (newDigit sampleRate durationSamples volume event).samplesPerPacket ≤
      (newDigit sampleRate durationSamples volume event).requestedDuration := by
  change 5 * (sampleRate / 50) ≤ max durationSamples (sampleRate / 10)
  omega

private theorem fits_newDigit {sampleRate durationSamples volume event : Nat} (code : event ≤ 16)
    (rate : 50 ≤ sampleRate)
    (final : finalDuration (newDigit sampleRate durationSamples volume event) < 65536) :
    Fits (newDigit sampleRate durationSamples volume event) := by
  have positive : 0 < (newDigit sampleRate durationSamples volume event).samplesPerPacket :=
    Nat.div_pos rate (by decide)
  constructor
  · exact ⟨rfl, rfl, rfl⟩
  · exact Nat.lt_of_le_of_lt code (by decide)
  · exact Nat.lt_of_le_of_lt (Nat.min_le_right _ _) (by decide)
  · exact positive
  · have reached := (requested_le_iff positive _).mpr (Nat.le_refl
      (packetCount (newDigit sampleRate durationSamples volume event)))
    have five := Nat.le_trans (five_packets_le sampleRate durationSamples volume event) reached
    have several := Nat.le_of_mul_le_mul_right five positive
    omega
  · exact final

private theorem readPacket_duration_lt (created : Created) :
    (readPacket (sentBuffer created)).duration < 65536 := by
  change 256 * (created.payload.duration / 256 % 256) + created.payload.duration % 256 < 65536
  omega

/-- A digit without samples for a packet stays at its first duration and its
packets have no start flags. -/
def Motionless (data : Dtmf) : Prop := data.duration = 0 ∧ data.samplesPerPacket = 0

private theorem motionless_front {later : Dtmf} (motionless : Motionless data)
    (stays : (createDtmfPayload data).front = some later) : Motionless later := by
  obtain ⟨duration, samples⟩ := motionless
  unfold createDtmfPayload at stays
  by_cases ended : data.requestedDuration ≤ data.duration
  · rw [if_pos ended] at stays
    by_cases third : 3 ≤ data.eBitRetransmissions + 1
    · simp only [if_pos third, reduceCtorEq] at stays
    · simp only [if_neg third] at stays
      cases stays
      exact ⟨duration, samples⟩
  · rw [if_neg ended] at stays
    cases stays
    constructor
    · rw [duration, samples]
    · exact samples

private theorem motionless_start (motionless : Motionless data) :
    (readPacket (sentBuffer (createDtmfPayload data))).start = false := by
  have first : (createDtmfPayload data).first = false := by
    have quiet : startsNow data = false := by
      unfold startsNow
      rw [motionless.1]
      rfl
    unfold createDtmfPayload
    split <;> exact quiet
  unfold readPacket sentBuffer
  rw [first]
  rfl

theorem update_cases (sender : AudioSender) (now nbSamples : Nat) :
    ((sender.update now nbSamples).1.txDtmfQueue = sender.txDtmfQueue ∧
      (sender.update now nbSamples).2 = none) ∨
    ∃ data rest, sender.txDtmfQueue = data :: rest ∧
      (sender.update now nbSamples).1.txDtmfQueue = (createDtmfPayload data).front.toList ++ rest ∧
      ∀ buffer ∈ (sender.update now nbSamples).2, buffer = sentBuffer (createDtmfPayload data) := by
  cases queue : sender.txDtmfQueue with
  | nil =>
    left
    unfold AudioSender.update
    simp only [queue]
    exact ⟨queue, trivial⟩
  | cons data rest =>
    by_cases due : sender.nextDigitEarliest ≤ now
    · right
      obtain ⟨after, sent⟩ := update_open queue due nbSamples
      refine ⟨data, rest, rfl, after, ?_⟩
      intro buffer member
      rw [sent] at member
      split at member
      · cases member
      · cases member
        rfl
    · left
      unfold AudioSender.update
      simp only [queue, if_neg due]
      exact ⟨queue, trivial⟩

theorem update_sampleRate (sender : AudioSender) (now nbSamples : Nat) :
    (sender.update now nbSamples).1.sampleRate = sender.sampleRate := by
  unfold AudioSender.update AudioSender.afterPayload
  split
  · rfl
  · split
    · split <;> split <;> rfl
    · rfl

structure Kept (sampleRate : Nat) (trace : Trace) : Prop where
  rate : trace.sender.sampleRate = sampleRate
  digits : ∀ digit ∈ trace.accepted, ∃ durationSamples volume event,
    event ≤ 16 ∧ digit = newDigit sampleRate durationSamples volume event
  fields : ∀ buffer ∈ trace.sent, (readPacket buffer).duration < 65536
  queue : sampleRate < 50 → ∀ data ∈ trace.sender.txDtmfQueue, Motionless data
  starts : sampleRate < 50 → ∀ buffer ∈ trace.sent, (readPacket buffer).start = false

theorem newDigit_of_accepted {events : List UInt8} {durationSamples volume : Nat} {digit : Dtmf}
    (member : digit ∈ sender.acceptedDigits events durationSamples volume) :
    ∃ event, event ≤ 16 ∧ digit = newDigit sender.sampleRate durationSamples volume event := by
  unfold AudioSender.acceptedDigits at member
  split at member
  · cases member
  · obtain ⟨event, coded, same⟩ := List.mem_map.mp member
    obtain ⟨c, _, code⟩ := List.mem_filterMap.mp coded
    exact ⟨event, eventCode_le code, same.symm⟩

theorem kept_step {sampleRate : Nat} (trace : Trace) (operation : Operation)
    (kept : Kept sampleRate trace) : Kept sampleRate (step trace operation) := by
  cases operation with
  | sendRtpEvents events durationSamples volume =>
    have queued : ∀ digit ∈ trace.sender.acceptedDigits events durationSamples volume,
        ∃ event, event ≤ 16 ∧ digit = newDigit sampleRate durationSamples volume event := by
      intro digit member
      rw [← kept.rate]
      exact newDigit_of_accepted member
    constructor
    · exact kept.rate
    · intro digit member
      rcases List.mem_append.mp member with before | new
      · exact kept.digits digit before
      · exact ⟨durationSamples, volume, queued digit new⟩
    · exact kept.fields
    · intro slow data member
      rcases List.mem_append.mp member with before | new
      · exact kept.queue slow data before
      · obtain ⟨event, _, rfl⟩ := queued data new
        exact ⟨rfl, Nat.div_eq_of_lt slow⟩
    · exact kept.starts
  | update now nbSamples =>
    have rate : (step trace (.update now nbSamples)).sender.sampleRate = sampleRate :=
      (update_sampleRate trace.sender now nbSamples).trans kept.rate
    rcases update_cases trace.sender now nbSamples with
      ⟨same, nothing⟩ | ⟨data, rest, queue, after, sent⟩
    · have stream : (step trace (.update now nbSamples)).sent = trace.sent := by
        change trace.sent ++ _ = _
        rw [nothing]
        exact List.append_nil _
      constructor
      · exact rate
      · exact kept.digits
      · rw [stream]
        exact kept.fields
      · change sampleRate < 50 → ∀ data ∈ (trace.sender.update now nbSamples).1.txDtmfQueue, _
        rw [same]
        exact kept.queue
      · rw [stream]
        exact kept.starts
    · constructor
      · exact rate
      · exact kept.digits
      · intro buffer member
        rcases List.mem_append.mp member with before | new
        · exact kept.fields buffer before
        · rw [sent buffer (Option.mem_toList.mp new)]
          exact readPacket_duration_lt _
      · intro slow other member
        have motionless : ∀ each ∈ data :: rest, Motionless each := by
          rw [← queue]
          exact kept.queue slow
        change other ∈ (trace.sender.update now nbSamples).1.txDtmfQueue at member
        rw [after] at member
        rcases List.mem_append.mp member with front | behind
        · exact motionless_front (motionless data List.mem_cons_self) (Option.mem_toList.mp front)
        · exact motionless other (List.mem_cons_of_mem _ behind)
      · intro slow buffer member
        rcases List.mem_append.mp member with before | new
        · exact kept.starts slow buffer before
        · rw [sent buffer (Option.mem_toList.mp new)]
          apply motionless_start
          apply kept.queue slow
          rw [queue]
          exact List.mem_cons_self

theorem kept_start : Kept sampleRate (Trace.start sampleRate) :=
  ⟨rfl, nofun, nofun,
    nofun, nofun⟩

theorem orderly_start : Orderly (Trace.start sampleRate) :=
  ⟨fun _ => ⟨[], [], 0, Progress.start sampleRate⟩⟩

private theorem exists_part {digits : List Dtmf} {parts : List (List EventPacket)}
    {relation : Dtmf → List EventPacket → Prop} (all : List.Forall₂ relation digits parts)
    {digit : Dtmf} (member : digit ∈ digits) : ∃ part ∈ parts, relation digit part := by
  induction all with
  | nil => cases member
  | cons first _ ih =>
    rcases List.mem_cons.mp member with rfl | later
    · exact ⟨_, List.mem_cons_self, first⟩
    · obtain ⟨part, inside, related⟩ := ih later
      exact ⟨part, List.mem_cons_of_mem _ inside, related⟩

theorem fits_of_delivers {sampleRate : Nat} {trace : Trace} (kept : Kept sampleRate trace)
    (delivers : Delivers trace) {digit : Dtmf} (member : digit ∈ trace.accepted) :
    50 ≤ sampleRate ∧ finalDuration digit < 65536 := by
  obtain ⟨frames, empty⟩ := delivers.finishes
  obtain ⟨parts, stream, announced⟩ := delivers.announced frames empty
  have later : Kept sampleRate (Run.after step trace (updates frames)) :=
    (Run.always_of_preserved kept_step kept (updates frames)).last
  obtain ⟨part, inside, count, announces⟩ := exists_part announced member
  -- each packet of the part was read from a buffer of the stream
  have packet_sent : ∀ packet ∈ part,
      ∃ buffer ∈ (Run.after step trace (updates frames)).sent, readPacket buffer = packet := by
    intro packet belongs
    apply List.mem_map.mp
    rw [stream]
    exact List.mem_flatten.mpr ⟨part, inside, belongs⟩
  have fast : 50 ≤ sampleRate := by
    by_contra slow
    have flagged : true ∈ part.map (·.start) := by
      rw [announces.starts]
      exact List.mem_cons_self
    obtain ⟨packet, belongs, start⟩ := List.mem_map.mp flagged
    obtain ⟨buffer, sent, rfl⟩ := packet_sent packet belongs
    rw [later.starts (Nat.lt_of_not_le slow) buffer sent] at start
    cases start
  constructor
  · exact fast
  · have last : count * digit.samplesPerPacket ∈ part.map (·.duration) := by
      rw [announces.durations]
      exact List.mem_append_right _ List.mem_cons_self
    obtain ⟨packet, belongs, duration⟩ := List.mem_map.mp last
    obtain ⟨buffer, sent, rfl⟩ := packet_sent packet belongs
    have positive : 0 < digit.samplesPerPacket := by
      obtain ⟨durationSamples, volume, event, _, rfl⟩ := kept.digits digit member
      exact Nat.div_pos fast (by decide)
    calc finalDuration digit
        ≤ count * digit.samplesPerPacket :=
          Nat.mul_le_mul_right _ ((requested_le_iff positive count).mp announces.reached)
      _ = (readPacket buffer).duration := duration.symm
      _ < 65536 := later.fields buffer sent

/-- Over every run: the accepted digits are all announced, in order and to their
end, exactly if the last duration of each fits into sixteen bits and the rate
gives a packet at least one sample. -/
theorem digits_announced_iff (sampleRate : Nat) (operations : List Operation) :
    Delivers (Run.after step (Trace.start sampleRate) operations) ↔
      ∀ digit ∈ (Run.after step (Trace.start sampleRate) operations).accepted,
        50 ≤ sampleRate ∧ finalDuration digit < 65536 := by
  have kept : Kept sampleRate (Run.after step (Trace.start sampleRate) operations) :=
    (Run.always_of_preserved kept_step (kept_start sampleRate) operations).last
  have orderly : Orderly (Run.after step (Trace.start sampleRate) operations) :=
    (Run.always_of_preserved orderly_step (orderly_start sampleRate) operations).last
  constructor
  · intro delivers digit member
    exact fits_of_delivers kept delivers member
  · intro small
    apply delivers_of_fit orderly
    intro digit member
    obtain ⟨fast, final⟩ := small digit member
    obtain ⟨durationSamples, volume, event, code, rfl⟩ := kept.digits digit member
    exact fits_newDigit code fast final

/-- A digit of two seconds with a codec of 48 kHz. -/
theorem long_digit_not_announced :
    ¬ Delivers (Run.after step (Trace.start 48000) [.sendRtpEvents [53] 96000 10]) := by
  intro delivers
  have kept : Kept 48000 (Run.after step (Trace.start 48000) [.sendRtpEvents [53] 96000 10]) :=
    (Run.always_of_preserved kept_step (kept_start 48000) _).last
  have accepted : newDigit 48000 96000 10 5 ∈
      (Run.after step (Trace.start 48000) [.sendRtpEvents [53] 96000 10]).accepted := by decide
  have small := (fits_of_delivers kept delivers accepted).2
  revert small
  decide

end SipCore.DtmfEvents
