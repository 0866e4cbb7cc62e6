/-
The G.729 encoder. Samples are collected into blocks of eighty, each block is given to
the codec, and what the codec returns is collected into RTP packets of one or two
frames. What the codec returns for its n-th block is a parameter, and so are the types
of samples and bytes. The buffer is the bytes written to it behind the header.
-/

import SipCore.Library.GuardedRun
import Mathlib.Data.List.TakeDrop

namespace SipCore.G729

structure Packet (β : Type) where
  marker : Bool
  payloadType : Nat
  seq : Nat
  timestamp : Nat
  payload : List β
deriving DecidableEq, Repr

/-- `sent` is what the socket pair has taken, `encoded` the blocks the codec was
called on. -/
structure Encoder (σ β : Type) where
  packetsInRtp : Nat
  packetInRtpIdx : Nat
  buffer : List β
  packetQueue : List σ
  seqVal : Nat
  timestamp : Nat
  dtmfTimestamp : Nat
  connected : Bool
  encoded : List (List σ)
  sent : List (Packet β)

structure AudioFormat where
  isS16 : Bool
  sampleRate : Nat
  nbChannels : Nat
deriving DecidableEq, Repr

structure PcmFrame (σ : Type) where
  format : AudioFormat
  samples : List σ

variable {σ β : Type}

variable {encoder : Encoder σ β} (outputs : Nat → List β)

variable {input : List σ}

namespace Encoder

def framesPerPacket (maxBufferSize : Nat) : Nat := if 12 + 2 * 10 ≤ maxBufferSize then 2 else 1

def create (maxBufferSize timestamp : Nat) : Encoder σ β :=
  { packetsInRtp := framesPerPacket maxBufferSize
    packetInRtpIdx := 0
    buffer := []
    packetQueue := []
    seqVal := 0
    timestamp := timestamp
    dtmfTimestamp := 0
    connected := false
    encoded := []
    sent := [] }

def setIOContext (encoder : Encoder σ β) (sent : List (Packet β)) : Encoder σ β :=
  { encoder with connected := true, sent := sent }

def setInitSeqVal (encoder : Encoder σ β) (seqVal : Nat) : Encoder σ β :=
  { encoder with seqVal := seqVal }

def getLastSeqValue (encoder : Encoder σ β) : Nat := encoder.seqVal

def send (encoder : Encoder σ β) (payload : List β) : Encoder σ β :=
  if encoder.connected then
    { encoder with
      sent := encoder.sent ++ [⟨false, 18, encoder.seqVal, encoder.timestamp, payload⟩] }
  else encoder

def finishPacket (encoder : Encoder σ β) (payload : List β) : Encoder σ β :=
  { encoder.send payload with
    seqVal := (encoder.seqVal + 1) % 65536
    packetInRtpIdx := 0 }

def addOutput (encoder : Encoder σ β) (output : List β) : Encoder σ β :=
  if output.length = 0 then encoder.finishPacket []
  else if output.length ≠ 10 ∧ output.length ≠ 2 then encoder
  else
    let offset := encoder.packetInRtpIdx * 10
    let written := { encoder with buffer := encoder.buffer.take offset ++ output }
    if encoder.packetInRtpIdx = encoder.packetsInRtp - 1 ∨ output.length = 2 then
      written.finishPacket (written.buffer.take (offset + output.length))
    else { written with packetInRtpIdx := encoder.packetInRtpIdx + 1 }

def encodePacket (outputs : Nat → List β) (encoder : Encoder σ β) (packet : List σ) :
    Encoder σ β :=
  let called := { encoder with
    encoded := encoder.encoded ++ [packet]
    timestamp := (encoder.timestamp + 80) % 4294967296 }
  called.addOutput (outputs encoder.encoded.length)

def encode (outputs : Nat → List β) : Nat → Encoder σ β → List σ → Encoder σ β
  | 0, encoder, _ => encoder
  | fuel + 1, encoder, samples =>
    if samples = [] then encoder
    else if 80 ≤ encoder.packetQueue.length + samples.length then
      let count := 80 - encoder.packetQueue.length
      let packet := encoder.packetQueue ++ samples.take count
      encode outputs fuel (encodePacket outputs { encoder with packetQueue := [] } packet)
        (samples.drop count)
    else { encoder with packetQueue := encoder.packetQueue ++ samples }

def isSupported (format : AudioFormat) : Bool :=
  format.isS16 && format.sampleRate == 8000 && format.nbChannels == 1

def encodeAudio (outputs : Nat → List β) (encoder : Encoder σ β) (frame : PcmFrame σ) :
    Int × Encoder σ β :=
  if isSupported frame.format then
    (0, encode outputs frame.samples.length encoder frame.samples)
  else (-1, encoder)

/-- A telephone event, with the flags for the marker and for a new timestamp. -/
def sendBuffer (encoder : Encoder σ β) (event : List β) (samples : Nat)
    (marker newTimestamp : Bool) : Bool × Encoder σ β :=
  if encoder.connected = false ∨ event.length ≠ 4 then (false, encoder)
  else
    let stamp := if newTimestamp then encoder.timestamp else encoder.dtmfTimestamp
    (true, { encoder with
      dtmfTimestamp := stamp
      sent := encoder.sent ++ [⟨marker, 101, encoder.seqVal, stamp, event⟩]
      seqVal := (encoder.seqVal + 1) % 65536
      timestamp := (encoder.timestamp + samples) % 4294967296 })

theorem finishPacket_sent (connected : encoder.connected = true) (payload : List β) :
    (encoder.finishPacket payload).sent =
      encoder.sent ++ [⟨false, 18, encoder.seqVal, encoder.timestamp, payload⟩] := by
  unfold finishPacket send
  rw [if_pos connected]

structure SameCalls (encoder after : Encoder σ β) : Prop where
  packetsInRtp : after.packetsInRtp = encoder.packetsInRtp
  connected : after.connected = encoder.connected
  encoded : after.encoded = encoder.encoded
  packetQueue : after.packetQueue = encoder.packetQueue
  timestamp : after.timestamp = encoder.timestamp

theorem finishPacket_sameCalls (encoder : Encoder σ β) (payload : List β) :
    SameCalls encoder (encoder.finishPacket payload) := by
  unfold finishPacket send
  split <;> exact ⟨rfl, rfl, rfl, rfl, rfl⟩

private theorem addOutput_sameCalls (encoder : Encoder σ β) (output : List β) :
    SameCalls encoder (encoder.addOutput output) := by
  unfold addOutput
  split
  · exact finishPacket_sameCalls encoder []
  · split
    · exact ⟨rfl, rfl, rfl, rfl, rfl⟩
    · split
      · obtain ⟨first, second, third, fourth, fifth⟩ := finishPacket_sameCalls
          { encoder with buffer := encoder.buffer.take (encoder.packetInRtpIdx * 10) ++ output } _
        exact ⟨first, second, third, fourth, fifth⟩
      · exact ⟨rfl, rfl, rfl, rfl, rfl⟩

theorem encodePacket_calls (encoder : Encoder σ β) (packet : List σ) :
    (encodePacket outputs encoder packet).packetsInRtp = encoder.packetsInRtp ∧
      (encodePacket outputs encoder packet).connected = encoder.connected ∧
      (encodePacket outputs encoder packet).encoded = encoder.encoded ++ [packet] ∧
      (encodePacket outputs encoder packet).packetQueue = encoder.packetQueue ∧
      (encodePacket outputs encoder packet).timestamp = (encoder.timestamp + 80) % 4294967296 := by
  obtain ⟨first, second, third, fourth, fifth⟩ := addOutput_sameCalls
    { encoder with
      encoded := encoder.encoded ++ [packet]
      timestamp := (encoder.timestamp + 80) % 4294967296 } (outputs encoder.encoded.length)
  exact ⟨first, second, third, fourth, fifth⟩

/-- The blocks and the samples that wait are the input, cut every eighty samples. -/
structure Blocked (input : List σ) (encoder : Encoder σ β) : Prop where
  whole : encoder.encoded.flatten ++ encoder.packetQueue = input
  blocks : ∀ block ∈ encoder.encoded, block.length = 80
  waiting : encoder.packetQueue.length < 80

theorem Blocked.calls (blocked : Blocked input encoder) :
    encoder.encoded.length = input.length / 80 := by
  have total : encoder.encoded.flatten.length = 80 * encoder.encoded.length := by
    have blocks := blocked.blocks
    generalize encoder.encoded = encoded at blocks
    induction encoded with
    | nil => rfl
    | cons block rest ih =>
      rw [List.flatten_cons, List.length_append, List.length_cons,
        blocks block List.mem_cons_self,
        ih (fun other member => blocks other (List.mem_cons_of_mem block member))]
      omega
  have waiting := blocked.waiting
  rw [← blocked.whole, List.length_append]
  omega

private theorem encode_blocked (fuel : Nat) (blocked : Blocked input encoder) (samples : List σ)
    (enough : samples.length ≤ fuel) :
    Blocked (input ++ samples) (encode outputs fuel encoder samples) := by
  induction fuel generalizing input encoder samples with
  | zero =>
    have empty : samples = [] := List.length_eq_zero_iff.mp (Nat.le_zero.mp enough)
    rw [empty, List.append_nil]
    exact blocked
  | succ fuel ih =>
    have waiting := blocked.waiting
    unfold encode
    split
    · rename_i empty
      rw [empty, List.append_nil]
      exact blocked
    · split
      · obtain ⟨_, _, encoded, queue, _⟩ := encodePacket_calls outputs
          { encoder with packetQueue := [] }
          (encoder.packetQueue ++ samples.take (80 - encoder.packetQueue.length))
        have next : Blocked (input ++ samples.take (80 - encoder.packetQueue.length))
            (encodePacket outputs { encoder with packetQueue := [] }
              (encoder.packetQueue ++ samples.take (80 - encoder.packetQueue.length))) := by
          constructor
          · rw [encoded, queue, List.flatten_append, List.flatten_singleton, List.append_nil,
              ← List.append_assoc, blocked.whole]
          · intro block member
            rw [encoded] at member
            rcases List.mem_append.mp member with before | last
            · exact blocked.blocks block before
            · rw [List.mem_singleton.mp last, List.length_append, List.length_take]
              omega
          · rw [queue]
            exact Nat.zero_lt_succ 79
        have rest := ih next (samples.drop (80 - encoder.packetQueue.length))
          (by rw [List.length_drop]; omega)
        rw [List.append_assoc, List.take_append_drop] at rest
        exact rest
      · constructor
        · rw [← List.append_assoc, blocked.whole]
        · exact blocked.blocks
        · rw [List.length_append]
          omega

theorem encode_keeps {outputs : Nat → List β} (invariant : Encoder σ β → Prop)
    (packets : ∀ encoder packet, invariant encoder → invariant (encodePacket outputs encoder packet))
    (queues : ∀ encoder queue, invariant encoder → invariant { encoder with packetQueue := queue })
    (fuel : Nat) (holds : invariant encoder) (samples : List σ) :
    invariant (encode outputs fuel encoder samples) := by
  induction fuel generalizing encoder samples with
  | zero => exact holds
  | succ fuel ih =>
    unfold encode
    split
    · exact holds
    · split
      · exact ih (packets _ _ (queues _ _ holds)) _
      · exact queues _ _ holds

def acceptedInput (frames : List (PcmFrame σ)) : List σ :=
  (frames.filter (fun frame => isSupported frame.format)).flatMap PcmFrame.samples

private theorem acceptedInput_cons (frame : PcmFrame σ) (rest : List (PcmFrame σ)) :
    acceptedInput (frame :: rest) =
      (if isSupported frame.format = true then frame.samples else []) ++ acceptedInput rest := by
  unfold acceptedInput
  rw [List.filter_cons]
  split
  · rw [List.flatMap_cons]
  · rfl

def afterFrames (outputs : Nat → List β) (maxBufferSize timestamp : Nat)
    (frames : List (PcmFrame σ)) : Encoder σ β :=
  Run.after (fun encoder frame => (encodeAudio outputs encoder frame).2)
    ((create maxBufferSize timestamp).setIOContext []) frames

theorem run_keeps {outputs : Nat → List β} (invariant : Encoder σ β → Prop)
    (packets : ∀ encoder packet, invariant encoder → invariant (encodePacket outputs encoder packet))
    (queues : ∀ encoder queue, invariant encoder →
      invariant { encoder with packetQueue := queue })
    {start : Encoder σ β} (holds : invariant start) (frames : List (PcmFrame σ)) :
    invariant (Run.after (fun encoder frame => (encodeAudio outputs encoder frame).2) start
      frames) := by
  induction frames generalizing start with
  | nil => exact holds
  | cons frame rest ih =>
    rw [Run.after_cons]
    apply ih
    unfold encodeAudio
    split
    · exact encode_keeps invariant packets queues _ holds _
    · exact holds

theorem run_blocked {start : Encoder σ β} (blocked : Blocked input start)
    (frames : List (PcmFrame σ)) :
    Blocked (input ++ acceptedInput frames)
      (Run.after (fun encoder frame => (encodeAudio outputs encoder frame).2) start frames) := by
  induction frames generalizing input start with
  | nil =>
    change Blocked (input ++ []) start
    rw [List.append_nil]
    exact blocked
  | cons frame rest ih =>
    rw [Run.after_cons, acceptedInput_cons, ← List.append_assoc]
    apply ih
    unfold encodeAudio
    split
    · exact encode_blocked outputs _ blocked frame.samples (Nat.le_refl _)
    · rw [List.append_nil]
      exact blocked

theorem afterFrames_blocked (maxBufferSize timestamp : Nat) (frames : List (PcmFrame σ)) :
    Blocked (acceptedInput frames) (afterFrames outputs maxBufferSize timestamp frames) := by
  have start : Blocked ([] : List σ)
      ((create maxBufferSize timestamp : Encoder σ β).setIOContext []) :=
    ⟨rfl, nofun, Nat.zero_lt_succ 79⟩
  exact run_blocked outputs start frames

end Encoder

end SipCore.G729
