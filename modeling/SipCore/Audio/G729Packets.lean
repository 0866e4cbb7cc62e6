/-
From the outputs of the G.729 codec to the packets of its encoder. One frame or two
share a packet, a noise frame ends it, and nothing ends it too.

A call of the codec that returns nothing throws away the frame that waits in the packet,
and the timestamp of a packet is that of its last block.
-/

import SipCore.Audio.G729Encoder
import Mathlib.Data.Nat.ModEq

namespace SipCore.G729

variable {σ β : Type}

variable {encoder : Encoder σ β}

variable {call : Nat}

namespace Encoder

def Lengths (outputs : Nat → List β) : Prop :=
  ∀ call, (outputs call).length = 10 ∨ (outputs call).length = 2 ∨ (outputs call).length = 0

def framesInRow (outputs : Nat → List β) : Nat → Nat
  | 0 => 0
  | call + 1 => if (outputs call).length = 10 then framesInRow outputs call + 1 else 0

def fill (packetsInRtp : Nat) (outputs : Nat → List β) (call : Nat) : Nat :=
  framesInRow outputs call % packetsInRtp

private theorem fill_frame {packetsInRtp : Nat} {outputs : Nat → List β}
    (frame : (outputs call).length = 10) (room : fill packetsInRtp outputs call + 1 < packetsInRtp) :
    fill packetsInRtp outputs (call + 1) = fill packetsInRtp outputs call + 1 := by
  unfold fill at room ⊢
  rw [framesInRow, if_pos frame, ← Nat.mod_add_mod, Nat.mod_eq_of_lt room]

theorem fill_closed {packetsInRtp : Nat} {outputs : Nat → List β} (positive : 0 < packetsInRtp)
    (closes : fill packetsInRtp outputs call = packetsInRtp - 1 ∨ (outputs call).length ≠ 10) :
    fill packetsInRtp outputs (call + 1) = 0 := by
  unfold fill at closes ⊢
  rw [framesInRow]
  split
  · rename_i frame
    have full := closes.resolve_right (not_not_intro frame)
    rw [← Nat.mod_add_mod, full, Nat.sub_add_cancel positive, Nat.mod_self]
  · exact Nat.zero_mod _

/-- What a call of the codec can do to the packet: nothing was returned and a
packet without payload is sent, the packet is sent with the output, or the output
is one frame more in it. -/
inductive Outcome (encoder after : Encoder σ β) (output : List β) : Prop
  | silent (noBytes : output.length = 0)
      (idx : after.packetInRtpIdx = 0)
      (sent : after.sent = encoder.sent ++
        [⟨false, 18, encoder.seqVal, (encoder.timestamp + 80) % 4294967296, []⟩])
  | closes (nonempty : output.length ≠ 0)
      (last : encoder.packetInRtpIdx = encoder.packetsInRtp - 1 ∨ output.length = 2)
      (idx : after.packetInRtpIdx = 0)
      (sent : after.sent = encoder.sent ++
        [⟨false, 18, encoder.seqVal, (encoder.timestamp + 80) % 4294967296,
          encoder.buffer.take (encoder.packetInRtpIdx * 10) ++ output⟩])
  | fills (frame : output.length = 10)
      (room : encoder.packetInRtpIdx ≠ encoder.packetsInRtp - 1)
      (idx : after.packetInRtpIdx = encoder.packetInRtpIdx + 1)
      (buffer : after.buffer = encoder.buffer.take (encoder.packetInRtpIdx * 10) ++ output)
      (sent : after.sent = encoder.sent)

theorem take_written {offset count : Nat} (buffer : List β) {output : List β}
    (enough : offset + output.length ≤ count) :
    (buffer.take offset ++ output).take count = buffer.take offset ++ output := by
  apply List.take_of_length_le
  rw [List.length_append, List.length_take]
  omega

private theorem encodePacket_outcome {outputs : Nat → List β} (lengths : Lengths outputs)
    (connected : encoder.connected = true) (packet : List σ) :
    Outcome encoder (encodePacket outputs encoder packet) (outputs encoder.encoded.length) := by
  have length := lengths encoder.encoded.length
  generalize result : outputs encoder.encoded.length = output at length
  unfold encodePacket addOutput
  rw [result]
  by_cases silent : output.length = 0
  · simp only [if_pos silent]
    exact .silent silent rfl (finishPacket_sent (by exact connected) [])
  · have known : ¬(output.length ≠ 10 ∧ output.length ≠ 2) := by omega
    simp only [if_neg silent, if_neg known]
    by_cases closes : encoder.packetInRtpIdx = encoder.packetsInRtp - 1 ∨ output.length = 2
    · simp only [if_pos closes, take_written encoder.buffer (Nat.le_refl _)]
      exact .closes silent closes rfl (finishPacket_sent (by exact connected) _)
    · simp only [if_neg closes]
      rw [not_or] at closes
      exact .fills (by omega) closes.1 rfl rfl rfl

structure Packed (outputs : Nat → List β) (encoder : Encoder σ β) : Prop where
  connected : encoder.connected = true
  positive : 0 < encoder.packetsInRtp
  level : encoder.packetInRtpIdx = fill encoder.packetsInRtp outputs encoder.encoded.length
  held : encoder.packetInRtpIdx * 10 ≤ encoder.buffer.length

theorem Packed.room {outputs : Nat → List β} (packed : Packed outputs encoder) :
    encoder.packetInRtpIdx < encoder.packetsInRtp := by
  rw [packed.level]
  exact Nat.mod_lt _ packed.positive

theorem Packed.outcome {outputs : Nat → List β} (lengths : Lengths outputs)
    (packed : Packed outputs encoder) (packet : List σ) :
    Outcome encoder (encodePacket outputs encoder packet) (outputs encoder.encoded.length) :=
  encodePacket_outcome lengths packed.connected packet

theorem encodePacket_count (outputs : Nat → List β) (encoder : Encoder σ β) (packet : List σ) :
    (encodePacket outputs encoder packet).encoded.length = encoder.encoded.length + 1 := by
  obtain ⟨_, _, encoded, _, _⟩ := encodePacket_calls outputs encoder packet
  rw [encoded, List.length_append, List.length_singleton]

theorem Packed.encodePacket {outputs : Nat → List β} (lengths : Lengths outputs)
    (packed : Packed outputs encoder) (packet : List σ) :
    Packed outputs (encodePacket outputs encoder packet) := by
  obtain ⟨sameSize, sameSocket, _, _, _⟩ := encodePacket_calls outputs encoder packet
  have level := packed.level
  have held := packed.held
  have room := packed.room
  have connected := sameSocket.trans packed.connected
  have positive := sameSize.symm ▸ packed.positive
  cases packed.outcome lengths packet with
  | silent noBytes idx sent =>
    refine ⟨connected, positive, ?_, ?_⟩
    · rw [idx, encodePacket_count, fill_closed positive (Or.inr (by omega))]
    · rw [idx, Nat.zero_mul]
      exact Nat.zero_le _
  | closes nonempty last idx sent =>
    refine ⟨connected, positive, ?_, ?_⟩
    · rw [idx, sameSize, encodePacket_count, fill_closed packed.positive]
      rw [← level]
      exact last.imp_right (fun noise => by omega)
    · rw [idx, Nat.zero_mul]
      exact Nat.zero_le _
  | fills frame open_ idx buffer sent =>
    refine ⟨connected, positive, ?_, ?_⟩
    · rw [idx, sameSize, encodePacket_count, fill_frame frame (by omega), ← level]
    · rw [idx, buffer, List.length_append, List.length_take]
      omega

theorem afterFrames_packetsInRtp (outputs : Nat → List β) (maxBufferSize timestamp : Nat)
    (frames : List (PcmFrame σ)) :
    (afterFrames outputs maxBufferSize timestamp frames).packetsInRtp =
      framesPerPacket maxBufferSize := by
  refine run_keeps (fun encoder => encoder.packetsInRtp = framesPerPacket maxBufferSize)
    ?_ ?_ rfl frames
  · intro encoder packet same
    exact (encodePacket_calls outputs encoder packet).1.trans same
  · intro encoder queue same
    exact same

theorem framesPerPacket_positive (maxBufferSize : Nat) : 0 < framesPerPacket maxBufferSize := by
  unfold framesPerPacket
  split <;> omega

theorem afterFrames_invariant {outputs : Nat → List β} (lengths : Lengths outputs)
    (invariant : Encoder σ β → Prop) {maxBufferSize timestamp : Nat}
    (start : invariant ((create maxBufferSize timestamp).setIOContext []))
    (packets : ∀ encoder packet, Packed outputs encoder → invariant encoder →
      invariant (encodePacket outputs encoder packet))
    (queues : ∀ encoder queue, invariant encoder →
      invariant { encoder with packetQueue := queue })
    (frames : List (PcmFrame σ)) :
    Packed outputs (afterFrames outputs maxBufferSize timestamp frames) ∧
      invariant (afterFrames outputs maxBufferSize timestamp frames) := by
  have packed : Packed outputs
      ((create maxBufferSize timestamp : Encoder σ β).setIOContext []) :=
    ⟨rfl, framesPerPacket_positive maxBufferSize, (Nat.zero_mod _).symm, Nat.zero_le _⟩
  refine run_keeps (fun encoder => Packed outputs encoder ∧ invariant encoder) ?_ ?_ ⟨packed, start⟩
    frames
  · rintro encoder packet ⟨held, holds⟩
    exact ⟨held.encodePacket lengths packet, packets encoder packet held holds⟩
  · rintro encoder queue ⟨⟨connected, positive, level, held⟩, holds⟩
    exact ⟨⟨connected, positive, level, held⟩, queues encoder queue holds⟩

/-! ### No output is lost -/

def returned (outputs : Nat → List β) (calls : Nat) : List (List β) :=
  (List.range calls).map outputs

theorem returned_succ (outputs : Nat → List β) (calls : Nat) :
    returned outputs (calls + 1) = returned outputs calls ++ [outputs calls] := by
  unfold returned
  rw [List.range_succ, List.map_append, List.map_singleton]

/-- The payloads are the outputs that are not empty, in groups and in their order;
those left over are in the buffer of a packet that is not full. -/
def Conserved (outputs : Nat → List β) (encoder : Encoder σ β) : Prop :=
  ∃ (groups : List (List (List β))) (waiting : List (List β)),
    encoder.sent.map Packet.payload = groups.map List.flatten ∧
    groups.flatten ++ waiting =
      (returned outputs encoder.encoded.length).filter (fun output => !output.isEmpty) ∧
    waiting.length = encoder.packetInRtpIdx ∧
    encoder.packetInRtpIdx < encoder.packetsInRtp ∧
    waiting.flatten = encoder.buffer.take (encoder.packetInRtpIdx * 10)

/-- No call returns nothing while there are frames in the packet. -/
def Unbroken (packetsInRtp : Nat) (outputs : Nat → List β) (calls : Nat) : Prop :=
  ∀ call < calls, (outputs call).length = 0 → fill packetsInRtp outputs call = 0

theorem Unbroken.of_succ {packetsInRtp : Nat} {outputs : Nat → List β} {calls : Nat}
    (unbroken : Unbroken packetsInRtp outputs (calls + 1)) :
    Unbroken packetsInRtp outputs calls :=
  fun call before => unbroken call (Nat.lt_succ_of_lt before)

private theorem filter_returned_empty {outputs : Nat → List β} {calls : Nat}
    (noBytes : (outputs calls).length = 0) :
    (returned outputs (calls + 1)).filter (fun output => !output.isEmpty) =
      (returned outputs calls).filter (fun output => !output.isEmpty) := by
  rw [returned_succ, List.filter_append, List.length_eq_zero_iff.mp noBytes]
  exact List.append_nil _

private theorem filter_returned_some {outputs : Nat → List β} {calls : Nat}
    (nonempty : (outputs calls).length ≠ 0) :
    (returned outputs (calls + 1)).filter (fun output => !output.isEmpty) =
      (returned outputs calls).filter (fun output => !output.isEmpty) ++ [outputs calls] := by
  have kept : (!(outputs calls).isEmpty) = true := by
    cases same : outputs calls with
    | nil => exact absurd (same ▸ rfl) nonempty
    | cons byte rest => rfl
  rw [returned_succ, List.filter_append, List.filter_singleton, kept]
  rfl

theorem Conserved.encodePacket {outputs : Nat → List β} (lengths : Lengths outputs)
    (packed : Packed outputs encoder) (packet : List σ)
    (unbroken : Unbroken encoder.packetsInRtp outputs (encoder.encoded.length + 1))
    (conserved : Conserved outputs encoder) :
    Conserved outputs (encodePacket outputs encoder packet) := by
  obtain ⟨groups, waiting, payloads, order, count, _, buffered⟩ := conserved
  have room := (packed.encodePacket lengths packet).room
  unfold Conserved
  rw [encodePacket_count]
  cases packed.outcome lengths packet with
  | silent noBytes idx sent =>
    have empty : waiting = [] := by
      rw [← List.length_eq_zero_iff, count, packed.level]
      exact unbroken _ (Nat.lt_succ_self _) noBytes
    refine ⟨groups ++ [[]], [], ?_, ?_, idx.symm, room, ?_⟩
    · rw [sent, List.map_append, payloads, List.map_append]
      rfl
    · rw [filter_returned_empty noBytes, ← order, empty, List.flatten_append,
        List.flatten_singleton, List.append_nil]
    · rw [idx]
      rfl
  | closes nonempty last idx sent =>
    refine ⟨groups ++ [waiting ++ [outputs encoder.encoded.length]], [], ?_, ?_, idx.symm,
      room, ?_⟩
    · rw [sent, List.map_append, payloads, List.map_append, List.map_singleton,
        List.map_singleton, List.flatten_append, List.flatten_singleton, buffered]
    · rw [filter_returned_some nonempty, ← order, List.flatten_append, List.flatten_singleton,
        List.append_nil, List.append_assoc]
    · rw [idx]
      rfl
  | fills frame open_ idx buffer sent =>
    refine ⟨groups, waiting ++ [outputs encoder.encoded.length], ?_, ?_, ?_, room, ?_⟩
    · rw [sent, payloads]
    · rw [filter_returned_some (by omega), ← order, List.append_assoc]
    · rw [idx, List.length_append, count, List.length_singleton]
    · rw [idx, buffer, List.flatten_append, List.flatten_singleton, buffered,
        take_written encoder.buffer (by omega)]

def lost (packetsInRtp : Nat) (outputs : Nat → List β) : Nat → Nat
  | 0 => 0
  | call + 1 =>
    lost packetsInRtp outputs call +
      if (outputs call).length = 0 then fill packetsInRtp outputs call else 0

private theorem unbroken_of_lost {packetsInRtp : Nat} {outputs : Nat → List β} {calls : Nat}
    (nothing : lost packetsInRtp outputs calls = 0) : Unbroken packetsInRtp outputs calls := by
  induction calls with
  | zero => exact fun call before => absurd before (Nat.not_lt_zero call)
  | succ calls ih =>
    unfold lost at nothing
    obtain ⟨earlier, last⟩ := Nat.add_eq_zero_iff.mp nothing
    intro call before silent
    rcases Nat.lt_succ_iff_lt_or_eq.mp before with less | same
    · exact ih earlier call less silent
    · subst same
      rw [if_pos silent] at last
      exact last

/-- Every byte that the codec returned was sent, is in the buffer or was lost. -/
def Weighed (outputs : Nat → List β) (encoder : Encoder σ β) : Prop :=
  (encoder.sent.map Packet.payload).flatten.length + 10 * encoder.packetInRtpIdx +
      10 * lost encoder.packetsInRtp outputs encoder.encoded.length =
    (returned outputs encoder.encoded.length).flatten.length

theorem Weighed.encodePacket {outputs : Nat → List β} (lengths : Lengths outputs)
    (packed : Packed outputs encoder) (packet : List σ) (weighed : Weighed outputs encoder) :
    Weighed outputs (encodePacket outputs encoder packet) := by
  have level := packed.level
  have held := packed.held
  have more : (returned outputs (encoder.encoded.length + 1)).flatten.length =
      (returned outputs encoder.encoded.length).flatten.length +
        (outputs encoder.encoded.length).length := by
    rw [returned_succ, List.flatten_append, List.flatten_singleton, List.length_append]
  have payloads : ∀ sent (packet : Packet β),
      ((sent ++ [packet]).map Packet.payload).flatten.length =
        (sent.map Packet.payload).flatten.length + packet.payload.length := by
    intro sent packet
    rw [List.map_append, List.flatten_append, List.length_append, List.map_singleton,
      List.flatten_singleton]
  obtain ⟨sameSize, _, _, _, _⟩ := encodePacket_calls outputs encoder packet
  unfold Weighed at weighed ⊢
  rw [sameSize, encodePacket_count, more, ← weighed, lost]
  cases packed.outcome lengths packet with
  | silent noBytes idx sent =>
    rw [sent, idx, payloads, if_pos noBytes, ← level, noBytes]
    change _ + 0 + _ + _ = _
    omega
  | closes nonempty last idx sent =>
    rw [sent, idx, payloads, if_neg nonempty, List.length_append, List.length_take]
    omega
  | fills frame open_ idx buffer sent =>
    rw [sent, idx, if_neg (by omega), frame]
    omega

private theorem flatten_filter_nonempty (outputs : List (List β)) :
    (outputs.filter (fun output => !output.isEmpty)).flatten = outputs.flatten := by
  induction outputs with
  | nil => rfl
  | cons output rest ih =>
    cases output with
    | nil => exact ih
    | cons byte bytes =>
      rw [List.filter_cons_of_pos rfl, List.flatten_cons, List.flatten_cons, ih]

theorem Conserved.bytes {outputs : Nat → List β} (conserved : Conserved outputs encoder) :
    (encoder.sent.map Packet.payload).flatten ++
        encoder.buffer.take (encoder.packetInRtpIdx * 10) =
      (returned outputs encoder.encoded.length).flatten := by
  obtain ⟨groups, waiting, payloads, order, _, _, buffered⟩ := conserved
  rw [← flatten_filter_nonempty (returned outputs encoder.encoded.length), ← order,
    List.flatten_append, buffered, payloads, List.flatten_flatten]

theorem Conserved.unbroken {outputs : Nat → List β} (conserved : Conserved outputs encoder)
    (weighed : Weighed outputs encoder) :
    Unbroken encoder.packetsInRtp outputs encoder.encoded.length := by
  unfold Weighed at weighed
  rw [← conserved.bytes, List.length_append, List.length_take] at weighed
  exact unbroken_of_lost (by omega)

/-- Whatever the sizes of the frames: the codec is called on the consecutive
blocks, and its outputs arrive once and in order, exactly if nothing was returned
only between packets. -/
theorem outputs_conserved_iff_unbroken {outputs : Nat → List β} (lengths : Lengths outputs)
    (maxBufferSize timestamp : Nat) (frames : List (PcmFrame σ)) :
    Blocked (acceptedInput frames) (afterFrames outputs maxBufferSize timestamp frames) ∧
        Conserved outputs (afterFrames outputs maxBufferSize timestamp frames) ↔
      Unbroken (framesPerPacket maxBufferSize) outputs ((acceptedInput frames).length / 80) := by
  have blocked : Blocked (acceptedInput frames)
      (afterFrames outputs maxBufferSize timestamp frames) :=
    afterFrames_blocked outputs maxBufferSize timestamp frames
  rw [← blocked.calls, ← afterFrames_packetsInRtp outputs maxBufferSize timestamp frames]
  constructor
  · rintro ⟨_, conserved⟩
    obtain ⟨_, weighed⟩ := afterFrames_invariant lengths (Weighed outputs)
      (rfl : Weighed outputs ((create maxBufferSize timestamp : Encoder σ β).setIOContext []))
      (fun _ packet packed weighed => weighed.encodePacket lengths packed packet)
      (fun _ _ weighed => weighed) frames
    exact conserved.unbroken weighed
  · intro unbroken
    have start : Conserved outputs ((create maxBufferSize timestamp : Encoder σ β).setIOContext []) :=
      ⟨[], [], rfl, rfl, rfl, framesPerPacket_positive maxBufferSize, rfl⟩
    -- carried along the run as long as the calls are unbroken
    obtain ⟨_, conserved⟩ := afterFrames_invariant lengths
      (fun encoder => Unbroken encoder.packetsInRtp outputs encoder.encoded.length →
        Conserved outputs encoder) (fun _ => start)
      (fun encoder packet packed earlier whole => by
        rw [(encodePacket_calls outputs encoder packet).1, encodePacket_count] at whole
        exact (earlier whole.of_succ).encodePacket lengths packed packet whole)
      (fun _ _ holds => holds) frames
    exact ⟨blocked, conserved unbroken⟩

def blankFrame (blocks : Nat) : PcmFrame Nat :=
  ⟨⟨true, 8000, 1⟩, List.replicate (80 * blocks) 0⟩

def ofLengths (lengths : List Nat) (call : Nat) : List Nat :=
  List.replicate (lengths.getD call 0) call

theorem lengths_ofLengths {lengths : List Nat}
    (known : ∀ length ∈ lengths, length = 10 ∨ length = 2 ∨ length = 0) :
    Lengths (ofLengths lengths) := by
  intro call
  unfold ofLengths
  rw [List.length_replicate, List.getD_eq_getElem?_getD]
  cases found : lengths[call]? with
  | none => exact .inr (.inr rfl)
  | some length => exact known length (List.mem_of_getElem? found)

theorem two_frames_then_nothing_conserved :
    Blocked (acceptedInput [blankFrame 3])
        (afterFrames (ofLengths [10, 10, 0]) 1200 0 [blankFrame 3]) ∧
      Conserved (ofLengths [10, 10, 0])
        (afterFrames (ofLengths [10, 10, 0]) 1200 0 [blankFrame 3]) :=
  (outputs_conserved_iff_unbroken (lengths_ofLengths (by decide)) 1200 0 [blankFrame 3]).mpr
    (by unfold Unbroken; decide +kernel)

/-- A frame waits in the packet when nothing is returned, and is never sent. -/
theorem frame_before_nothing_not_conserved :
    Lengths (ofLengths [10, 0]) ∧
      ¬(Blocked (acceptedInput [blankFrame 2])
          (afterFrames (ofLengths [10, 0]) 1200 0 [blankFrame 2]) ∧
        Conserved (ofLengths [10, 0])
          (afterFrames (ofLengths [10, 0]) 1200 0 [blankFrame 2])) := by
  refine ⟨lengths_ofLengths (by decide), ?_⟩
  rintro ⟨_, conserved⟩
  have bytes := conserved.bytes
  revert bytes
  decide +kernel

/-! ### The timestamp of a packet -/

def tagged (outputs : Nat → List β) (call : Nat) : List (β × Nat) :=
  (outputs call).map (fun byte => (byte, call))

theorem length_tagged (outputs : Nat → List β) (call : Nat) :
    (tagged outputs call).length = (outputs call).length :=
  List.length_map _

theorem fill_tagged (packetsInRtp : Nat) (outputs : Nat → List β) (call : Nat) :
    fill packetsInRtp (tagged outputs) call = fill packetsInRtp outputs call := by
  have row : framesInRow (tagged outputs) call = framesInRow outputs call := by
    induction call with
    | zero => rfl
    | succ call ih =>
      unfold framesInRow
      rw [length_tagged, ih]
  unfold fill
  rw [row]

def ClosesPacket (packetsInRtp : Nat) (outputs : Nat → List β) (call : Nat) : Prop :=
  (outputs call).length ≠ 0 ∧
    (fill packetsInRtp outputs call = packetsInRtp - 1 ∨ (outputs call).length = 2)

private theorem closesPacket_tagged (packetsInRtp : Nat) (outputs : Nat → List β) (call : Nat) :
    ClosesPacket packetsInRtp (tagged outputs) call ↔ ClosesPacket packetsInRtp outputs call := by
  unfold ClosesPacket
  rw [length_tagged, fill_tagged]

structure SentAt (start packetsInRtp : Nat) (outputs : Nat → List (β × Nat)) (call : Nat)
    (packet : Packet (β × Nat)) (first : β × Nat) : Prop where
  front : packet.payload.head? = some first
  closes : ClosesPacket packetsInRtp outputs call
  timestamp : packet.timestamp = (start + 80 * (call + 1)) % 4294967296
  index : first.2 + fill packetsInRtp outputs call = call

/-- The packets with payload are those of the calls that end one. -/
structure SentAtCalls (start packetsInRtp : Nat) (outputs : Nat → List (β × Nat)) (calls : Nat)
    (sent : List (Packet (β × Nat))) : Prop where
  only : ∀ packet ∈ sent, ∀ first, packet.payload.head? = some first →
    ∃ call < calls, SentAt start packetsInRtp outputs call packet first
  every : ∀ call < calls, ClosesPacket packetsInRtp outputs call →
    ∃ packet ∈ sent, ∃ first, SentAt start packetsInRtp outputs call packet first

section SentAtCalls

variable {start packetsInRtp : Nat} {outputs : Nat → List (β × Nat)} {calls : Nat}
  {sent : List (Packet (β × Nat))}

section

variable (sentAt : SentAtCalls start packetsInRtp outputs calls sent)
include sentAt

theorem SentAtCalls.skip (open_ : ¬ClosesPacket packetsInRtp outputs calls) :
    SentAtCalls start packetsInRtp outputs (calls + 1) sent := by
  constructor
  · intro packet member first front
    obtain ⟨call, less, here⟩ := sentAt.only packet member first front
    exact ⟨call, Nat.lt_succ_of_lt less, here⟩
  · intro call less closes
    rcases Nat.lt_succ_iff_lt_or_eq.mp less with earlier | same
    · exact sentAt.every call earlier closes
    · exact absurd (same ▸ closes) open_

theorem SentAtCalls.append_empty {packet : Packet (β × Nat)} (empty : packet.payload = []) :
    SentAtCalls start packetsInRtp outputs calls (sent ++ [packet]) := by
  constructor
  · intro other member first front
    rcases List.mem_append.mp member with old | new
    · exact sentAt.only other old first front
    · rw [List.mem_singleton.mp new, empty] at front
      exact nomatch front
  · intro call less closes
    obtain ⟨other, member, here⟩ := sentAt.every call less closes
    exact ⟨other, List.mem_append_left _ member, here⟩

theorem SentAtCalls.append {packet : Packet (β × Nat)} {front : β × Nat}
    (now : SentAt start packetsInRtp outputs calls packet front) :
    SentAtCalls start packetsInRtp outputs (calls + 1) (sent ++ [packet]) := by
  constructor
  · intro other member first firstOf
    rcases List.mem_append.mp member with old | new
    · obtain ⟨call, less, here⟩ := sentAt.only other old first firstOf
      exact ⟨call, Nat.lt_succ_of_lt less, here⟩
    · rw [List.mem_singleton.mp new] at firstOf ⊢
      have same : front = first := Option.some.inj (now.front.symm.trans firstOf)
      exact ⟨calls, Nat.lt_succ_self calls, same ▸ now⟩
  · intro call less closes
    rcases Nat.lt_succ_iff_lt_or_eq.mp less with earlier | same
    · obtain ⟨other, member, here⟩ := sentAt.every call earlier closes
      exact ⟨other, List.mem_append_left _ member, here⟩
    · rw [same]
      exact ⟨packet, List.mem_append_right _ List.mem_cons_self, front, now⟩

end

end SentAtCalls

/-- The counter and the packets after a number of calls, and the first block of
the packet that is being filled. -/
structure Stamped (start : Nat) (outputs : Nat → List (β × Nat))
    (encoder : Encoder σ (β × Nat)) : Prop where
  timestamp : encoder.timestamp % 4294967296 = (start + 80 * encoder.encoded.length) % 4294967296
  waiting : 0 < encoder.packetInRtpIdx →
    ∃ first, (encoder.buffer.take (encoder.packetInRtpIdx * 10)).head? = some first ∧
      first.2 + encoder.packetInRtpIdx = encoder.encoded.length
  sentAt : SentAtCalls start encoder.packetsInRtp outputs encoder.encoded.length encoder.sent

theorem Stamped.front {start : Nat} {outputs : Nat → List β}
    {encoder : Encoder σ (β × Nat)} (stamped : Stamped start (tagged outputs) encoder)
    (nonempty : (tagged outputs encoder.encoded.length).length ≠ 0) :
    ∃ first, (encoder.buffer.take (encoder.packetInRtpIdx * 10) ++
        tagged outputs encoder.encoded.length).head? = some first ∧
      first.2 + encoder.packetInRtpIdx = encoder.encoded.length := by
  rcases Nat.eq_zero_or_pos encoder.packetInRtpIdx with empty | part
  · rw [empty, Nat.zero_mul, List.take_zero, List.nil_append]
    unfold tagged at nonempty ⊢
    cases same : outputs encoder.encoded.length with
    | nil =>
      rw [same] at nonempty
      exact absurd rfl nonempty
    | cons byte rest => exact ⟨(byte, encoder.encoded.length), rfl, rfl⟩
  · obtain ⟨first, front, index⟩ := stamped.waiting part
    exact ⟨first, by rw [List.head?_append, front]; rfl, index⟩

theorem Stamped.encodePacket {start : Nat} {outputs : Nat → List β}
    (lengths : Lengths (tagged outputs)) {encoder : Encoder σ (β × Nat)}
    (packed : Packed (tagged outputs) encoder) (packet : List σ)
    (stamped : Stamped start (tagged outputs) encoder) :
    Stamped start (tagged outputs) (encodePacket (tagged outputs) encoder packet) := by
  obtain ⟨sameSize, _, _, _, later⟩ := encodePacket_calls (tagged outputs) encoder packet
  have level := packed.level
  have next : (encoder.timestamp + 80) % 4294967296 =
      (start + 80 * (encoder.encoded.length + 1)) % 4294967296 := by
    have timestamp := stamped.timestamp
    omega
  have current : (Encoder.encodePacket (tagged outputs) encoder packet).timestamp % 4294967296 =
      (start + 80 * (encoder.encoded.length + 1)) % 4294967296 := by
    rw [later, next, Nat.mod_mod]
  rw [← encodePacket_count (tagged outputs) encoder packet] at current
  cases packed.outcome lengths packet with
  | silent noBytes idx sent =>
    refine ⟨current, fun part => absurd idx (Nat.pos_iff_ne_zero.mp part), ?_⟩
    rw [sameSize, encodePacket_count, sent]
    exact (stamped.sentAt.skip (fun closes => closes.1 noBytes)).append_empty rfl
  | closes nonempty last idx sent =>
    obtain ⟨first, front, index⟩ := stamped.front nonempty
    refine ⟨current, fun part => absurd idx (Nat.pos_iff_ne_zero.mp part), ?_⟩
    rw [sameSize, encodePacket_count, sent]
    exact stamped.sentAt.append ⟨front, ⟨nonempty, level ▸ last⟩, next, level ▸ index⟩
  | fills frame open_ idx buffer sent =>
    refine ⟨current, fun _ => ?_, ?_⟩
    · obtain ⟨first, front, index⟩ := stamped.front (frame.trans_ne (Nat.succ_ne_zero 9))
      have enough : encoder.packetInRtpIdx * 10 + (tagged outputs encoder.encoded.length).length ≤
          (encoder.packetInRtpIdx + 1) * 10 := by
        rw [frame, Nat.succ_mul]
      refine ⟨first, ?_, ?_⟩
      · rw [idx, buffer, take_written encoder.buffer enough, front]
      · rw [idx, encodePacket_count, ← Nat.add_assoc, index]
    · -- a packet that still has room is not ended by a frame
      have stays : ¬ClosesPacket encoder.packetsInRtp (tagged outputs)
          encoder.encoded.length := by
        rintro ⟨_, full | noise⟩
        · exact open_ (level.trans full)
        · exact absurd (frame.symm.trans noise) (by decide)
      rw [sameSize, encodePacket_count, sent]
      exact stamped.sentAt.skip stays

def EquallyFilled (packetsInRtp : Nat) (outputs : Nat → List β) (calls : Nat) : Prop :=
  ∀ first < calls, ∀ second < calls, ClosesPacket packetsInRtp outputs first →
    ClosesPacket packetsInRtp outputs second →
      fill packetsInRtp outputs first = fill packetsInRtp outputs second

/-- Up to a constant, the timestamp is eighty times the number of the first block
in the packet. -/
def StampedByFirstBlock (sent : List (Packet (β × Nat))) : Prop :=
  ∃ constant, ∀ packet ∈ sent, ∀ first, packet.payload.head? = some first →
    packet.timestamp = (constant + 80 * first.2) % 4294967296

private theorem equallyFilled_tagged (packetsInRtp : Nat) (outputs : Nat → List β) (calls : Nat) :
    EquallyFilled packetsInRtp (tagged outputs) calls ↔
      EquallyFilled packetsInRtp outputs calls := by
  unfold EquallyFilled
  simp only [closesPacket_tagged, fill_tagged]

private theorem eq_of_offset {modulus base constant first second : Nat}
    (firstSmall : 80 * first < modulus) (secondSmall : 80 * second < modulus)
    (firstOffset : base + 80 * first ≡ constant [MOD modulus])
    (secondOffset : base + 80 * second ≡ constant [MOD modulus]) : first = second := by
  have congruent := Nat.ModEq.add_left_cancel' base (firstOffset.trans secondOffset.symm)
  exact Nat.eq_of_mul_eq_mul_left (Nat.zero_lt_succ 79)
    (congruent.eq_of_lt_of_lt firstSmall secondSmall)

section SentAtCalls

variable {start packetsInRtp : Nat} {outputs : Nat → List (β × Nat)} {calls : Nat}
  {sent : List (Packet (β × Nat))}

section

variable (sentAt : SentAtCalls start packetsInRtp outputs calls sent)
include sentAt

theorem SentAtCalls.offset {constant : Nat}
    (fits : ∀ packet ∈ sent, ∀ first, packet.payload.head? = some first →
      packet.timestamp = (constant + 80 * first.2) % 4294967296)
    (less : call < calls) (closes : ClosesPacket packetsInRtp outputs call) :
    start + 80 + 80 * fill packetsInRtp outputs call ≡ constant [MOD 4294967296] := by
  obtain ⟨packet, member, front, frontOf, _, stamp, index⟩ := sentAt.every call less closes
  have fit : start + 80 * (call + 1) ≡ constant + 80 * front.2 [MOD 4294967296] :=
    stamp.symm.trans (fits packet member front frontOf)
  have shifted : start + 80 * (call + 1) =
      start + 80 + 80 * fill packetsInRtp outputs call + 80 * front.2 := by
    omega
  rw [shifted] at fit
  exact Nat.ModEq.add_right_cancel' _ fit

theorem SentAtCalls.equallyFilled (positive : 0 < packetsInRtp) (small : packetsInRtp ≤ 2)
    (stamped : StampedByFirstBlock sent) : EquallyFilled packetsInRtp outputs calls := by
  obtain ⟨constant, fits⟩ := stamped
  intro first firstLess second secondLess firstCloses secondCloses
  have below : ∀ call, 80 * fill packetsInRtp outputs call < 4294967296 := by
    intro call
    have level := Nat.mod_lt (framesInRow outputs call) positive
    unfold fill
    omega
  exact eq_of_offset (below first) (below second) (sentAt.offset fits firstLess firstCloses)
    (sentAt.offset fits secondLess secondCloses)

theorem SentAtCalls.stampedByFirstBlock (equal : EquallyFilled packetsInRtp outputs calls) :
    StampedByFirstBlock sent := by
  by_cases any : ∃ call < calls, ClosesPacket packetsInRtp outputs call
  · obtain ⟨sample, sampleLess, sampleCloses⟩ := any
    refine ⟨start + 80 + 80 * fill packetsInRtp outputs sample, ?_⟩
    intro packet member front frontOf
    obtain ⟨call, less, _, closes, stamp, index⟩ := sentAt.only packet member front frontOf
    have same := equal sample sampleLess call less sampleCloses closes
    omega
  · -- no packet has a payload
    refine ⟨0, ?_⟩
    intro packet member front frontOf
    obtain ⟨call, less, _, closes, _, _⟩ := sentAt.only packet member front frontOf
    exact absurd ⟨call, less, closes⟩ any

end

end SentAtCalls

theorem framesPerPacket_le_two (maxBufferSize : Nat) : framesPerPacket maxBufferSize ≤ 2 := by
  unfold framesPerPacket
  split <;> omega

/-- The timestamp is that of the last block, so it fits the first block exactly if
all packets have the same number of blocks. -/
theorem stampedByFirstBlock_iff_equallyFilled {outputs : Nat → List β}
    (lengths : Lengths outputs) (maxBufferSize timestamp : Nat) (frames : List (PcmFrame σ)) :
    StampedByFirstBlock
        (afterFrames (tagged outputs) maxBufferSize timestamp frames).sent ↔
      EquallyFilled (framesPerPacket maxBufferSize) outputs
        ((acceptedInput frames).length / 80) := by
  have sameLengths : Lengths (tagged outputs) := by
    intro call
    rw [length_tagged]
    exact lengths call
  have start : Stamped timestamp (tagged outputs)
      ((create maxBufferSize timestamp : Encoder σ (β × Nat)).setIOContext []) :=
    ⟨rfl, fun part => absurd part (Nat.lt_irrefl 0),
      nofun, fun call less => absurd less (Nat.not_lt_zero call)⟩
  obtain ⟨_, stamped⟩ := afterFrames_invariant sameLengths (Stamped timestamp (tagged outputs))
    start (fun _ packet packed stamped => stamped.encodePacket sameLengths packed packet)
    (fun _ _ ⟨current, waiting, sentAt⟩ => ⟨current, waiting, sentAt⟩) frames
  have sentAt := stamped.sentAt
  rw [(afterFrames_blocked (tagged outputs) maxBufferSize timestamp frames).calls,
    afterFrames_packetsInRtp (tagged outputs) maxBufferSize timestamp frames] at sentAt
  rw [← equallyFilled_tagged]
  constructor
  · exact sentAt.equallyFilled (framesPerPacket_positive maxBufferSize)
      (framesPerPacket_le_two maxBufferSize)
  · exact sentAt.stampedByFirstBlock

theorem two_frame_packets_stamped :
    StampedByFirstBlock
      (afterFrames (tagged (ofLengths [10, 10, 0, 10, 10])) 1200 0 [blankFrame 5]).sent :=
  (stampedByFirstBlock_iff_equallyFilled (lengths_ofLengths (by decide)) 1200 0
    [blankFrame 5]).mpr (by unfold EquallyFilled ClosesPacket; decide +kernel)

/-- A noise frame goes alone, and the next packet has two frames. -/
theorem noise_then_frames_not_stamped :
    Lengths (ofLengths [2, 10, 10]) ∧
      ¬StampedByFirstBlock
        (afterFrames (tagged (ofLengths [2, 10, 10])) 1200 0 [blankFrame 3]).sent := by
  refine ⟨lengths_ofLengths (by decide), ?_⟩
  rintro ⟨constant, fits⟩
  have packets : (afterFrames (tagged (ofLengths [2, 10, 10])) 1200 0 [blankFrame 3]).sent =
      [⟨false, 18, 0, 80, List.replicate 2 (0, 0)⟩,
        ⟨false, 18, 1, 240, List.replicate 10 (1, 1) ++ List.replicate 10 (2, 2)⟩] := by
    decide +kernel
  rw [packets] at fits
  have noise : 80 = (constant + 80 * 0) % 4294967296 := fits _ List.mem_cons_self (0, 0) rfl
  have frames : 240 = (constant + 80 * 1) % 4294967296 :=
    fits _ (List.mem_cons_of_mem _ List.mem_cons_self) (1, 1) rfl
  omega

end Encoder

end SipCore.G729
