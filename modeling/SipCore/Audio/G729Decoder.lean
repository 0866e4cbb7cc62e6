/-
The RTP reader of the G.729 decoder. A datagram holds a header with contributing
sources, an optional extension, frames of ten bytes, an optional noise frame of two
bytes at the end, and padding whose length is in the last byte.
-/

import SipCore.Library.GuardedRun
import Mathlib.Data.Nat.Bitwise

namespace SipCore.G729

structure RtpPayload where
  isSID : Bool
  seq : Nat
  timestamp : Nat
  payload : List UInt8
deriving DecidableEq, Repr

structure Decoder where
  lastFrameSeq : Nat
deriving DecidableEq, Repr

def Decoder.create : Decoder := ⟨0⟩

section Header

variable (buf : List UInt8)

def byteAt (index : Nat) : Nat := (buf.getD index 0).toNat

def version : Nat := byteAt buf 0 >>> 6

def payloadType : Nat := byteAt buf 1 &&& 0x7f

def hasPadding : Bool := byteAt buf 0 &&& 0x20 == 0x20

def paddingCount : Nat := if hasPadding buf then byteAt buf (buf.length - 1) else 0

def csrcCount : Nat := byteAt buf 0 &&& 0x0f

def headerSize : Nat := 12 + csrcCount buf * 4

def hasExtension : Bool := byteAt buf 0 &&& 0x10 != 0

def extensionLength : Nat := byteAt buf (headerSize buf + 2) <<< 8 ||| byteAt buf (headerSize buf + 3)

/-- `uint16_t ext_size`, for the header of the extension and its words. -/
def extSize : Nat :=
  if hasExtension buf then (((extensionLength buf + 1) % 65536) <<< 2) % 65536 else 0

def seqVal : Nat := byteAt buf 2 <<< 8 ||| byteAt buf 3

def timestampVal : Nat :=
  byteAt buf 4 <<< 24 ||| byteAt buf 5 <<< 16 ||| byteAt buf 6 <<< 8 ||| byteAt buf 7

end Header

def frameAt (buf : List UInt8) (tail seq timestamp : Nat) : RtpPayload :=
  ⟨false, seq, timestamp, (buf.drop tail).take 10⟩

def sidAt (buf : List UInt8) (tail seq timestamp : Nat) : RtpPayload :=
  ⟨true, seq, timestamp, (buf.drop tail).take 2⟩

/-- `for (tail = ...; tail < buf_size - 2; tail += 10)`, then the noise frame. Each
turn takes ten bytes, so the number of bytes is fuel enough. -/
def pushFrames (buf : List UInt8) (seq : Nat) (bufSize : Int) : Nat → Nat → Nat → List RtpPayload
  | 0, _, _ => []
  | fuel + 1, tail, timestamp =>
    if (tail : Int) < bufSize - 2 then
      frameAt buf tail seq timestamp ::
        pushFrames buf seq bufSize fuel (tail + 10) ((timestamp + 80) % 4294967296)
    else if bufSize - tail = 2 then [sidAt buf tail seq timestamp]
    else []

def readRtp (decoder : Decoder) (buf : List UInt8) : Int × List RtpPayload × Decoder :=
  if buf.length < 14 then (-1, [], decoder)
  else if version buf ≠ 2 ∨ payloadType buf ≠ 18 then (-1, [], decoder)
  else
    let bufSize : Int := buf.length - paddingCount buf
    let payloadSize : Int := bufSize - headerSize buf
    if payloadSize ≤ 0 then (-1, [], decoder)
    else if hasExtension buf = true ∧ payloadSize < 4 then (-1, [], decoder)
    else
      let payloadSize := payloadSize - extSize buf
      if payloadSize ≤ 0 then (-1, [], decoder)
      else if payloadSize % 10 ≠ 0 ∧ (payloadSize - 2) % 10 ≠ 0 then (-1, [], decoder)
      else
        let mismatch : Int := seqVal buf - decoder.lastFrameSeq - 1
        if mismatch < 0 then (0, [], decoder)
        else
          (0, pushFrames buf (seqVal buf) bufSize buf.length (headerSize buf + extSize buf)
            (timestampVal buf), ⟨seqVal buf⟩)

def packets (decoder : Decoder) (buf : List UInt8) : List RtpPayload := (readRtp decoder buf).2.1

section Meaning

variable (buf : List UInt8)

def extensionBytes : Nat := if hasExtension buf then 4 * (extensionLength buf + 1) else 0

def payloadStart : Nat := headerSize buf + extensionBytes buf

def payloadEnd : Nat := buf.length - paddingCount buf

def payloadLength : Nat := payloadEnd buf - payloadStart buf

def Shaped (length : Nat) : Prop := 0 < length ∧ (length % 10 = 0 ∨ length % 10 = 2)

instance (length : Nat) : Decidable (Shaped length) :=
  inferInstanceAs (Decidable (0 < length ∧ (length % 10 = 0 ∨ length % 10 = 2)))

def framesFrom (start length : Nat) : List RtpPayload :=
  (List.range (length / 10)).map (fun index =>
      frameAt buf (start + 10 * index) (seqVal buf) ((timestampVal buf + 80 * index) % 4294967296)) ++
    if length % 10 = 2 then
      [sidAt buf (start + 10 * (length / 10)) (seqVal buf)
        ((timestampVal buf + 80 * (length / 10)) % 4294967296)]
    else []

def frames : List RtpPayload := framesFrom buf (payloadStart buf) (payloadLength buf)

end Meaning

theorem framesFrom_ne_nil (buf : List UInt8) (start : Nat) {length : Nat} (shaped : Shaped length) :
    framesFrom buf start length ≠ [] := by
  obtain ⟨positive, shape⟩ := shaped
  unfold framesFrom
  intro empty
  rw [List.append_eq_nil_iff, List.map_eq_nil_iff, List.range_eq_nil] at empty
  obtain ⟨noFrame, noNoise⟩ := empty
  split at noNoise
  · cases noNoise
  · omega

private theorem range_succ_map {β : Type} (count : Nat) (item : Nat → β) :
    (List.range (count + 1)).map item =
      item 0 :: (List.range count).map (fun index => item (index + 1)) := by
  rw [List.range_succ_eq_map, List.map_cons, List.map_map]
  rfl

theorem pushFrames_eq (buf : List UInt8) (seq : Nat) (bufSize : Int) (count : Nat) {rest : Nat}
    (shape : rest = 0 ∨ rest = 2) (fuel : Nat) (enough : count < fuel) (tail timestamp : Nat)
    (ends : bufSize = tail + 10 * count + rest) (fits : timestamp < 4294967296) :
    pushFrames buf seq bufSize fuel tail timestamp =
      (List.range count).map (fun index =>
        frameAt buf (tail + 10 * index) seq ((timestamp + 80 * index) % 4294967296)) ++
      if rest = 2 then
        [sidAt buf (tail + 10 * count) seq ((timestamp + 80 * count) % 4294967296)]
      else [] := by
  induction count generalizing fuel tail timestamp with
  | zero =>
    obtain ⟨turns, positive⟩ : ∃ turns, fuel = turns + 1 := ⟨fuel - 1, by omega⟩
    subst positive
    unfold pushFrames
    rw [if_neg (by omega)]
    rcases shape with none | noise
    · rw [if_neg (by omega), none]
      rfl
    · rw [if_pos (by omega), noise]
      simp only [List.range_zero, List.map_nil, List.nil_append, if_true, Nat.mul_zero,
        Nat.add_zero]
      rw [Nat.mod_eq_of_lt fits]
  | succ count ih =>
    obtain ⟨turns, positive⟩ : ∃ turns, fuel = turns + 1 := ⟨fuel - 1, by omega⟩
    subst positive
    unfold pushFrames
    rw [if_pos (by omega),
      ih turns (by omega) (tail + 10) _ (by omega) (Nat.mod_lt _ (by omega)), range_succ_map]
    have place : ∀ index, tail + 10 + 10 * index = tail + 10 * (index + 1) := by
      intro index
      omega
    have time : ∀ index, ((timestamp + 80) % 4294967296 + 80 * index) % 4294967296 =
        (timestamp + 80 * (index + 1)) % 4294967296 := by
      intro index
      omega
    simp only [place, time, List.cons_append, Nat.mul_zero, Nat.add_zero]
    rw [Nat.mod_eq_of_lt fits]

private theorem byteAt_lt (buf : List UInt8) (index : Nat) : byteAt buf index < 2 ^ 8 :=
  (buf.getD index 0).toNat_lt

private theorem timestampVal_lt (buf : List UInt8) : timestampVal buf < 4294967296 := by
  have place : ∀ index shift, shift ≤ 24 → byteAt buf index <<< shift < 2 ^ 32 := by
    intro index shift small
    have byte := byteAt_lt buf index
    rw [Nat.shiftLeft_eq]
    have power : 2 ^ shift ≤ 2 ^ 24 := Nat.pow_le_pow_right (by decide) small
    calc byteAt buf index * 2 ^ shift < 2 ^ 8 * 2 ^ shift :=
          Nat.mul_lt_mul_of_pos_right byte (Nat.two_pow_pos shift)
      _ ≤ 2 ^ 8 * 2 ^ 24 := Nat.mul_le_mul_left _ power
  have last : byteAt buf 7 < 2 ^ 32 := Nat.lt_trans (byteAt_lt buf 7) (by decide)
  exact Nat.or_lt_two_pow (Nat.or_lt_two_pow (Nat.or_lt_two_pow (place 4 24 (by decide))
    (place 5 16 (by decide))) (place 6 8 (by decide))) last

def measuredLength (buf : List UInt8) : Nat :=
  payloadEnd buf - (headerSize buf + extSize buf)

def Accepted (decoder : Decoder) (buf : List UInt8) : Prop :=
  (hasExtension buf = true → headerSize buf + 4 ≤ payloadEnd buf) ∧
    Shaped (measuredLength buf) ∧ decoder.lastFrameSeq < seqVal buf

instance (decoder : Decoder) (buf : List UInt8) : Decidable (Accepted decoder buf) :=
  inferInstanceAs (Decidable ((hasExtension buf = true → headerSize buf + 4 ≤ payloadEnd buf) ∧
    Shaped (measuredLength buf) ∧ decoder.lastFrameSeq < seqVal buf))

private theorem pushFrames_of_shaped (buf : List UInt8) (shaped : Shaped (measuredLength buf)) :
    pushFrames buf (seqVal buf) (buf.length - paddingCount buf) buf.length
        (headerSize buf + extSize buf) (timestampVal buf) =
      framesFrom buf (headerSize buf + extSize buf) (measuredLength buf) := by
  obtain ⟨positive, shape⟩ := shaped
  unfold measuredLength payloadEnd at positive shape ⊢
  exact pushFrames_eq buf (seqVal buf) _ _ shape buf.length (by omega) _ _ (by omega)
    (timestampVal_lt buf)

theorem readRtp_eq (decoder : Decoder) {buf : List UInt8} (long : 14 ≤ buf.length)
    (rtp : version buf = 2) (g729 : payloadType buf = 18) :
    (Accepted decoder buf → (readRtp decoder buf).2 =
      (framesFrom buf (headerSize buf + extSize buf) (measuredLength buf), ⟨seqVal buf⟩)) ∧
    (¬ Accepted decoder buf → (readRtp decoder buf).2 = ([], decoder)) := by
  unfold readRtp
  rw [if_neg (Nat.not_lt.mpr long), if_neg (by rw [rtp, g729]; decide)]
  simp only
  constructor
  · rintro ⟨room, shaped, later⟩
    have measured := shaped
    unfold Shaped measuredLength payloadEnd at measured
    unfold payloadEnd at room
    have wide : ¬ (hasExtension buf = true ∧
        (buf.length - paddingCount buf - headerSize buf : Int) < 4) := by
      rintro ⟨extended, short⟩
      have enough := room extended
      omega
    rw [if_neg (by omega), if_neg wide, if_neg (by omega), if_neg (by omega), if_neg (by omega),
      pushFrames_of_shaped buf shaped]
  · intro refused
    split
    · rfl
    · split
      · rfl
      · split
        · rfl
        · split
          · rfl
          · split
            · rfl
            · rename_i _ wide positive shape later
              exfalso
              apply refused
              unfold Accepted Shaped measuredLength payloadEnd
              refine ⟨?_, ?_, ?_⟩
              · intro extended
                have enough : ¬ (buf.length - paddingCount buf - headerSize buf : Int) < 4 :=
                  fun short => wide ⟨extended, short⟩
                omega
              · omega
              · omega

/-- What is given is the payload the header describes, and a header that
describes none gives nothing. -/
def Conforms (decoder : Decoder) (buf : List UInt8) : Prop :=
  (packets decoder buf ≠ [] → packets decoder buf = frames buf) ∧
    (¬ (payloadStart buf < payloadEnd buf ∧ Shaped (payloadLength buf)) → packets decoder buf = [])

/-- The extension is too long for sixteen bits, and what is left of its size
makes the datagram pass the checks. -/
def OverlongAccepted (decoder : Decoder) (buf : List UInt8) : Prop :=
  hasExtension buf = true ∧ 16383 ≤ extensionLength buf ∧ Accepted decoder buf

theorem extSize_of_short {buf : List UInt8}
    (short : hasExtension buf = true → extensionLength buf < 16383) :
    extSize buf = extensionBytes buf := by
  unfold extSize extensionBytes
  split
  · rename_i extended
    have small := short extended
    omega
  · rfl

theorem measuredLength_of_short {buf : List UInt8}
    (short : hasExtension buf = true → extensionLength buf < 16383) :
    measuredLength buf = payloadLength buf := by
  unfold measuredLength payloadLength payloadStart
  rw [extSize_of_short short]

theorem payloadEnd_of_overlong {buf : List UInt8} (datagram : buf.length < 65536)
    (extended : hasExtension buf = true) (overlong : 16383 ≤ extensionLength buf) :
    payloadEnd buf ≤ payloadStart buf := by
  unfold payloadEnd payloadStart extensionBytes
  rw [if_pos extended]
  omega

/-- Whatever the decoder holds, a datagram is read as its header says exactly if
it is not one whose extension size was cut off and then fits. -/
theorem readRtp_conforms_iff (decoder : Decoder) (buf : List UInt8) (long : 14 ≤ buf.length)
    (datagram : buf.length ≤ 256) (rtp : version buf = 2) (g729 : payloadType buf = 18) :
    Conforms decoder buf ↔ ¬ OverlongAccepted decoder buf := by
  obtain ⟨taken, dropped⟩ := readRtp_eq decoder long rtp g729
  unfold Conforms packets
  by_cases accepted : Accepted decoder buf
  · rw [taken accepted]
    have given := framesFrom_ne_nil buf (headerSize buf + extSize buf) accepted.2.1
    constructor
    · rintro ⟨_, nothing⟩ ⟨extended, overlong, _⟩
      have beyond := payloadEnd_of_overlong (by omega) extended overlong
      exact given (nothing (fun payload => by omega))
    · intro short
      have fits : hasExtension buf = true → extensionLength buf < 16383 := by
        intro extended
        apply Nat.lt_of_not_le
        intro overlong
        exact short ⟨extended, overlong, accepted⟩
      have shaped := accepted.2.1
      rw [measuredLength_of_short fits] at shaped
      constructor
      · intro _
        unfold frames payloadStart
        rw [measuredLength_of_short fits, extSize_of_short fits]
      · intro noPayload
        refine absurd ⟨?_, shaped⟩ noPayload
        have positive := shaped.1
        unfold payloadLength at positive
        omega
  · rw [dropped accepted]
    constructor
    · intro _ overlong
      exact accepted overlong.2.2
    · intro _
      exact ⟨fun given => absurd rfl given, fun _ => rfl⟩

/-- One contributing source, an extension of one word, a frame, a noise frame and three
bytes of padding. -/
def fullPacket : List UInt8 :=
  [0xb1, 18, 0, 1, 0, 0, 0, 80, 0, 0, 0, 0, 0, 0, 0, 7, 0xbe, 0xde, 0, 1, 0x10, 0, 0, 0,
    1, 2, 3, 4, 5, 6, 7, 8, 9, 10, 11, 12, 0, 0, 3]

theorem readRtp_conforms_for_full_packet :
    packets Decoder.create fullPacket =
        [⟨false, 1, 80, [1, 2, 3, 4, 5, 6, 7, 8, 9, 10]⟩, ⟨true, 1, 160, [11, 12]⟩] ∧
      Conforms Decoder.create fullPacket := by
  refine ⟨by decide, (readRtp_conforms_iff _ _ (by decide) (by decide) (by decide)
    (by decide)).mpr ?_⟩
  intro overlong
  exact absurd overlong.2.1 (by decide)

/-- An extension of 65536 words: its size is cut off to 0, and the header of the
extension is given as the first bytes of a frame. -/
def overlongPacket : List UInt8 :=
  [0x90, 18, 0, 1, 0, 0, 0, 0, 0, 0, 0, 0, 0, 0, 0xff, 0xff, 1, 2, 3, 4, 5, 6]

theorem readRtp_gives_overlong_extension :
    14 ≤ overlongPacket.length ∧ overlongPacket.length ≤ 256 ∧ version overlongPacket = 2 ∧
      payloadType overlongPacket = 18 ∧ ¬ Conforms Decoder.create overlongPacket := by
  refine ⟨by decide, by decide, by decide, by decide, ?_⟩
  rintro ⟨_, nothing⟩
  exact absurd (nothing (by decide)) (by decide)

/-! ### A stream -/

structure WellFormed (buf : List UInt8) : Prop where
  datagram : buf.length < 65536
  rtp : version buf = 2
  g729 : payloadType buf = 18
  payload : payloadStart buf + 10 ≤ payloadEnd buf
  shaped : Shaped (payloadLength buf)

instance (buf : List UInt8) : Decidable (WellFormed buf) :=
  decidable_of_iff (buf.length < 65536 ∧ version buf = 2 ∧ payloadType buf = 18 ∧
      payloadStart buf + 10 ≤ payloadEnd buf ∧ Shaped (payloadLength buf))
    ⟨fun ⟨datagram, rtp, g729, payload, shaped⟩ => ⟨datagram, rtp, g729, payload, shaped⟩,
      fun ⟨datagram, rtp, g729, payload, shaped⟩ => ⟨datagram, rtp, g729, payload, shaped⟩⟩

def Consecutive : Nat → List (List UInt8) → Prop
  | _, [] => True
  | start, buf :: rest => seqVal buf = start % 65536 ∧ Consecutive (start + 1) rest

def step (decoder : Decoder) (buf : List UInt8) : Decoder := (readRtp decoder buf).2.2

def GivesAll (decoder : Decoder) (stream : List (List UInt8)) : Prop :=
  Run.Guarded step (fun decoder buf => packets decoder buf = frames buf) decoder stream

section

variable {buf : List UInt8} (wellFormed : WellFormed buf)
include wellFormed

theorem WellFormed.short (extended : hasExtension buf = true) : extensionLength buf < 16383 := by
  apply Nat.lt_of_not_le
  intro overlong
  have payload := wellFormed.payload
  have beyond := payloadEnd_of_overlong wellFormed.datagram extended overlong
  omega

theorem WellFormed.long : 14 ≤ buf.length := by
  have payload := wellFormed.payload
  unfold payloadStart headerSize payloadEnd at payload
  omega

private theorem accepted_iff_later (decoder : Decoder) :
    Accepted decoder buf ↔ decoder.lastFrameSeq < seqVal buf := by
  have payload := wellFormed.payload
  constructor
  · exact fun accepted => accepted.2.2
  · intro later
    refine ⟨?_, ?_, later⟩
    · intro _
      unfold payloadStart at payload
      omega
    · rw [measuredLength_of_short wellFormed.short]
      exact wellFormed.shaped

/-- A well-formed packet gives its frames exactly if its number is larger than
the last one, and then its number is the last one. -/
theorem packets_eq_frames_iff (decoder : Decoder) :
    (packets decoder buf = frames buf ↔ decoder.lastFrameSeq < seqVal buf) ∧
      (decoder.lastFrameSeq < seqVal buf → step decoder buf = ⟨seqVal buf⟩) := by
  obtain ⟨taken, dropped⟩ := readRtp_eq decoder wellFormed.long wellFormed.rtp wellFormed.g729
  rw [← accepted_iff_later wellFormed decoder]
  unfold packets step
  constructor
  · constructor
    · intro given
      by_contra refused
      rw [dropped refused] at given
      exact framesFrom_ne_nil buf (payloadStart buf) wellFormed.shaped given.symm
    · intro accepted
      rw [taken accepted]
      unfold frames payloadStart
      rw [measuredLength_of_short wellFormed.short, extSize_of_short wellFormed.short]
  · intro accepted
    rw [taken accepted]

end

/-- Before the numbers wrap, each is larger than the one before; the first number
after the wrap is not. -/
theorem givesAll_iff (last start : Nat) (stream : List (List UInt8))
    (wellFormed : ∀ buf ∈ stream, WellFormed buf) (consecutive : Consecutive start stream)
    (small : start ≤ 65536) :
    GivesAll ⟨last⟩ stream ↔ stream = [] ∨ last < start ∧ start + stream.length ≤ 65536 := by
  induction stream generalizing last start with
  | nil => exact ⟨fun _ => .inl rfl, fun _ => trivial⟩
  | cons buf rest ih =>
    obtain ⟨number, later⟩ := consecutive
    obtain ⟨given, next⟩ := packets_eq_frames_iff (wellFormed buf List.mem_cons_self) ⟨last⟩
    have others : ∀ other ∈ rest, WellFormed other :=
      fun other member => wellFormed other (List.mem_cons_of_mem buf member)
    change packets ⟨last⟩ buf = frames buf ∧ GivesAll (step ⟨last⟩ buf) rest ↔ _
    rw [given]
    rw [List.length_cons]
    simp only [reduceCtorEq, false_or]
    rcases Nat.lt_or_ge start 65536 with before | wrapped
    · rw [Nat.mod_eq_of_lt before] at number
      rw [number]
      constructor
      · rintro ⟨larger, remaining⟩
        rw [next (by rw [number]; exact larger), number,
          ih start (start + 1) others later (by omega)] at remaining
        refine ⟨larger, ?_⟩
        rcases remaining with done | ⟨_, short⟩
        · rw [done]
          exact before
        · omega
      · rintro ⟨larger, short⟩
        refine ⟨larger, ?_⟩
        rw [next (by rw [number]; exact larger), number,
          ih start (start + 1) others later (by omega)]
        exact .inr ⟨Nat.lt_succ_self start, by omega⟩
    · have zero : seqVal buf = 0 := by omega
      rw [zero]
      constructor
      · rintro ⟨larger, _⟩
        exact absurd larger (Nat.not_lt_zero last)
      · rintro ⟨_, short⟩
        omega

/-- From a fresh decoder a stream is given in full exactly if it does not begin
with number 0 and does not pass the wrap of the numbers. -/
theorem stream_given_iff (start : Nat) (small : start < 65536) (stream : List (List UInt8))
    (wellFormed : ∀ buf ∈ stream, WellFormed buf) (consecutive : Consecutive start stream) :
    GivesAll Decoder.create stream ↔
      stream = [] ∨ 1 ≤ start ∧ start + stream.length ≤ 65536 :=
  givesAll_iff 0 start stream wellFormed consecutive (Nat.le_of_lt small)

def packetNumbered (high low : UInt8) : List UInt8 :=
  [0x80, 18, high, low, 0, 0, 0, 0, 0, 0, 0, 0, 1, 2, 3, 4, 5, 6, 7, 8, 9, 10]

theorem stream_given_from_one : GivesAll Decoder.create [packetNumbered 0 1, packetNumbered 0 2] :=
  (stream_given_iff 1 (by decide) [packetNumbered 0 1, packetNumbered 0 2] (by decide)
    ⟨by decide, by decide, trivial⟩).mpr (Or.inr (by decide))

/-- The second packet of the stream has number 0. -/
theorem stream_lost_at_wrap :
    (∀ buf ∈ [packetNumbered 255 255, packetNumbered 0 0], WellFormed buf) ∧
      Consecutive 65535 [packetNumbered 255 255, packetNumbered 0 0] ∧
      ¬ GivesAll Decoder.create [packetNumbered 255 255, packetNumbered 0 0] := by
  refine ⟨by decide, ⟨by decide, by decide, trivial⟩, ?_⟩
  rintro ⟨_, second, _⟩
  exact absurd second (by decide)

end SipCore.G729
