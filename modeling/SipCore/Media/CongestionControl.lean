/-
The bitrate a receiver asks for, on its way through an RTCP REMB packet. The encoder
writes a six bit exponent and an eighteen bit mantissa in network order; the decoder
takes both from bit fields the compiler lays out from the low bits on.
-/

import SipCore.Media.SocketPair

namespace SipCore.Rtp

def packetVersion : Nat := 2

def packetFMT : Nat := 15

def packetType : Nat := 206

def uniqueIdentifier : Nat := 0x52454D42

def insert2Byte (value : Nat) : List UInt8 :=
  [UInt8.ofNat (value >>> 8), UInt8.ofNat (value &&& 0xff)]

def insert4Byte (value : Nat) : List UInt8 :=
  [UInt8.ofNat (value >>> 24), UInt8.ofNat (value >>> 16 &&& 0xff),
    UInt8.ofNat (value >>> 8 &&& 0xff), UInt8.ofNat (value &&& 0xff)]

def maxMantissa : Nat := 0x3ffff

def scaleMantissa : Nat → Nat → Nat → Nat × Nat
  | 0, mantissa, exponenta => (mantissa, exponenta)
  | turns + 1, mantissa, exponenta =>
    if maxMantissa < mantissa then scaleMantissa turns (mantissa >>> 1) (exponenta + 1)
    else (mantissa, exponenta)

def createREMB (bitrateBps : UInt64) : List UInt8 :=
  -- A 64 bit number fits after 46 turns at the latest.
  let scaled := scaleMantissa 46 bitrateBps.toNat 0
  let mantissa := scaled.1
  let exponenta := scaled.2
  [UInt8.ofNat (packetVersion <<< 6 ||| packetFMT), UInt8.ofNat packetType] ++
    insert2Byte 5 ++
    insert4Byte 0x12345678 ++
    insert4Byte 0x0 ++
    insert4Byte uniqueIdentifier ++
    [UInt8.ofNat 1] ++
    [UInt8.ofNat (exponenta <<< 2 ||| mantissa >>> 16)] ++
    insert2Byte (mantissa &&& 0xffff) ++
    insert4Byte 0x2345678b

/-- The shift of a bit field that was promoted to `int`, converted to 64 bits without
sign. Shifts by 32 and more are undefined in the source. -/
def shiftPromoted (mantis exp : Nat) : Nat :=
  let shifted := mantis <<< exp % 2 ^ 32
  if shifted < 2 ^ 31 then shifted else shifted + (2 ^ 64 - 2 ^ 32)

def parseREMB (packet : RtcpREMBHeader) : Nat :=
  if packet.fmt ≠ 15 ∨ packet.pt ≠ 206 then 0
  else
    let bitrateBps := shiftPromoted packet.brMantis packet.brExp
    if bitrateBps >>> packet.brExp ≠ packet.brMantis then 0 else bitrateBps

def reorder (temp : Nat) : Nat :=
  temp >>> 10 ||| (temp <<< 6 &&& 0xff00) ||| (temp <<< 16 &&& 0x30000)

def SocketPair.checkRctpInfoREMB {κ : Type} (pair : SocketPair κ) : Option Nat × SocketPair κ :=
  let reports := pair.getRtcpREMB
  (reports.1.getLast?.map fun packet => reorder (parseREMB packet), reports.2)

theorem scaleMantissa_small {mantissa : Nat} (small : mantissa < 2 ^ 18) (turns exponenta : Nat) :
    scaleMantissa turns mantissa exponenta = (mantissa, exponenta) := by
  cases turns with
  | zero => rfl
  | succ turns =>
    have fits : ¬ maxMantissa < mantissa := Nat.not_lt.mpr (Nat.le_of_lt_succ small)
    rw [scaleMantissa, if_neg fits]

variable {bitrate : UInt64}

private theorem createREMB_small (small : bitrate.toNat < 2 ^ 18) :
    createREMB bitrate =
      [143, 206, 0, 5, 0x12, 0x34, 0x56, 0x78, 0, 0, 0, 0, 0x52, 0x45, 0x4D, 0x42, 1,
        UInt8.ofNat (bitrate.toNat / 65536), UInt8.ofNat (bitrate.toNat % 65536 / 256),
        UInt8.ofNat (bitrate.toNat % 256), 0x23, 0x45, 0x67, 0x8b] := by
  have scaled := scaleMantissa_small small 46 0
  have upper : 0 <<< 2 ||| bitrate.toNat >>> 16 = bitrate.toNat / 65536 := by
    rw [Nat.zero_shiftLeft, Nat.zero_or, Nat.shiftRight_eq_div_pow]
  have lower : bitrate.toNat &&& 0xffff = bitrate.toNat % 65536 :=
    Nat.and_two_pow_sub_one_eq_mod bitrate.toNat 16
  have middle : (bitrate.toNat % 65536) >>> 8 = bitrate.toNat % 65536 / 256 :=
    Nat.shiftRight_eq_div_pow _ 8
  have last : bitrate.toNat % 65536 &&& 0xff = bitrate.toNat % 256 := by
    rw [Nat.and_two_pow_sub_one_eq_mod _ 8]
    omega
  simp only [createREMB, scaled, upper, lower, insert2Byte, middle, last]
  rfl

theorem rembHeader_small (buf : Buffer) (small : bitrate.toNat < 2 ^ 18) :
    let header := RtcpREMBHeader.ofBuffer (buf.copyN (createREMB bitrate) 24)
    header.fmt = 15 ∧ header.pt = 206 ∧ header.uid = 0x424D4552 ∧
      header.brExp = bitrate.toNat / 65536 ∧
      header.brMantis = bitrate.toNat % 65536 / 256 * 4 + bitrate.toNat % 256 * 1024 := by
  rw [createREMB_small small]
  have highSmall : bitrate.toNat / 65536 < 4 := by omega
  have middleSmall : bitrate.toNat % 65536 / 256 < 256 := by omega
  have lowSmall : bitrate.toNat % 256 < 256 := by omega
  generalize bitrate.toNat / 65536 = high at highSmall ⊢
  generalize bitrate.toNat % 65536 / 256 = middle at middleSmall ⊢
  generalize bitrate.toNat % 256 = low at lowSmall ⊢
  have highByte : (UInt8.ofNat high).toNat = high := Nat.mod_eq_of_lt (by omega)
  have middleByte : (UInt8.ofNat middle).toNat = middle := Nat.mod_eq_of_lt middleSmall
  have lowByte : (UInt8.ofNat low).toNat = low := Nat.mod_eq_of_lt lowSmall
  refine ⟨?_, ?_, ?_, ?_, ?_⟩
  · change bitField (143 + 206 * 256 + 0 * 65536 + 5 * 16777216) 0 5 = 15
    decide
  · change bitField (143 + 206 * 256 + 0 * 65536 + 5 * 16777216) 8 8 = 206
    decide
  · change 0x52 + 0x45 * 256 + 0x4D * 65536 + 0x42 * 16777216 = 0x424D4552
    decide
  · change bitField (1 + (UInt8.ofNat high).toNat * 256 + (UInt8.ofNat middle).toNat * 65536 +
      (UInt8.ofNat low).toNat * 16777216) 8 6 = high
    rw [bitField]
    omega
  · change bitField (1 + (UInt8.ofNat high).toNat * 256 + (UInt8.ofNat middle).toNat * 65536 +
      (UInt8.ofNat low).toNat * 16777216) 14 18 = middle * 4 + low * 1024
    rw [bitField]
    omega

theorem no_upper_bits (number : Nat) : number <<< 2 <<< 16 &&& 0x30000 = 0 := by
  change number <<< 2 <<< 16 &&& 0x3 <<< 16 = 0
  have multiple : number <<< 2 &&& 0x3 = 0 := by
    rw [Nat.and_two_pow_sub_one_eq_mod _ 2]
    omega
  rw [← Nat.shiftLeft_and_distrib, multiple, Nat.zero_shiftLeft]

theorem reorder_pair {middle low : Nat} (middleSmall : middle < 256) (lowSmall : low < 256) :
    reorder ((low * 256 + middle) <<< 2) = middle * 256 + low := by
  have lowest : (low * 256 + middle) <<< 2 >>> 10 = low := by
    omega
  have byte : (low * 256 + middle) <<< 2 <<< 6 &&& 0xff00 = middle <<< 8 := by
    change (low * 256 + middle) <<< 8 &&& 0xff <<< 8 = middle <<< 8
    rw [← Nat.shiftLeft_and_distrib, Nat.and_two_pow_sub_one_eq_mod _ 8]
    omega
  rw [reorder, lowest, byte, no_upper_bits, Nat.or_zero, Nat.or_comm,
    ← Nat.shiftLeft_add_eq_or_of_lt lowSmall, Nat.shiftLeft_eq]

private theorem reorder_shifted_lt {number : Nat} (small : number < 2 ^ 24) :
    reorder (number <<< 2) < 2 ^ 16 := by
  rw [reorder, no_upper_bits, Nat.or_zero]
  apply Nat.or_lt_two_pow
  · omega
  · exact Nat.lt_of_le_of_lt Nat.and_le_right (by decide)

theorem shiftPromoted_small {mantis exp : Nat} (small : mantis <<< exp < 2 ^ 31) :
    shiftPromoted mantis exp = mantis <<< exp := by
  have reduced : mantis <<< exp % 2 ^ 32 = mantis <<< exp := Nat.mod_eq_of_lt (by omega)
  rw [shiftPromoted, reduced, if_pos small]

theorem parseREMB_eq {packet : RtcpREMBHeader} (format : packet.fmt = 15)
    (payload : packet.pt = 206) (small : packet.brMantis <<< packet.brExp < 2 ^ 31) :
    parseREMB packet = packet.brMantis <<< packet.brExp := by
  have known : ¬ (packet.fmt ≠ 15 ∨ packet.pt ≠ 206) := by
    rw [format, payload]
    decide
  have exact_shift : packet.brMantis <<< packet.brExp >>> packet.brExp = packet.brMantis :=
    Nat.shiftLeft_shiftRight _ _
  rw [parseREMB, if_neg known, shiftPromoted_small small]
  exact if_neg (not_not.mpr exact_shift)

private theorem bitrate_read_iff (buf : Buffer) (small : bitrate.toNat < 2 ^ 18) :
    reorder (parseREMB (RtcpREMBHeader.ofBuffer (buf.copyN (createREMB bitrate) 24))) =
      bitrate.toNat ↔ bitrate.toNat < 2 ^ 16 := by
  obtain ⟨format, payload, _, exponent, mantissa⟩ := rembHeader_small buf small
  have middleSmall : bitrate.toNat % 65536 / 256 < 256 := by omega
  have lowSmall : bitrate.toNat % 256 < 256 := by omega
  have parts : bitrate.toNat % 65536 / 256 * 4 + bitrate.toNat % 256 * 1024 =
      (bitrate.toNat % 256 * 256 + bitrate.toNat % 65536 / 256) <<< 2 := by
    omega
  have scale : 2 ^ (bitrate.toNat / 65536) ≤ 2 ^ 3 :=
    Nat.pow_le_pow_right (by decide) (by omega)
  have shifted : (bitrate.toNat % 256 * 256 + bitrate.toNat % 65536 / 256) <<<
      (bitrate.toNat / 65536) < 2 ^ 19 := by
    rw [Nat.shiftLeft_eq]
    calc _ ≤ (bitrate.toNat % 256 * 256 + bitrate.toNat % 65536 / 256) * 2 ^ 3 :=
          Nat.mul_le_mul_left _ scale
      _ < 2 ^ 19 := by omega
  have moved : (bitrate.toNat % 65536 / 256 * 4 + bitrate.toNat % 256 * 1024) <<<
      (bitrate.toNat / 65536) = (bitrate.toNat % 256 * 256 + bitrate.toNat % 65536 / 256) <<<
        (bitrate.toNat / 65536) <<< 2 := by
    rw [parts, ← Nat.shiftLeft_add, ← Nat.shiftLeft_add, Nat.add_comm 2]
  rw [parseREMB_eq format payload, exponent, mantissa, moved]
  · constructor
    · intro equal
      rw [← equal]
      exact reorder_shifted_lt (by omega)
    · intro below
      have noExponent : bitrate.toNat / 65536 = 0 := by omega
      rw [noExponent, Nat.shiftLeft_zero, reorder_pair middleSmall lowSmall]
      omega
  · rw [exponent, mantissa, moved]
    omega

private theorem noteRtcp_createREMB {κ : Type} (pair : SocketPair κ) (buf : Buffer) (now : Nat)
    (small : bitrate.toNat < 2 ^ 18) :
    (pair.noteRtcp (buf.copyN (createREMB bitrate) 24) 24 now).listRtcpREMBHeader.getLast? =
      some (RtcpREMBHeader.ofBuffer (buf.copyN (createREMB bitrate) 24)) := by
  obtain ⟨_, payload, identifier, _, _⟩ := rembHeader_small buf small
  generalize buf.copyN (createREMB bitrate) 24 = received at payload identifier ⊢
  have samePayload : (RtcpRRHeader.ofBuffer received).pt = 206 := payload
  have notReport : ¬ ((RtcpRRHeader.ofBuffer received).pt = 201 ∧ RtcpRRHeader.size ≤ 24) := by
    rw [samePayload]
    decide
  rw [SocketPair.noteRtcp, if_neg notReport, if_pos samePayload, SocketPair.saveRtcpREMBPacket]
  rw [if_neg (not_not.mpr payload), if_neg (not_not.mpr identifier)]
  exact List.getLast?_concat

/-- A bitrate below 2^18 that is encoded, received and looked up comes out unchanged
exactly when it has sixteen bits. -/
theorem remb_round_trip_iff {κ : Type} (pair : SocketPair κ) (buf : Buffer) (now : Nat)
    (bitrate : UInt64) (small : bitrate.toNat < 2 ^ 18) :
    (pair.noteRtcp (buf.copyN (createREMB bitrate) 24) 24 now).checkRctpInfoREMB.1 =
      some bitrate.toNat ↔ bitrate.toNat < 2 ^ 16 := by
  change (pair.noteRtcp (buf.copyN (createREMB bitrate) 24) 24 now).listRtcpREMBHeader.getLast?.map
    (fun packet => reorder (parseREMB packet)) = _ ↔ _
  rw [noteRtcp_createREMB pair buf now small, Option.map_some, Option.some_inj]
  exact bitrate_read_iff buf small

theorem remb_round_trip_of_sixteen_bits :
    (({} : SocketPair Unit).noteRtcp (Buffer.copyN (createREMB 50000) 24 fun _ => 0) 24
      0).checkRctpInfoREMB.1 = some 50000 :=
  (remb_round_trip_iff {} (fun _ => 0) 0 50000 (by decide)).mpr (by decide)

/-- The seventeenth bit is taken for an exponent, and nothing is left of it. -/
theorem remb_loses_65536 :
    (65536 : UInt64).toNat < 2 ^ 18 ∧
      (({} : SocketPair Unit).noteRtcp (Buffer.copyN (createREMB 65536) 24 fun _ => 0) 24
        0).checkRctpInfoREMB.1 ≠ some (65536 : UInt64).toNat := by
  constructor
  · decide
  · decide +kernel

end SipCore.Rtp
