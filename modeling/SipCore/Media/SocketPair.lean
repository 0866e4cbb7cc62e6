/-
The reading side of a `SocketPair`: datagrams wait in two queues, a read takes the
oldest one, keeps what an RTCP report says, and for an encrypted RTP stream looks
into the packet's header before and after it is decrypted. Every byte of the header the
code looks at is recorded with its packet, and so is every call of a callback.
-/

import SipCore.Library.GuardedRun
import Mathlib.Data.List.Chain
import Mathlib.Data.Nat.Bitwise

namespace SipCore.Rtp

abbrev Datagram := List UInt8

/-- The memory a read fills. What lies behind the bytes read is what was there before. -/
abbrev Buffer := Nat → UInt8

def Buffer.copyN (datagram : Datagram) (len : Nat) (buf : Buffer) : Buffer :=
  fun index => if index < len then datagram.getD index 0 else buf index

def Buffer.word (buf : Buffer) (index : Nat) : Nat :=
  (buf (4 * index)).toNat + (buf (4 * index + 1)).toNat * 256 +
    (buf (4 * index + 2)).toNat * 65536 + (buf (4 * index + 3)).toNat * 16777216

/-- A bit field of a word: the first declared ones take the low bits. -/
def bitField (word offset width : Nat) : Nat := word >>> offset % 2 ^ width

structure RtcpRRHeader where
  rc : Nat
  p : Nat
  version : Nat
  pt : Nat
  len : Nat
  ssrc : Nat
  id : Nat
  fractionLost : Nat
  cumLostPacket : Nat
  extHigh : Nat
  jitter : Nat
  lsr : Nat
  dlsr : Nat
  deriving DecidableEq, Repr

def RtcpRRHeader.size : Nat := 32

def RtcpRRHeader.ofBuffer (buf : Buffer) : RtcpRRHeader where
  rc := bitField (buf.word 0) 0 5
  p := bitField (buf.word 0) 5 1
  version := bitField (buf.word 0) 6 2
  pt := bitField (buf.word 0) 8 8
  len := bitField (buf.word 0) 16 16
  ssrc := buf.word 1
  id := buf.word 2
  fractionLost := bitField (buf.word 3) 0 8
  cumLostPacket := bitField (buf.word 3) 8 24
  extHigh := buf.word 4
  jitter := buf.word 5
  lsr := buf.word 6
  dlsr := buf.word 7

structure RtcpREMBHeader where
  fmt : Nat
  p : Nat
  version : Nat
  pt : Nat
  len : Nat
  ssrc : Nat
  ssrcSource : Nat
  uid : Nat
  nSsrc : Nat
  brExp : Nat
  brMantis : Nat
  fSsrc : Nat
  deriving DecidableEq, Repr

def RtcpREMBHeader.size : Nat := 24

def RtcpREMBHeader.ofBuffer (buf : Buffer) : RtcpREMBHeader where
  fmt := bitField (buf.word 0) 0 5
  p := bitField (buf.word 0) 5 1
  version := bitField (buf.word 0) 6 2
  pt := bitField (buf.word 0) 8 8
  len := bitField (buf.word 0) 16 16
  ssrc := buf.word 1
  ssrcSource := buf.word 2
  uid := buf.word 3
  nSsrc := bitField (buf.word 4) 0 8
  brExp := bitField (buf.word 4) 8 6
  brMantis := bitField (buf.word 4) 14 18
  fSsrc := buf.word 5

def swap4Bytes (value : Nat) : Nat :=
  (value >>> 24 &&& 0xff) ||| (value >>> 8 &&& 0xff00) ||| (value <<< 8 &&& 0xff0000) |||
    (value <<< 24 &&& 0xff000000)

/-- A computation over a buffer together with the indices it looks at. -/
structure Inspection (α : Type) where
  value : α
  indices : List Nat

instance : Monad Inspection where
  pure value := ⟨value, []⟩
  bind first next := ⟨(next first.value).value, first.indices ++ (next first.value).indices⟩

def Buffer.byteAt (buf : Buffer) (index : Nat) : Inspection Nat := ⟨(buf index).toNat, [index]⟩

/-- `parse_RTP_ext`. The send time is counted in units of 2^-32 seconds: six bits of
seconds and eighteen of the fraction, which a `float` holds exactly. -/
def parseRtpExt (buf : Buffer) : Inspection (Option Nat) := do
  let first ← buf.byteAt 0
  if first &&& 0x10 = 0 then
    return none
  else
    let high ← buf.byteAt 12
    let low ← buf.byteAt 13
    if high <<< 8 + low ≠ 0xBEDE then
      return none
    else
      let seconds ← buf.byteAt 17
      let middle ← buf.byteAt 18
      let last ← buf.byteAt 19
      let fract := ((seconds &&& 0x3) <<< 16 ||| middle <<< 8 ||| last) <<< 14
      return some ((seconds >>> 2) <<< 32 + fract)

def marker (buf : Buffer) : Inspection Bool := do
  let second ← buf.byteAt 1
  return (second &&& 0x80) >>> 7 = 1

def sequenceNumber (buf : Buffer) : Inspection Nat := do
  let high ← buf.byteAt 2
  let low ← buf.byteAt 3
  return high <<< 8 ||| low

/-- The nearest number with twenty-four significant bits, ties to the even one: what a
`float` keeps of a product. -/
def floatRound (value : Nat) : Nat :=
  let unit := 2 ^ (value.log2 - 23)
  let quotient := value / unit
  let rest := value % unit
  if unit < 2 * rest ∨ unit = 2 * rest ∧ quotient % 2 = 1 then (quotient + 1) * unit
  else quotient * unit

def deltaMilliseconds (sendTS lastSendTS : Nat) : Int :=
  if lastSendTS ≤ sendTS then (floatRound ((sendTS - lastSendTS) * 1000) / 2 ^ 32 : Nat)
  else -(floatRound ((lastSendTS - sendTS) * 1000) / 2 ^ 32 : Nat)

/-! ### The socket pair -/

structure Decrypted (κ : Type) where
  err : Int
  context : κ
  buf : Buffer
  len : Nat

/-- The SRTP code of the media library over its contexts `κ`. Only the payload is
encrypted: the first eight bytes, common to RTP and RTCP, stay. -/
structure SrtpLibrary (κ : Type) where
  aes : κ → Bool
  decrypt : κ → Buffer → Nat → Decrypted κ
  keepsHeader : ∀ context buf len index, index < 8 →
    (decrypt context buf len).buf index = buf index

/-- The record of one encrypted packet: the datagram, the indices the code looked at,
the send time it took from the extension and the calls it made. -/
structure SrtpRead where
  packet : Datagram
  inspected : List Nat
  sendTime : Option Nat
  delayReported : Option (Int × Int)
  lossReported : Bool
  deriving DecidableEq, Repr

structure SocketPair (κ : Type) where
  systemSockets : Bool := true
  interrupted : Bool := false
  readBlockingMode : Bool := false
  rtpDataBuff : List Datagram := []
  rtcpDataBuff : List Datagram := []
  srtpIn : Option κ := none
  packetLossCallback : Bool := false
  rtpDelayCallback : Bool := false
  lastSeqNumIn : UInt16 := 0
  lastSendTS : Nat := 0
  lastReceiveTS : Nat := 0
  lastDLSR : Nat := 0
  lastRRTime : Nat := 0
  listRtcpRRHeader : List RtcpRRHeader := []
  listRtcpREMBHeader : List RtcpREMBHeader := []
  history : List SrtpRead := []

def minimumRtpHeaderSize : Nat := 16

def maxListSize : Nat := 10

def maxDrainPackets : Nat := 4096

def averrorEof : Int := -541478725

/-- The buffer a caller passes, its size and the clock, in nanoseconds. -/
structure ReadRequest where
  buf : Buffer
  bufSize : Nat
  now : Nat

structure ReadResult (κ : Type) where
  ret : Int
  buf : Buffer
  pair : SocketPair κ

inductive Waited where
  | waiting
  | failed
  | ready (rtp rtcp : Bool)
  deriving DecidableEq, Repr

namespace SocketPair

variable {κ : Type} (pair : SocketPair κ)

/-- `waiting` is a call that has not returned. -/
def waitForData : Waited :=
  if pair.interrupted then .failed
  else if pair.systemSockets then
    if !pair.readBlockingMode then .ready false false
    else if pair.rtpDataBuff.isEmpty && pair.rtcpDataBuff.isEmpty then .waiting
    else .ready (!pair.rtpDataBuff.isEmpty) (!pair.rtcpDataBuff.isEmpty)
  else if pair.rtpDataBuff.isEmpty && pair.rtcpDataBuff.isEmpty && pair.readBlockingMode then
    .waiting
  else .ready true true

/-- The sockets do not block, so an empty one answers with an error; an empty queue
of the other transport with no bytes. -/
def nothingRead : Int := if pair.systemSockets then -1 else 0

def readRtpData (request : ReadRequest) : ReadResult κ :=
  match pair.rtpDataBuff with
  | [] => ⟨pair.nothingRead, request.buf, pair⟩
  | datagram :: rest =>
    let len := min datagram.length request.bufSize
    ⟨len, request.buf.copyN datagram len, { pair with rtpDataBuff := rest }⟩

def readRtcpData (request : ReadRequest) : ReadResult κ :=
  match pair.rtcpDataBuff with
  | [] => ⟨pair.nothingRead, request.buf, pair⟩
  | datagram :: rest =>
    let len := min datagram.length request.bufSize
    ⟨len, request.buf.copyN datagram len, { pair with rtcpDataBuff := rest }⟩

def pushReport {α : Type} (reports : List α) (report : α) : List α :=
  (if maxListSize ≤ reports.length then reports.tail else reports) ++ [report]

def saveRtcpRRPacket (buf : Buffer) (len : Nat) : SocketPair κ :=
  let header := RtcpRRHeader.ofBuffer buf
  if len < RtcpRRHeader.size then pair
  else if header.pt ≠ 201 then pair
  else { pair with listRtcpRRHeader := pushReport pair.listRtcpRRHeader header }

def saveRtcpREMBPacket (buf : Buffer) (len : Nat) : SocketPair κ :=
  let header := RtcpREMBHeader.ofBuffer buf
  if len < RtcpREMBHeader.size then pair
  else if header.pt ≠ 206 then pair
  else if header.uid ≠ 0x424D4552 then pair
  else { pair with listRtcpREMBHeader := pushReport pair.listRtcpREMBHeader header }

def noteRtcp (buf : Buffer) (len now : Nat) : SocketPair κ :=
  let header := RtcpRRHeader.ofBuffer buf
  if header.pt = 201 ∧ RtcpRRHeader.size ≤ len then
    { pair with lastDLSR := swap4Bytes header.dlsr, lastRRTime := now }.saveRtcpRRPacket buf len
  else if header.pt = 206 then pair.saveRtcpREMBPacket buf len
  else pair

def getRtcpREMB : List RtcpREMBHeader × SocketPair κ :=
  (pair.listRtcpREMBHeader, { pair with listRtcpREMBHeader := [] })

def getOneWayDelayGradient (sendTS : Nat) (isLast : Bool) (now : Nat) :
    Option (Int × Int) × SocketPair κ :=
  if !isLast then (none, pair)
  else if pair.lastSendTS = 0 then
    (none, { pair with lastSendTS := sendTS, lastReceiveTS := now })
  else
    let delta := deltaMilliseconds sendTS pair.lastSendTS
    let deltaS := if delta < 0 then delta + 64000 else delta
    let deltaR := ((now : Int) - pair.lastReceiveTS).tdiv 1000000
    (some (deltaR - deltaS, deltaR), { pair with lastSendTS := sendTS, lastReceiveTS := now })

def reportsLoss (sequence : Nat) : Bool :=
  pair.packetLossCallback && sequence ≠ pair.lastSeqNumIn.toNat + 1

def readSrtp (library : SrtpLibrary κ) (context : κ) (buf : Buffer) (len now : Nat) :
    Decrypted κ × SocketPair κ :=
  let sendTime := parseRtpExt buf
  let isLast := marker buf
  let delay := match sendTime.value with
    | none => (none, pair)
    | some sendTS => pair.getOneWayDelayGradient sendTS isLast.value now
  let decrypted := library.decrypt context buf len
  let sequence := sequenceNumber decrypted.buf
  (decrypted,
    { delay.2 with
      srtpIn := some decrypted.context
      lastSeqNumIn := UInt16.ofNat sequence.value
      history := pair.history ++ [{
        packet := (List.range len).map buf
        inspected := sendTime.indices ++ isLast.indices ++ sequence.indices
        sendTime := sendTime.value
        delayReported := if pair.rtpDelayCallback then delay.1 else none
        lossReported := pair.reportsLoss sequence.value }] })

def receiveRtp (library : SrtpLibrary κ) (bufSize now : Nat) (read : ReadResult κ) :
    ReadResult κ :=
  if read.ret ≤ 0 then read
  else if bufSize < minimumRtpHeaderSize then read
  else
    match read.pair.srtpIn with
    | none => read
    | some context =>
      if library.aes context then
        let result := read.pair.readSrtp library context read.buf read.ret.toNat now
        ⟨if result.1.len ≠ 0 then result.1.len else averrorEof, result.1.buf, result.2⟩
      else read

def readDataNoBlock (library : SrtpLibrary κ) (request : ReadRequest) : ReadResult κ :=
  receiveRtp library request.bufSize request.now (pair.readRtpData request)

def readData (library : SrtpLibrary κ) (request : ReadRequest) : Option (ReadResult κ) :=
  match pair.waitForData with
  | .waiting => none
  | .failed => some ⟨-1, request.buf, pair⟩
  | .ready rtp _ =>
    some (if rtp then pair.readDataNoBlock library request else ⟨0, request.buf, pair⟩)

def readReport (rtcp : Bool) (request : ReadRequest) : ReadResult κ :=
  if rtcp then pair.readRtcpData request else ⟨0, request.buf, pair⟩

/-- The RTCP socket is asked first; the RTP one only when it had nothing. -/
def readReady (library : SrtpLibrary κ) (request : ReadRequest) (rtp rtcp : Bool) :
    ReadResult κ :=
  let report := pair.readReport rtcp request
  if 0 < report.ret then
    { report with pair := report.pair.noteRtcp report.buf report.ret.toNat request.now }
  else if report.ret = 0 ∧ rtp then
    report.pair.readDataNoBlock library { request with buf := report.buf }
  else report

def readCallback (library : SrtpLibrary κ) (request : ReadRequest) : Option (ReadResult κ) :=
  match pair.waitForData with
  | .waiting => none
  | .failed => some ⟨-1, request.buf, pair⟩
  | .ready rtp rtcp => some (pair.readReady library request rtp rtcp)

def drain : Nat → List Datagram → List Datagram
  | 0, queue => queue
  | _ + 1, [] => []
  | left + 1, datagram :: rest => if datagram = [] then rest else drain left rest

def flushReadQueue : SocketPair κ :=
  if pair.systemSockets then
    { pair with
      rtpDataBuff := drain maxDrainPackets pair.rtpDataBuff
      rtcpDataBuff := drain maxDrainPackets pair.rtcpDataBuff }
  else { pair with rtpDataBuff := [], rtcpDataBuff := [] }

end SocketPair

variable {index : Nat} {enabled : Bool}

inductive SocketEvent where
  | rtpArrives (datagram : Datagram)
  | rtcpArrives (datagram : Datagram)
  | interrupt
  | setReadBlockingMode (block : Bool)
  | flushReadQueue
  | getRtcpREMB
  | readCallback (request : ReadRequest)
  | readData (request : ReadRequest)
  | readDataNoBlock (request : ReadRequest)

namespace SocketPair

variable {κ : Type}

def step (library : SrtpLibrary κ) (pair : SocketPair κ) : SocketEvent → SocketPair κ
  | .rtpArrives datagram => { pair with rtpDataBuff := pair.rtpDataBuff ++ [datagram] }
  | .rtcpArrives datagram => { pair with rtcpDataBuff := pair.rtcpDataBuff ++ [datagram] }
  | .interrupt => { pair with interrupted := true }
  | .setReadBlockingMode block => { pair with readBlockingMode := block }
  | .flushReadQueue => pair.flushReadQueue
  | .getRtcpREMB => pair.getRtcpREMB.2
  | .readCallback request => ((pair.readCallback library request).map ReadResult.pair).getD pair
  | .readData request => ((pair.readData library request).map ReadResult.pair).getD pair
  | .readDataNoBlock request => (pair.readDataNoBlock library request).pair

structure SameRecord (before after : SocketPair κ) : Prop where
  history : after.history = before.history
  lastSeqNumIn : after.lastSeqNumIn = before.lastSeqNumIn
  callback : after.packetLossCallback = before.packetLossCallback

theorem SameRecord.refl (pair : SocketPair κ) : SameRecord pair pair := ⟨rfl, rfl, rfl⟩

theorem SameRecord.trans {before middle after : SocketPair κ} (first : SameRecord before middle)
    (second : SameRecord middle after) : SameRecord before after where
  history := second.history.trans first.history
  lastSeqNumIn := second.lastSeqNumIn.trans first.lastSeqNumIn
  callback := second.callback.trans first.callback

/-- One more encrypted packet was read: the first `len` bytes of `buf`. -/
structure PacketRead (before after : SocketPair κ) (buf : Buffer) (len : Nat)
    (read : SrtpRead) : Prop where
  history : after.history = before.history ++ [read]
  lastSeqNumIn : after.lastSeqNumIn = UInt16.ofNat (sequenceNumber buf).value
  callback : after.packetLossCallback = before.packetLossCallback
  packet : read.packet = (List.range len).map buf
  inspected : read.inspected = (parseRtpExt buf).indices ++ [1, 2, 3]
  sendTime : read.sendTime = (parseRtpExt buf).value
  lossReported : read.lossReported = before.reportsLoss (sequenceNumber buf).value

theorem PacketRead.of_same {before middle after : SocketPair κ} {buf : Buffer} {len : Nat}
    {read : SrtpRead} (same : SameRecord before middle)
    (done : PacketRead middle after buf len read) : PacketRead before after buf len read where
  history := by rw [done.history, same.history]
  lastSeqNumIn := done.lastSeqNumIn
  callback := done.callback.trans same.callback
  packet := done.packet
  inspected := done.inspected
  sendTime := done.sendTime
  lossReported := by
    rw [done.lossReported, reportsLoss, reportsLoss, same.callback, same.lastSeqNumIn]

/-- What a step does to the record: nothing, or one packet more, which is the oldest
waiting datagram cut to the buffer. -/
def Outcome (before after : SocketPair κ) : Prop :=
  SameRecord before after ∨
    ∃ buf len read datagram, 0 < len ∧ PacketRead before after buf len read ∧
      datagram ∈ before.rtpDataBuff.head? ∧ read.packet = datagram.take len

theorem Outcome.of_same {before middle after : SocketPair κ} (same : SameRecord before middle)
    (queue : middle.rtpDataBuff = before.rtpDataBuff) (done : Outcome middle after) :
    Outcome before after := by
  rcases done with unchanged | ⟨buf, len, read, datagram, positive, packetRead, oldest, taken⟩
  · exact .inl (same.trans unchanged)
  · rw [queue] at oldest
    exact .inr ⟨buf, len, read, datagram, positive, packetRead.of_same same, oldest, taken⟩

theorem sequenceNumber_decrypted (library : SrtpLibrary κ) (context : κ) (buf : Buffer)
    (len : Nat) : sequenceNumber (library.decrypt context buf len).buf = sequenceNumber buf := by
  have high := library.keepsHeader context buf len 2 (by decide)
  have low := library.keepsHeader context buf len 3 (by decide)
  simp only [sequenceNumber, Buffer.byteAt, high, low]

section

variable (pair : SocketPair κ)

private theorem getOneWayDelayGradient_same (sendTS : Nat) (isLast : Bool) (now : Nat) :
    SameRecord pair (pair.getOneWayDelayGradient sendTS isLast now).2 := by
  unfold getOneWayDelayGradient
  split
  · exact .refl pair
  · split
    · exact ⟨rfl, rfl, rfl⟩
    · exact ⟨rfl, rfl, rfl⟩

private theorem saveRtcpRRPacket_same (buf : Buffer) (len : Nat) :
    SameRecord pair (pair.saveRtcpRRPacket buf len) := by
  unfold saveRtcpRRPacket
  dsimp only
  split
  · exact .refl pair
  · split
    · exact .refl pair
    · exact ⟨rfl, rfl, rfl⟩

private theorem saveRtcpREMBPacket_same (buf : Buffer) (len : Nat) :
    SameRecord pair (pair.saveRtcpREMBPacket buf len) := by
  unfold saveRtcpREMBPacket
  dsimp only
  split
  · exact .refl pair
  · split
    · exact .refl pair
    · split
      · exact .refl pair
      · exact ⟨rfl, rfl, rfl⟩

theorem noteRtcp_same (buf : Buffer) (len now : Nat) :
    SameRecord pair (pair.noteRtcp buf len now) := by
  unfold noteRtcp
  dsimp only
  split
  · apply SameRecord.trans _ (saveRtcpRRPacket_same _ buf len)
    exact ⟨rfl, rfl, rfl⟩
  · split
    · exact saveRtcpREMBPacket_same pair buf len
    · exact .refl pair

theorem readRtcpData_same (request : ReadRequest) :
    SameRecord pair (pair.readRtcpData request).pair ∧
      (pair.readRtcpData request).pair.rtpDataBuff = pair.rtpDataBuff := by
  unfold readRtcpData
  split
  · exact ⟨.refl pair, rfl⟩
  · exact ⟨⟨rfl, rfl, rfl⟩, rfl⟩

theorem readReport_same (rtcp : Bool) (request : ReadRequest) :
    SameRecord pair (pair.readReport rtcp request).pair ∧
      (pair.readReport rtcp request).pair.rtpDataBuff = pair.rtpDataBuff := by
  cases rtcp with
  | false => exact ⟨.refl pair, rfl⟩
  | true => exact readRtcpData_same pair request

private theorem readRtpData_same (request : ReadRequest) :
    SameRecord pair (pair.readRtpData request).pair := by
  unfold readRtpData
  split
  · exact .refl pair
  · exact ⟨rfl, rfl, rfl⟩

end

private theorem map_copyN (datagram : Datagram) (buf : Buffer) {len : Nat}
    (within : len ≤ datagram.length) :
    (List.range len).map (buf.copyN datagram len) = datagram.take len := by
  apply List.ext_getElem
  · rw [List.length_map, List.length_range, List.length_take, Nat.min_eq_left within]
  · intro index inRange _
    have below : index < len := by
      rw [List.length_map, List.length_range] at inRange
      exact inRange
    rw [List.getElem_map, List.getElem_range, List.getElem_take, Buffer.copyN, if_pos below,
      List.getD_eq_getElem _ _ (Nat.lt_of_lt_of_le below within)]

private theorem readRtpData_oldest (pair : SocketPair κ) (request : ReadRequest)
    (some_read : 0 < (pair.readRtpData request).ret) :
    ∃ datagram ∈ pair.rtpDataBuff.head?,
      (List.range (pair.readRtpData request).ret.toNat).map (pair.readRtpData request).buf =
        datagram.take (pair.readRtpData request).ret.toNat := by
  cases queue : pair.rtpDataBuff with
  | nil =>
    simp only [readRtpData, queue, nothingRead] at some_read
    split at some_read
    · exact absurd some_read (by decide)
    · exact absurd some_read (by decide)
  | cons datagram rest =>
    refine ⟨datagram, rfl, ?_⟩
    simp only [readRtpData, queue, Int.toNat_natCast]
    exact map_copyN datagram request.buf (Nat.min_le_left _ _)

theorem readSrtp_packetRead (library : SrtpLibrary κ) (context : κ) (pair : SocketPair κ)
    (buf : Buffer) (len now : Nat) :
    ∃ read, PacketRead pair (pair.readSrtp library context buf len now).2 buf len read := by
  have sequence := sequenceNumber_decrypted library context buf len
  have callback : ∀ sendTS, (pair.getOneWayDelayGradient sendTS (marker buf).value
      now).2.packetLossCallback = pair.packetLossCallback :=
    fun sendTS => (getOneWayDelayGradient_same pair sendTS _ now).callback
  refine ⟨_, ⟨rfl, ?_, ?_, rfl, ?_, rfl, ?_⟩⟩
  · simp only [readSrtp, sequence]
  · cases parsed : (parseRtpExt buf).value with
    | none => simp only [readSrtp, parsed]
    | some sendTS => simp only [readSrtp, parsed, callback]
  · simp only [sequence, List.append_assoc]
    rfl
  · simp only [sequence]

theorem receiveRtp_cases (library : SrtpLibrary κ) (bufSize now : Nat) (result : ReadResult κ) :
    SameRecord result.pair (receiveRtp library bufSize now result).pair ∨
      0 < result.ret ∧ ∃ read, PacketRead result.pair (receiveRtp library bufSize now result).pair
        result.buf result.ret.toNat read := by
  unfold receiveRtp
  by_cases empty : result.ret ≤ 0
  · rw [if_pos empty]
    exact .inl (.refl _)
  rw [if_neg empty]
  by_cases small : bufSize < minimumRtpHeaderSize
  · rw [if_pos small]
    exact .inl (.refl _)
  rw [if_neg small]
  cases configured : result.pair.srtpIn with
  | none => exact .inl (.refl _)
  | some context =>
    by_cases keyed : library.aes context
    · right
      simp only [keyed, if_true]
      exact ⟨Int.not_le.mp empty, readSrtp_packetRead library context _ _ _ now⟩
    · simp only [keyed]
      exact .inl (.refl _)

section

variable (library : SrtpLibrary κ) (pair : SocketPair κ) (request : ReadRequest)

theorem readDataNoBlock_outcome : Outcome pair (pair.readDataNoBlock library request).pair := by
  have popped := readRtpData_same pair request
  rcases receiveRtp_cases library request.bufSize request.now (pair.readRtpData request) with
    unchanged | ⟨positive, read, packetRead⟩
  · exact .inl (popped.trans unchanged)
  · right
    obtain ⟨datagram, oldest, bytes⟩ := readRtpData_oldest pair request positive
    refine ⟨_, _, read, datagram, ?_, packetRead.of_same popped, oldest, ?_⟩
    · exact Int.lt_toNat.mpr positive
    · exact packetRead.packet.trans bytes

private theorem readData_outcome :
    Outcome pair (((pair.readData library request).map ReadResult.pair).getD pair) := by
  unfold readData
  cases pair.waitForData with
  | waiting => exact .inl (.refl pair)
  | failed => exact .inl (.refl pair)
  | ready rtp rtcp =>
    cases rtp with
    | false => exact .inl (.refl pair)
    | true => exact readDataNoBlock_outcome library pair request

private theorem readReady_outcome (rtp rtcp : Bool) :
    Outcome pair (pair.readReady library request rtp rtcp).pair := by
  obtain ⟨same, queue⟩ := readReport_same pair rtcp request
  simp only [readReady]
  split
  · exact .inl (same.trans (noteRtcp_same _ _ _ _))
  · split
    · exact (readDataNoBlock_outcome library _ _).of_same same queue
    · exact .inl same

theorem readCallback_outcome :
    Outcome pair (((pair.readCallback library request).map ReadResult.pair).getD pair) := by
  unfold readCallback
  cases pair.waitForData with
  | waiting => exact .inl (.refl pair)
  | failed => exact .inl (.refl pair)
  | ready rtp rtcp => exact readReady_outcome library pair request rtp rtcp

end

theorem step_outcome (library : SrtpLibrary κ) (pair : SocketPair κ) (event : SocketEvent) :
    Outcome pair (step library pair event) := by
  cases event with
  | rtpArrives datagram => exact .inl ⟨rfl, rfl, rfl⟩
  | rtcpArrives datagram => exact .inl ⟨rfl, rfl, rfl⟩
  | interrupt => exact .inl ⟨rfl, rfl, rfl⟩
  | setReadBlockingMode block => exact .inl ⟨rfl, rfl, rfl⟩
  | flushReadQueue =>
    left
    change SameRecord pair pair.flushReadQueue
    unfold flushReadQueue
    split
    · exact ⟨rfl, rfl, rfl⟩
    · exact ⟨rfl, rfl, rfl⟩
  | getRtcpREMB => exact .inl ⟨rfl, rfl, rfl⟩
  | readCallback request => exact readCallback_outcome library pair request
  | readData request => exact readData_outcome library pair request
  | readDataNoBlock request => exact readDataNoBlock_outcome library pair request

def rtpSequence (packet : Datagram) : Nat :=
  (packet.getD 2 0).toNat * 256 + (packet.getD 3 0).toNat

theorem sequenceNumber_value (buf : Buffer) :
    (sequenceNumber buf).value = (buf 2).toNat * 256 + (buf 3).toNat := by
  change (buf 2).toNat <<< 8 ||| (buf 3).toNat = _
  rw [← Nat.shiftLeft_add_eq_or_of_lt (UInt8.toNat_lt (buf 3)), Nat.shiftLeft_eq]

theorem getD_packet (buf : Buffer) {len : Nat} (below : index < len) :
    ((List.range len).map buf).getD index 0 = buf index := by
  rw [List.getD_eq_getElem _ _ (by rw [List.length_map, List.length_range]; exact below),
    List.getElem_map, List.getElem_range]

private theorem rtpSequence_packet (buf : Buffer) {len : Nat} (long : 4 ≤ len) :
    rtpSequence ((List.range len).map buf) = (sequenceNumber buf).value := by
  rw [rtpSequence, getD_packet buf (by omega), getD_packet buf (by omega), sequenceNumber_value]

private theorem sequenceNumber_lt (buf : Buffer) : (sequenceNumber buf).value < 65536 := by
  rw [sequenceNumber_value]
  have high := UInt8.toNat_lt (buf 2)
  have low := UInt8.toNat_lt (buf 3)
  omega

def Compared (enabled : Bool) (earlier later : SrtpRead) : Prop :=
  4 ≤ earlier.packet.length → 4 ≤ later.packet.length →
    later.lossReported =
      (enabled && rtpSequence later.packet ≠ rtpSequence earlier.packet + 1)

structure Recorded (enabled : Bool) (pair : SocketPair κ) : Prop where
  callback : pair.packetLossCallback = enabled
  chain : pair.history.IsChain (Compared enabled)
  last : ∀ read ∈ pair.history.getLast?, 4 ≤ read.packet.length →
    pair.lastSeqNumIn.toNat = rtpSequence read.packet

theorem PacketRead.recorded {before after : SocketPair κ} {buf : Buffer} {len : Nat}
    {read : SrtpRead} (done : PacketRead before after buf len read)
    (recorded : Recorded enabled before) : Recorded enabled after := by
  have length : read.packet.length = len := by
    rw [done.packet, List.length_map, List.length_range]
  constructor
  · exact done.callback.trans recorded.callback
  · rw [done.history, List.isChain_append]
    refine ⟨recorded.chain, List.isChain_singleton _, ?_⟩
    intro earlier isLast later isRead
    cases Option.mem_some.mp isRead
    intro earlierLong long
    rw [length] at long
    rw [done.lossReported, reportsLoss, recorded.callback,
      recorded.last earlier isLast earlierLong, done.packet, rtpSequence_packet buf long]
  · intro final isLast long
    rw [done.history, List.getLast?_concat] at isLast
    cases Option.mem_some.mp isLast
    rw [length] at long
    rw [done.lastSeqNumIn, done.packet, rtpSequence_packet buf long]
    exact Nat.mod_eq_of_lt (sequenceNumber_lt buf)

private theorem step_recorded (library : SrtpLibrary κ) (pair : SocketPair κ) (event : SocketEvent)
    (recorded : Recorded enabled pair) : Recorded enabled (step library pair event) := by
  rcases step_outcome library pair event with same | ⟨buf, len, read, _, _, done, _⟩
  · constructor
    · exact same.callback.trans recorded.callback
    · rw [same.history]
      exact recorded.chain
    · rw [same.history, same.lastSeqNumIn]
      exact recorded.last
  · exact done.recorded recorded

theorem run_recorded (library : SrtpLibrary κ) (pair : SocketPair κ) (events : List SocketEvent)
    (fresh : pair.history = []) :
    Recorded pair.packetLossCallback (Run.after (step library) pair events) := by
  have initially : Recorded pair.packetLossCallback pair := by
    refine ⟨rfl, ?_, ?_⟩
    · rw [fresh]
      exact List.isChain_nil
    · rw [fresh]
      intro read isLast
      cases isLast
  exact (Run.always_of_preserved (step_recorded library) initially events).last

/-- A stream in order: every packet has an RTP header, and the sequence numbers count
on from `start`, around the end of their range. -/
structure InOrder (start : UInt16) (packets : List Datagram) : Prop where
  header : ∀ packet ∈ packets, 12 ≤ packet.length
  consecutive : packets.map rtpSequence =
    (List.range packets.length).map fun index => (start.toNat + index) % 65536

theorem InOrder.sequence {start : UInt16} {packets : List Datagram}
    (inOrder : InOrder start packets) (inRange : index < packets.length) :
    rtpSequence packets[index] = (start.toNat + index) % 65536 := by
  have numbers := congrArg (fun numbers => numbers[index]?) inOrder.consecutive
  simpa [inRange] using numbers

theorem successor_wraps_iff (number : Nat) :
    (number + 1) % 65536 ≠ number % 65536 + 1 ↔ (number + 1) % 65536 = 0 := by
  omega

theorem lossReported_iff {start : UInt16} {reads : List SrtpRead}
    (chain : reads.IsChain (Compared enabled)) (inOrder : InOrder start (reads.map SrtpRead.packet))
    (inRange : index + 1 < reads.length) :
    reads[index + 1].lossReported = true ↔
      enabled = true ∧ (start.toNat + (index + 1)) % 65536 = 0 := by
  have long : ∀ read ∈ reads, 4 ≤ read.packet.length := by
    intro read member
    have header := inOrder.header read.packet (List.mem_map_of_mem member)
    omega
  have number : ∀ position (within : position < reads.length),
      rtpSequence reads[position].packet = (start.toNat + position) % 65536 := by
    intro position within
    have mapped : position < (reads.map SrtpRead.packet).length := by
      rw [List.length_map]
      exact within
    have sequence := inOrder.sequence mapped
    rwa [List.getElem_map] at sequence
  have compared := List.isChain_iff_getElem.mp chain index inRange
    (long _ (List.getElem_mem _)) (long _ (List.getElem_mem _))
  rw [compared, number, number, Bool.and_eq_true, decide_eq_true_iff]
  exact and_congr_right fun _ => successor_wraps_iff (start.toNat + index)

/-- A stream in order is read without a loss report behind its first packet exactly
as long as it ends before its numbers start again. -/
theorem no_loss_reported_iff (library : SrtpLibrary κ) (pair : SocketPair κ)
    (events : List SocketEvent) (start : UInt16) (fresh : pair.history = [])
    (inOrder : InOrder start
      ((Run.after (step library) pair events).history.map SrtpRead.packet)) :
    (∀ read ∈ (Run.after (step library) pair events).history.tail, read.lossReported = false) ↔
      (pair.packetLossCallback = false ∨
        start.toNat + (Run.after (step library) pair events).history.length ≤ 65536) := by
  have recorded := run_recorded library pair events fresh
  generalize Run.after (step library) pair events = final at inOrder recorded ⊢
  have small := UInt16.toNat_lt start
  constructor
  · intro quiet
    by_contra wraps
    rw [not_or, Bool.not_eq_false] at wraps
    -- The packet numbered 0 is not the first one, since the start is below 65536.
    obtain ⟨index, position⟩ : ∃ index, index + 1 + start.toNat = 65536 :=
      ⟨65535 - start.toNat, by omega⟩
    have inRange : index + 1 < final.history.length := by omega
    have reported := (lossReported_iff recorded.chain inOrder inRange).mpr
      ⟨wraps.1, by omega⟩
    have member : final.history[index + 1] ∈ final.history.tail := by
      rw [← List.getElem_tail (by rw [List.length_tail]; omega)]
      exact List.getElem_mem _
    rw [quiet _ member] at reported
    cases reported
  · intro unwrapped read member
    obtain ⟨index, inRange, equal⟩ := List.mem_iff_getElem.mp member
    rw [List.length_tail] at inRange
    rw [List.getElem_tail] at equal
    rw [← equal, ← Bool.not_eq_true]
    intro reported
    obtain ⟨enabled, wrapped⟩ :=
      (lossReported_iff recorded.chain inOrder (by omega)).mp reported
    rcases unwrapped with disabled | short
    · rw [disabled] at enabled
      cases enabled
    · omega

def plainLibrary : SrtpLibrary Unit where
  aes := fun _ => true
  decrypt := fun context buf len => ⟨0, context, buf, len⟩
  keepsHeader := fun _ _ _ _ _ => rfl

def rtpPacket (high low : UInt8) : Datagram := [0x80, 96, high, low, 0, 0, 0, 0, 0, 0, 0, 0, 7]

def emptyRequest : ReadRequest := ⟨fun _ => 0, 1500, 0⟩

def encryptedPair : SocketPair Unit := { srtpIn := some (), packetLossCallback := true }

def twoPackets (first second : Datagram) : List SocketEvent :=
  [.rtpArrives first, .rtpArrives second, .readDataNoBlock emptyRequest,
    .readDataNoBlock emptyRequest]

theorem no_loss_reported_iff_at_the_end :
    (∀ read ∈ (Run.after (step plainLibrary) encryptedPair
        (twoPackets (rtpPacket 255 254) (rtpPacket 255 255))).history.tail,
      read.lossReported = false) ∧ (65534 : UInt16).toNat + 2 ≤ 65536 := by
  constructor
  · apply (no_loss_reported_iff plainLibrary encryptedPair
      (twoPackets (rtpPacket 255 254) (rtpPacket 255 255)) 65534 rfl ?_).mpr
    · decide +kernel
    · constructor
      · decide +kernel
      · decide +kernel
  · decide

/-- Behind 65535 comes 0, and the check asks for 65536. -/
theorem wrap_reported_as_loss :
    let reads := (Run.after (step plainLibrary) encryptedPair
      (twoPackets (rtpPacket 255 255) (rtpPacket 0 0))).history
    InOrder 65535 (reads.map SrtpRead.packet) ∧
      ¬ ∀ read ∈ reads.tail, read.lossReported = false := by
  refine ⟨⟨?_, ?_⟩, ?_⟩
  · decide +kernel
  · decide +kernel
  · decide +kernel

/-! ### The offsets of the header -/

def csrcCount (packet : Datagram) : Nat := (packet.getD 0 0).toNat % 16

def hasExtension (packet : Datagram) : Prop := (packet.getD 0 0).toNat &&& 0x10 ≠ 0

def extensionStart (packet : Datagram) : Nat := 12 + 4 * csrcCount packet + 4

def extensionWords (packet : Datagram) : Nat :=
  (packet.getD (extensionStart packet - 2) 0).toNat * 256 +
    (packet.getD (extensionStart packet - 1) 0).toNat

def InExtension (packet : Datagram) (index : Nat) : Prop :=
  extensionStart packet ≤ index ∧ index < extensionStart packet + 4 * extensionWords packet

/-- The code looks at bytes of the packet only, and a send time it uses comes from
the header extension. -/
structure WellRead (read : SrtpRead) : Prop where
  within : ∀ index ∈ read.inspected, index < read.packet.length
  located : read.sendTime.isSome = true → ∀ index ∈ [17, 18, 19], InExtension read.packet index

/-- The bytes behind the fixed header say 0xBEDE, where the profile stands when there
are no CSRCs. -/
def oneByteProfile (packet : Datagram) : Prop :=
  (packet.getD 12 0).toNat <<< 8 + (packet.getD 13 0).toNat = 0xBEDE

/-- What a packet has to be like for the fixed offsets to be right. -/
structure HeaderFits (packet : Datagram) : Prop where
  sequence : 4 ≤ packet.length
  profile : hasExtension packet → 14 ≤ packet.length
  sendTime : hasExtension packet → oneByteProfile packet →
    20 ≤ packet.length ∧ csrcCount packet = 0 ∧ 0 < extensionWords packet

private theorem parseRtpExt_cases (buf : Buffer) :
    ((buf 0).toNat &&& 0x10 = 0 ∧ (parseRtpExt buf).value = none ∧
        (parseRtpExt buf).indices = [0]) ∨
      ((buf 0).toNat &&& 0x10 ≠ 0 ∧ (buf 12).toNat <<< 8 + (buf 13).toNat ≠ 0xBEDE ∧
        (parseRtpExt buf).value = none ∧ (parseRtpExt buf).indices = [0, 12, 13]) ∨
      ((buf 0).toNat &&& 0x10 ≠ 0 ∧ (buf 12).toNat <<< 8 + (buf 13).toNat = 0xBEDE ∧
        (parseRtpExt buf).value.isSome = true ∧
        (parseRtpExt buf).indices = [0, 12, 13, 17, 18, 19]) := by
  by_cases plain : (buf 0).toNat &&& 0x10 = 0
  · simp [parseRtpExt, Buffer.byteAt, bind, pure, plain]
  · by_cases profile : (buf 12).toNat <<< 8 + (buf 13).toNat = 0xBEDE
    · simp [parseRtpExt, Buffer.byteAt, bind, pure, plain, profile]
    · simp [parseRtpExt, Buffer.byteAt, bind, pure, plain, profile]

private theorem inExtension_iff (packet : Datagram) :
    (∀ index ∈ [17, 18, 19], InExtension packet index) ↔
      csrcCount packet = 0 ∧ 0 < extensionWords packet := by
  constructor
  · intro inside
    have first := inside 17 (by decide)
    have last := inside 19 (by decide)
    unfold InExtension extensionStart at first last
    omega
  · rintro ⟨noCsrc, words⟩ index member
    have bounds : 17 ≤ index ∧ index ≤ 19 := by
      simp only [List.mem_cons, List.not_mem_nil, or_false] at member
      omega
    unfold InExtension extensionStart
    omega

section Offsets

variable {before after : SocketPair κ} {buf : Buffer} {len : Nat} {read : SrtpRead}

section

variable (done : PacketRead before after buf len read)
include done

theorem PacketRead.length : read.packet.length = len := by
  rw [done.packet, List.length_map, List.length_range]

theorem PacketRead.hasExtension_iff (positive : 0 < len) :
    hasExtension read.packet ↔ (buf 0).toNat &&& 0x10 ≠ 0 := by
  rw [hasExtension, done.packet, getD_packet buf positive]

theorem PacketRead.oneByteProfile_iff (long : 14 ≤ len) :
    oneByteProfile read.packet ↔ (buf 12).toNat <<< 8 + (buf 13).toNat = 0xBEDE := by
  rw [oneByteProfile, done.packet, getD_packet buf (by omega), getD_packet buf (by omega)]

theorem PacketRead.wellRead_iff (positive : 0 < len) : WellRead read ↔ HeaderFits read.packet := by
  have length := done.length
  have extension := done.hasExtension_iff positive
  have profile := done.oneByteProfile_iff
  rcases parseRtpExt_cases buf with ⟨plain, value, indices⟩ | ⟨extended, other, value, indices⟩ |
    ⟨extended, oneByte, value, indices⟩
  · have absent : ¬ hasExtension read.packet := fun present => extension.mp present plain
    have inspected : read.inspected = [0, 1, 2, 3] := by rw [done.inspected, indices]; rfl
    have sendTime : read.sendTime = none := done.sendTime.trans value
    constructor
    · intro wellRead
      have reached := wellRead.within 3 (by rw [inspected]; decide)
      exact ⟨reached, fun present => absurd present absent, fun present => absurd present absent⟩
    · intro fits
      constructor
      · intro index member
        have sequence := fits.sequence
        simp only [inspected, List.mem_cons, List.not_mem_nil, or_false] at member
        omega
      · intro used
        rw [sendTime] at used
        cases used
  · have present : hasExtension read.packet := extension.mpr extended
    have inspected : read.inspected = [0, 12, 13, 1, 2, 3] := by rw [done.inspected, indices]; rfl
    have sendTime : read.sendTime = none := done.sendTime.trans value
    constructor
    · intro wellRead
      have reached := wellRead.within 13 (by rw [inspected]; decide)
      refine ⟨by omega, fun _ => by omega, fun _ matches_profile => ?_⟩
      exact absurd ((profile (by omega)).mp matches_profile) other
    · intro fits
      constructor
      · intro index member
        have reached := fits.profile present
        simp only [inspected, List.mem_cons, List.not_mem_nil, or_false] at member
        omega
      · intro used
        rw [sendTime] at used
        cases used
  · have present : hasExtension read.packet := extension.mpr extended
    have inspected : read.inspected = [0, 12, 13, 17, 18, 19, 1, 2, 3] := by
      rw [done.inspected, indices]; rfl
    have used : read.sendTime.isSome = true := by rw [done.sendTime]; exact value
    constructor
    · intro wellRead
      have reached := wellRead.within 19 (by rw [inspected]; decide)
      refine ⟨by omega, fun _ => by omega, fun _ _ => ⟨by omega, ?_⟩⟩
      exact (inExtension_iff read.packet).mp (wellRead.located used)
    · intro fits
      have reached := fits.profile present
      have matched := (profile (by omega)).mpr oneByte
      obtain ⟨long, noCsrc, words⟩ := fits.sendTime present matched
      constructor
      · intro index member
        simp only [inspected, List.mem_cons, List.not_mem_nil, or_false] at member
        omega
      · intro _
        exact (inExtension_iff read.packet).mpr ⟨noCsrc, words⟩

end

end Offsets

private theorem step_wellRead (library : SrtpLibrary κ) (pair : SocketPair κ) (event : SocketEvent)
    (sofar : ∀ read ∈ pair.history, WellRead read ↔ HeaderFits read.packet) :
    ∀ read ∈ (step library pair event).history, WellRead read ↔ HeaderFits read.packet := by
  intro read member
  rcases step_outcome library pair event with same | ⟨buf, len, latest, _, positive, done, _⟩
  · rw [same.history] at member
    exact sofar read member
  · rw [done.history] at member
    rcases List.mem_append.mp member with old | new
    · exact sofar read old
    · cases List.mem_singleton.mp new
      exact done.wellRead_iff positive

/-- In every run, the header of an encrypted packet is read within the packet and at
the right place exactly when the packet fits the fixed offsets. -/
theorem every_header_read_iff (library : SrtpLibrary κ) (pair : SocketPair κ)
    (events : List SocketEvent) (fresh : pair.history = []) :
    ∀ read ∈ (Run.after (step library) pair events).history,
      WellRead read ↔ HeaderFits read.packet := by
  have initially : ∀ read ∈ pair.history, WellRead read ↔ HeaderFits read.packet := by
    rw [fresh]
    intro read member
    cases member
  exact (Run.always_of_preserved (step_wellRead library) initially events).last

def onePacket (packet : Datagram) : List SocketEvent :=
  [.rtpArrives packet, .readDataNoBlock emptyRequest]

/-- A send time in an extension of one word. -/
def timedPacket : Datagram :=
  [0x90, 0x60, 0, 1, 0, 0, 0, 0, 0, 0, 0, 0, 0xBE, 0xDE, 0, 1, 0x22, 1, 2, 3, 7]

theorem every_header_read_iff_with_send_time :
    let reads := (Run.after (step plainLibrary) encryptedPair (onePacket timedPacket)).history
    reads.map SrtpRead.packet = [timedPacket] ∧
      reads.map (fun read => read.sendTime.isSome) = [true] ∧ ∀ read ∈ reads, WellRead read := by
  refine ⟨by decide +kernel, by decide +kernel, ?_⟩
  intro read member
  apply (every_header_read_iff plainLibrary encryptedPair _ rfl read member).mpr
  have packet : read.packet = timedPacket := by
    revert read
    decide +kernel
  rw [packet]
  exact ⟨by decide, fun _ => by decide, fun _ _ => by decide⟩

/-- The last packet of a frame, fourteen bytes long, with the extension bit set. -/
def cutExtension : Datagram := [0x90, 0xE0, 0, 1, 0, 0, 0, 0, 0, 0, 0, 0, 0xBE, 0xDE]

theorem cut_extension_read_beyond_the_end :
    let reads := (Run.after (step plainLibrary) encryptedPair (onePacket cutExtension)).history
    reads.map SrtpRead.packet = [cutExtension] ∧ ¬ ∀ read ∈ reads, WellRead read := by
  constructor
  · decide +kernel
  · intro wellRead
    have outside : ¬ ∀ read ∈ (Run.after (step plainLibrary) encryptedPair
        (onePacket cutExtension)).history, ∀ index ∈ read.inspected,
          index < read.packet.length := by
      decide +kernel
    exact outside fun read member => (wellRead read member).within

end SocketPair

end SipCore.Rtp
