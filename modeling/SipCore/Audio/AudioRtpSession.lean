/-
The sender of an audio RTP session with the G.729 codec, and the numbers of the
packets on the wire. A sender is made anew on every start, and the session hands it
one more than the number the last sender reports, which is its next one already.

The socket pair takes every packet it is given. The receiver, the audio input and the
threads are left out; what they decide is an argument of the operation.
-/

import SipCore.Audio.G729Encoder
import Mathlib.Data.List.Chain

namespace SipCore

open G729

structure SendDescription where
  enabled : Bool
  onHold : Bool
deriving DecidableEq, Repr

structure AudioRtpSession (σ β : Type) where
  mtu : Nat
  send : SendDescription
  receiveEnabled : Bool
  socketPair : Bool
  sender : Option (Encoder σ β)
  initSeqVal : Nat
  lastSenderSeqVal : Option Nat
  earlyMediaMode : Bool
  holdKeepaliveMode : Bool
  wire : List (Packet β)

namespace AudioRtpSession

variable {σ β : Type}

def create (mtu : Nat) : AudioRtpSession σ β :=
  { mtu := mtu
    send := ⟨false, false⟩
    receiveEnabled := false
    socketPair := false
    sender := none
    initSeqVal := 0
    lastSenderSeqVal := none
    earlyMediaMode := false
    holdKeepaliveMode := false
    wire := [] }

/-- What the reserved ports allow is `opens`; without them an exception is thrown. -/
def ensureSocketPairLocked (session : AudioRtpSession σ β) (opens : Bool) :
    Option (AudioRtpSession σ β) :=
  if session.socketPair then some session
  else if opens then some { session with socketPair := true }
  else none

def audioSender (mtu seqVal timestamp : Nat) (wire : List (Packet β)) : Encoder σ β :=
  ((Encoder.create mtu timestamp).setInitSeqVal seqVal).setIOContext wire

def makeSender (session : AudioRtpSession σ β) (timestamp : Nat) : AudioRtpSession σ β :=
  { session with
    sender := some (audioSender session.mtu session.initSeqVal timestamp session.wire) }

def continueFromLast (session : AudioRtpSession σ β) : AudioRtpSession σ β :=
  match session.lastSenderSeqVal with
  | some last => { session with initSeqVal := (last + 1) % 65536 }
  | none => session

def continueSequence (session : AudioRtpSession σ β) : AudioRtpSession σ β :=
  match session.sender with
  | some sender => { session with initSeqVal := (sender.getLastSeqValue + 1) % 65536 }
  | none => session.continueFromLast

def ensureEarlySenderLocked (session : AudioRtpSession σ β) (timestamp : Nat) :
    AudioRtpSession σ β :=
  if session.send.enabled = false ∨ session.send.onHold = true ∨ session.socketPair = false then
    session
  else session.continueSequence.makeSender timestamp

def startSender (session : AudioRtpSession σ β) (ready : Bool) (timestamp : Nat) :
    AudioRtpSession σ β :=
  if session.send.enabled = false ∨ session.send.onHold = true then
    { session with sender := none }
  else if ready = false then session
  -- no caller comes here without a socket pair
  else if session.socketPair = false then session
  else session.continueSequence.makeSender timestamp

def stop (session : AudioRtpSession σ β) : AudioRtpSession σ β :=
  { session with
    earlyMediaMode := false
    holdKeepaliveMode := false
    lastSenderSeqVal :=
      match session.sender with
      | some sender => some sender.getLastSeqValue
      | none => session.lastSenderSeqVal
    sender := none
    socketPair := false }

def start (session : AudioRtpSession σ β) (opens ready : Bool) (timestamp : Nat) :
    AudioRtpSession σ β :=
  if session.send.enabled = false ∧ session.receiveEnabled = false then session.stop
  else
    let active := { session with earlyMediaMode := false, holdKeepaliveMode := false }
    match active.ensureSocketPairLocked opens with
    | none => active
    | some connected => connected.startSender ready timestamp

def restartSender (session : AudioRtpSession σ β) (ready : Bool) (timestamp : Nat) :
    AudioRtpSession σ β :=
  if session.socketPair = false then session else session.startSender ready timestamp

def startEarlyMedia (session : AudioRtpSession σ β) (opens : Bool) (timestamp : Nat) :
    AudioRtpSession σ β :=
  if session.send.enabled = false ∧ session.receiveEnabled = false then session.stop
  else
    match session.ensureSocketPairLocked opens with
    | none => session
    | some connected =>
      { connected with earlyMediaMode := true }.ensureEarlySenderLocked timestamp

def stopEarlyMedia (session : AudioRtpSession σ β) : AudioRtpSession σ β :=
  { session with earlyMediaMode := false }

def promoteEarlyMediaToActive (session : AudioRtpSession σ β) (ready : Bool) (timestamp : Nat) :
    AudioRtpSession σ β :=
  if session.earlyMediaMode = false then session
  else { session with earlyMediaMode := false }.startSender ready timestamp

def startHoldKeepalive (session : AudioRtpSession σ β) (opens : Bool) (timestamp : Nat) :
    AudioRtpSession σ β :=
  if session.send.enabled = false then session
  else
    match session.ensureSocketPairLocked opens with
    | none => session
    | some connected =>
      let kept := { connected with holdKeepaliveMode := true }
      match kept.sender with
      | some _ => kept
      | none => kept.continueFromLast.makeSender timestamp

def stopHoldKeepalive (session : AudioRtpSession σ β) (restart opens ready : Bool)
    (timestamp : Nat) : AudioRtpSession σ β :=
  let active := { session with holdKeepaliveMode := false }
  if restart = true ∧ session.send.enabled = true ∧ session.send.onHold = false then
    match active.ensureSocketPairLocked opens with
    | none => active
    | some connected => connected.startSender ready timestamp
  else active

def updateMedia (session : AudioRtpSession σ β) (send : SendDescription) (receiveEnabled : Bool) :
    AudioRtpSession σ β :=
  { session with send := send, receiveEnabled := receiveEnabled }

def setMtu (session : AudioRtpSession σ β) (mtu : Nat) : AudioRtpSession σ β :=
  { session with mtu := mtu }

def withEncoder (session : AudioRtpSession σ β) (work : Encoder σ β → Encoder σ β) :
    AudioRtpSession σ β :=
  match session.sender with
  | some sender => { session with sender := some (work sender), wire := (work sender).sent }
  | none => session

inductive Operation (σ β : Type) where
  | encodeAudio (outputs : Nat → List β) (frame : PcmFrame σ)
  | sendBuffer (event : List β) (samples : Nat) (marker newTimestamp : Bool)
  | ensureEarlySenderLocked (timestamp : Nat)
  | startSender (ready : Bool) (timestamp : Nat)
  | stop
  | start (opens ready : Bool) (timestamp : Nat)
  | restartSender (ready : Bool) (timestamp : Nat)
  | startEarlyMedia (opens : Bool) (timestamp : Nat)
  | stopEarlyMedia
  | promoteEarlyMediaToActive (ready : Bool) (timestamp : Nat)
  | startHoldKeepalive (opens : Bool) (timestamp : Nat)
  | stopHoldKeepalive (restart opens ready : Bool) (timestamp : Nat)
  | updateMedia (send : SendDescription) (receiveEnabled : Bool)
  | setMtu (mtu : Nat)

def step (session : AudioRtpSession σ β) : Operation σ β → AudioRtpSession σ β
  | .encodeAudio outputs frame =>
    session.withEncoder (fun encoder => (encoder.encodeAudio outputs frame).2)
  | .sendBuffer event samples marker newTimestamp =>
    session.withEncoder (fun encoder =>
      (encoder.sendBuffer event samples marker newTimestamp).2)
  | .ensureEarlySenderLocked timestamp => session.ensureEarlySenderLocked timestamp
  | .startSender ready timestamp => session.startSender ready timestamp
  | .stop => session.stop
  | .start opens ready timestamp => session.start opens ready timestamp
  | .restartSender ready timestamp => session.restartSender ready timestamp
  | .startEarlyMedia opens timestamp => session.startEarlyMedia opens timestamp
  | .stopEarlyMedia => session.stopEarlyMedia
  | .promoteEarlyMediaToActive ready timestamp =>
    session.promoteEarlyMediaToActive ready timestamp
  | .startHoldKeepalive opens timestamp => session.startHoldKeepalive opens timestamp
  | .stopHoldKeepalive restart opens ready timestamp =>
    session.stopHoldKeepalive restart opens ready timestamp
  | .updateMedia send receiveEnabled => session.updateMedia send receiveEnabled
  | .setMtu mtu => session.setMtu mtu

def Next (earlier later : Packet β) : Prop := later.seq = (earlier.seq + 1) % 65536

instance : DecidableRel (Next : Packet β → Packet β → Prop) :=
  fun earlier later => inferInstanceAs (Decidable (later.seq = (earlier.seq + 1) % 65536))

/-- The packets are numbered without gaps, and the next number is at hand. -/
structure Numbered (encoder : Encoder σ β) : Prop where
  connected : encoder.connected = true
  chain : encoder.sent.IsChain Next
  next : ∀ last ∈ encoder.sent.getLast?, encoder.seqVal = (last.seq + 1) % 65536

theorem Numbered.same {encoder after : Encoder σ β} (numbered : Numbered encoder)
    (connected : after.connected = encoder.connected) (sent : after.sent = encoder.sent)
    (seqVal : after.seqVal = encoder.seqVal) : Numbered after := by
  constructor
  · rw [connected]
    exact numbered.connected
  · rw [sent]
    exact numbered.chain
  · rw [sent, seqVal]
    exact numbered.next

theorem Numbered.append {encoder after : Encoder σ β} (numbered : Numbered encoder)
    {packet : Packet β} (connected : after.connected = encoder.connected)
    (sent : after.sent = encoder.sent ++ [packet]) (seq : packet.seq = encoder.seqVal)
    (seqVal : after.seqVal = (encoder.seqVal + 1) % 65536) : Numbered after := by
  constructor
  · rw [connected]
    exact numbered.connected
  · rw [sent, List.isChain_append]
    refine ⟨numbered.chain, List.isChain_singleton packet, ?_⟩
    intro last isLast first isFirst
    cases isFirst
    exact seq.trans (numbered.next last isLast)
  · intro last isLast
    rw [sent, List.getLast?_concat] at isLast
    cases isLast
    rw [seqVal, seq]

section

variable {encoder : Encoder σ β} (numbered : Numbered encoder)
include numbered

theorem Numbered.finishPacket (payload : List β) : Numbered (encoder.finishPacket payload) :=
  numbered.append (Encoder.finishPacket_sameCalls encoder payload).connected
    (Encoder.finishPacket_sent numbered.connected payload) rfl rfl

theorem Numbered.addOutput (output : List β) : Numbered (encoder.addOutput output) := by
  unfold Encoder.addOutput
  split
  · exact numbered.finishPacket []
  · split
    · exact numbered
    · split
      · apply Numbered.finishPacket
        exact numbered.same rfl rfl rfl
      · exact numbered.same rfl rfl rfl

theorem Numbered.encodePacket (outputs : Nat → List β) (packet : List σ) :
    Numbered (Encoder.encodePacket outputs encoder packet) := by
  apply Numbered.addOutput
  exact numbered.same rfl rfl rfl

theorem Numbered.encodeAudio (outputs : Nat → List β) (frame : PcmFrame σ) :
    Numbered (encoder.encodeAudio outputs frame).2 := by
  unfold Encoder.encodeAudio
  split
  · exact Encoder.encode_keeps Numbered
      (fun _ packet holds => holds.encodePacket outputs packet)
      (fun _ _ holds => holds.same rfl rfl rfl) _ numbered _
  · exact numbered

theorem Numbered.sendBuffer (event : List β) (samples : Nat) (marker newTimestamp : Bool) :
    Numbered (encoder.sendBuffer event samples marker newTimestamp).2 := by
  unfold Encoder.sendBuffer
  split
  · exact numbered
  · exact numbered.append rfl rfl rfl rfl

end

theorem ensureSocketPairLocked_eq {session connected : AudioRtpSession σ β} {opens : Bool}
    (ensured : session.ensureSocketPairLocked opens = some connected) :
    connected = { session with socketPair := true } ∧ (session.socketPair || opens) = true := by
  unfold ensureSocketPairLocked at ensured
  split at ensured
  · rename_i present
    cases ensured
    rw [present]
    refine ⟨?_, rfl⟩
    cases session
    cases present
    rfl
  · split at ensured
    · rename_i opened
      cases ensured
      rw [opened, Bool.or_true]
      exact ⟨rfl, rfl⟩
    · cases ensured

section

variable (session : AudioRtpSession σ β)

private theorem start_cases (opens ready : Bool) (timestamp : Nat) :
    session.start opens ready timestamp = session.stop ∨
    session.start opens ready timestamp =
      { session with earlyMediaMode := false, holdKeepaliveMode := false } ∨
    (session.socketPair || opens) = true ∧
      session.start opens ready timestamp =
        startSender
          { session with earlyMediaMode := false, holdKeepaliveMode := false, socketPair := true }
          ready timestamp := by
  unfold start
  split
  · exact .inl rfl
  · simp only
    split
    · exact .inr (.inl rfl)
    · rename_i connected ensured
      obtain ⟨same, possible⟩ := ensureSocketPairLocked_eq ensured
      subst same
      exact .inr (.inr ⟨possible, rfl⟩)

private theorem startEarlyMedia_cases (opens : Bool) (timestamp : Nat) :
    session.startEarlyMedia opens timestamp = session.stop ∨
    session.startEarlyMedia opens timestamp = session ∨
    (session.socketPair || opens) = true ∧
      session.startEarlyMedia opens timestamp =
        ensureEarlySenderLocked { session with earlyMediaMode := true, socketPair := true }
          timestamp := by
  unfold startEarlyMedia
  split
  · exact .inl rfl
  · split
    · exact .inr (.inl rfl)
    · rename_i connected ensured
      obtain ⟨same, possible⟩ := ensureSocketPairLocked_eq ensured
      subst same
      exact .inr (.inr ⟨possible, rfl⟩)

private theorem startHoldKeepalive_cases (opens : Bool) (timestamp : Nat) :
    session.startHoldKeepalive opens timestamp = session ∨
    session.startHoldKeepalive opens timestamp =
      { session with holdKeepaliveMode := true, socketPair := true } ∨
    (session.send.enabled && (session.socketPair || opens) && session.sender.isNone) = true ∧
      session.startHoldKeepalive opens timestamp =
        (continueFromLast
          { session with holdKeepaliveMode := true, socketPair := true }).makeSender timestamp := by
  unfold startHoldKeepalive
  split
  · exact .inl rfl
  · rename_i enabled
    split
    · exact .inl rfl
    · rename_i connected ensured
      obtain ⟨same, possible⟩ := ensureSocketPairLocked_eq ensured
      subst same
      simp only
      split
      · exact .inr (.inl rfl)
      · rename_i gone
        refine .inr (.inr ⟨?_, rfl⟩)
        rw [possible, eq_true_of_ne_false enabled, gone]
        rfl

private theorem stopHoldKeepalive_cases (restart opens ready : Bool) (timestamp : Nat) :
    session.stopHoldKeepalive restart opens ready timestamp =
      { session with holdKeepaliveMode := false } ∨
    (restart && (session.socketPair || opens)) = true ∧
      session.stopHoldKeepalive restart opens ready timestamp =
        startSender { session with holdKeepaliveMode := false, socketPair := true }
          ready timestamp := by
  unfold stopHoldKeepalive
  simp only
  split
  · rename_i wanted
    split
    · exact .inl rfl
    · rename_i connected ensured
      obtain ⟨same, possible⟩ := ensureSocketPairLocked_eq ensured
      subst same
      exact .inr ⟨by rw [wanted.1]; exact possible, rfl⟩
  · exact .inl rfl

end

def willSend (session : AudioRtpSession σ β) : Bool :=
  session.send.enabled && !session.send.onHold

def constructsSender (session : AudioRtpSession σ β) : Operation σ β → Bool
  | .ensureEarlySenderLocked _ => session.willSend && session.socketPair
  | .startSender ready _ => session.willSend && ready && session.socketPair
  | .start opens ready _ => session.willSend && ready && (session.socketPair || opens)
  | .restartSender ready _ => session.willSend && ready && session.socketPair
  | .startEarlyMedia opens _ => session.willSend && (session.socketPair || opens)
  | .promoteEarlyMediaToActive ready _ =>
    session.earlyMediaMode && (session.willSend && ready && session.socketPair)
  | .startHoldKeepalive opens _ =>
    session.send.enabled && (session.socketPair || opens) && session.sender.isNone
  | .stopHoldKeepalive restart opens ready _ =>
    restart && (session.willSend && ready && (session.socketPair || opens))
  | _ => false

/-- All that an operation can do to the sender and to the wire. -/
inductive Change (session after : AudioRtpSession σ β) (constructs : Bool) : Prop
  | keeps (wire : after.wire = session.wire) (sender : after.sender = session.sender)
  | drops (wire : after.wire = session.wire) (sender : after.sender = none)
  | makes (allowed : constructs = true) (wire : after.wire = session.wire)
      (mtu seqVal timestamp : Nat)
      (sender : after.sender = some (audioSender mtu seqVal timestamp session.wire))
  | works (work : Encoder σ β → Encoder σ β)
      (numbers : ∀ encoder, Numbered encoder → Numbered (work encoder))
      (encoder : Encoder σ β) (live : session.sender = some encoder)
      (wire : after.wire = (work encoder).sent) (sender : after.sender = some (work encoder))

theorem Change.of_same {session earlier after : AudioRtpSession σ β} {constructs : Bool}
    (change : Change earlier after constructs) (wire : earlier.wire = session.wire)
    (sender : earlier.sender = session.sender) : Change session after constructs := by
  cases change with
  | keeps sameWire sameSender => exact .keeps (sameWire.trans wire) (sameSender.trans sender)
  | drops sameWire gone => exact .drops (sameWire.trans wire) gone
  | makes allowed sameWire mtu seqVal timestamp made =>
    exact .makes allowed (sameWire.trans wire) mtu seqVal timestamp (wire ▸ made)
  | works work numbers encoder live sent made =>
    exact .works work numbers encoder (sender.symm.trans live) sent made

theorem withEncoder_change (session : AudioRtpSession σ β) {work : Encoder σ β → Encoder σ β}
    (numbers : ∀ encoder, Numbered encoder → Numbered (work encoder)) :
    Change session (session.withEncoder work) false := by
  unfold withEncoder
  split
  · rename_i encoder live
    exact .works work numbers encoder live rfl rfl
  · exact .keeps rfl rfl

theorem continueFromLast_wire (session : AudioRtpSession σ β) :
    session.continueFromLast.wire = session.wire := by
  unfold continueFromLast
  split <;> rfl

theorem continueSequence_wire (session : AudioRtpSession σ β) :
    session.continueSequence.wire = session.wire := by
  unfold continueSequence
  split
  · rfl
  · exact continueFromLast_wire session

theorem makeSender_change {session ready : AudioRtpSession σ β}
    (wire : ready.wire = session.wire) (timestamp : Nat) {constructs : Bool}
    (allowed : constructs = true) : Change session (ready.makeSender timestamp) constructs :=
  .makes allowed wire ready.mtu ready.initSeqVal timestamp (by rw [← wire]; rfl)

section

variable (session : AudioRtpSession σ β)

theorem ensureEarlySenderLocked_change (timestamp : Nat) :
    Change session (session.ensureEarlySenderLocked timestamp)
      (session.willSend && session.socketPair) := by
  unfold ensureEarlySenderLocked
  split
  · exact .keeps rfl rfl
  · apply makeSender_change session.continueSequence_wire
    unfold willSend
    grind

theorem startSender_change (ready : Bool) (timestamp : Nat) :
    Change session (session.startSender ready timestamp)
      (session.willSend && ready && session.socketPair) := by
  unfold startSender
  split
  · exact .drops rfl rfl
  · split
    · exact .keeps rfl rfl
    · split
      · exact .keeps rfl rfl
      · apply makeSender_change session.continueSequence_wire
        unfold willSend
        grind

theorem stop_change (constructs : Bool) : Change session session.stop constructs :=
  .drops rfl rfl

private theorem start_change (opens ready : Bool) (timestamp : Nat) :
    Change session (session.start opens ready timestamp)
      (session.willSend && ready && (session.socketPair || opens)) := by
  rcases start_cases session opens ready timestamp with stopped | failed | ⟨possible, started⟩
  · rw [stopped]
    exact stop_change session _
  · rw [failed]
    exact .keeps rfl rfl
  · rw [started, possible]
    exact (startSender_change _ ready timestamp).of_same rfl rfl

private theorem startEarlyMedia_change (opens : Bool) (timestamp : Nat) :
    Change session (session.startEarlyMedia opens timestamp)
      (session.willSend && (session.socketPair || opens)) := by
  rcases startEarlyMedia_cases session opens timestamp with stopped | failed | ⟨possible, started⟩
  · rw [stopped]
    exact stop_change session _
  · rw [failed]
    exact .keeps rfl rfl
  · rw [started, possible]
    exact (ensureEarlySenderLocked_change _ timestamp).of_same rfl rfl

private theorem startHoldKeepalive_change (opens : Bool) (timestamp : Nat) :
    Change session (session.startHoldKeepalive opens timestamp)
      (session.send.enabled && (session.socketPair || opens) && session.sender.isNone) := by
  rcases startHoldKeepalive_cases session opens timestamp with same | kept | ⟨allowed, made⟩
  · rw [same]
    exact .keeps rfl rfl
  · rw [kept]
    exact .keeps rfl rfl
  · rw [made]
    exact makeSender_change (by rw [continueFromLast_wire]) timestamp allowed

private theorem stopHoldKeepalive_change (restart opens ready : Bool) (timestamp : Nat) :
    Change session (session.stopHoldKeepalive restart opens ready timestamp)
      (restart && (session.willSend && ready && (session.socketPair || opens))) := by
  rcases stopHoldKeepalive_cases session restart opens ready timestamp with
    stopped | ⟨possible, restarted⟩
  · rw [stopped]
    exact .keeps rfl rfl
  · obtain ⟨wanted, opened⟩ := Bool.and_eq_true_iff.mp possible
    rw [restarted, wanted, opened]
    exact (startSender_change _ ready timestamp).of_same rfl rfl

private theorem step_change (operation : Operation σ β) :
    Change session (session.step operation) (session.constructsSender operation) := by
  cases operation with
  | encodeAudio outputs frame =>
    exact withEncoder_change session (fun _ numbered => numbered.encodeAudio outputs frame)
  | sendBuffer event samples marker newTimestamp =>
    exact withEncoder_change session
      (fun _ numbered => numbered.sendBuffer event samples marker newTimestamp)
  | ensureEarlySenderLocked timestamp => exact ensureEarlySenderLocked_change session timestamp
  | startSender ready timestamp => exact startSender_change session ready timestamp
  | stop => exact stop_change session _
  | start opens ready timestamp => exact start_change session opens ready timestamp
  | restartSender ready timestamp =>
    change Change session (session.restartSender ready timestamp) _
    unfold restartSender
    split
    · exact .keeps rfl rfl
    · exact startSender_change session ready timestamp
  | startEarlyMedia opens timestamp => exact startEarlyMedia_change session opens timestamp
  | stopEarlyMedia => exact .keeps rfl rfl
  | promoteEarlyMediaToActive ready timestamp =>
    change Change session (session.promoteEarlyMediaToActive ready timestamp)
      (session.earlyMediaMode && (session.willSend && ready && session.socketPair))
    unfold promoteEarlyMediaToActive
    split
    · exact .keeps rfl rfl
    · rename_i early
      rw [eq_true_of_ne_false early]
      exact (startSender_change _ ready timestamp).of_same rfl rfl
  | startHoldKeepalive opens timestamp =>
    exact startHoldKeepalive_change session opens timestamp
  | stopHoldKeepalive restart opens ready timestamp =>
    exact stopHoldKeepalive_change session restart opens ready timestamp
  | updateMedia send receiveEnabled => exact .keeps rfl rfl
  | setMtu mtu => exact .keeps rfl rfl

end

/-! ### The numbers on the wire -/

/-- The wire has no gap, and a sender would go on without one. -/
structure InSequence (session : AudioRtpSession σ β) : Prop where
  chain : session.wire.IsChain Next
  live : ∀ sender, session.sender = some sender → Numbered sender ∧ sender.sent = session.wire

def MakesFirstSender (session : AudioRtpSession σ β) (operation : Operation σ β) : Prop :=
  session.wire = [] ∨ session.constructsSender operation = false

instance (session : AudioRtpSession σ β) (operation : Operation σ β) :
    Decidable (MakesFirstSender session operation) :=
  inferInstanceAs (Decidable (session.wire = [] ∨ session.constructsSender operation = false))

theorem InSequence.step {session : AudioRtpSession σ β} (inSequence : InSequence session)
    {operation : Operation σ β} (first : MakesFirstSender session operation) :
    InSequence (session.step operation) := by
  cases step_change session operation with
  | keeps wire sender =>
    constructor
    · rw [wire]
      exact inSequence.chain
    · rw [wire, sender]
      exact inSequence.live
  | drops wire gone =>
    constructor
    · rw [wire]
      exact inSequence.chain
    · intro sender live
      rw [gone] at live
      cases live
  | makes allowed wire mtu seqVal timestamp made =>
    have empty : session.wire = [] := first.resolve_right (by rw [allowed]; exact Bool.noConfusion)
    rw [empty] at wire made
    constructor
    · rw [wire]
      exact List.isChain_nil
    · intro sender live
      rw [made] at live
      cases live
      rw [wire]
      exact ⟨⟨rfl, List.isChain_nil, nofun⟩, rfl⟩
  | works work numbers encoder live wire made =>
    have numbered := numbers encoder (inSequence.live encoder live).1
    constructor
    · rw [wire]
      exact numbered.chain
    · intro sender present
      rw [made] at present
      cases present
      rw [wire]
      exact ⟨numbered, rfl⟩

/-- A sender that takes over, from a live one or after a stop, leaves out a number. -/
theorem InSequence.takeover_skips {session : AudioRtpSession σ β}
    (inSequence : InSequence session) {sender : Encoder σ β}
    (live : session.sender = some sender) {last : Packet β}
    (isLast : last ∈ session.wire.getLast?) :
    session.continueSequence.initSeqVal = (last.seq + 2) % 65536 ∧
      session.stop.continueSequence.initSeqVal = (last.seq + 2) % 65536 := by
  obtain ⟨numbered, sent⟩ := inSequence.live sender live
  have reported : (sender.getLastSeqValue + 1) % 65536 = (last.seq + 2) % 65536 := by
    unfold Encoder.getLastSeqValue
    rw [numbered.next last (sent ▸ isLast), Nat.mod_add_mod]
  constructor
  · unfold continueSequence
    rw [live]
    exact reported
  · unfold continueSequence continueFromLast stop
    rw [live]
    exact reported

/-- In every run that makes its sender before the first packet, each packet on
the wire has the number after the one before. -/
theorem wire_numbers_consecutive (mtu : Nat) {operations : List (Operation σ β)}
    (guarded : Run.Guarded step MakesFirstSender (create mtu) operations) :
    Run.Always step (fun session : AudioRtpSession σ β => session.wire.IsChain Next)
      (create mtu) operations := by
  have initially : InSequence (create mtu : AudioRtpSession σ β) :=
    ⟨List.isChain_nil, nofun⟩
  have preserved : ∀ (session : AudioRtpSession σ β) operation, InSequence session →
      MakesFirstSender session operation → InSequence (session.step operation) :=
    fun _ _ inSequence first => inSequence.step first
  exact (Run.always_of_guarded preserved initially guarded).imp
    (fun _ inSequence => inSequence.chain)

def oneBlock : PcmFrame Nat := ⟨⟨true, 8000, 1⟩, List.replicate 80 0⟩

def noise : Nat → List Nat := fun _ => [0, 0]

theorem one_sender_consecutive :
    Run.Always step (fun session : AudioRtpSession Nat Nat => session.wire.IsChain Next)
      (create 1200)
      [.updateMedia ⟨true, false⟩ true, .startEarlyMedia true 0,
        .promoteEarlyMediaToActive true 0, .encodeAudio noise oneBlock,
        .sendBuffer [1, 10, 0, 160] 160 true true, .startHoldKeepalive true 0,
        .encodeAudio noise oneBlock, .stop] :=
  wire_numbers_consecutive 1200 (by decide +kernel)

/-- A packet, a restart of the sender, a packet: the number 1 is left out. -/
theorem restart_leaves_gap :
    ¬Run.Always step (fun session : AudioRtpSession Nat Nat => session.wire.IsChain Next)
      (create 1200)
      [.updateMedia ⟨true, false⟩ true, .start true true 0, .encodeAudio noise oneBlock,
        .restartSender true 0, .encodeAudio noise oneBlock] := by
  decide +kernel

end AudioRtpSession

end SipCore
