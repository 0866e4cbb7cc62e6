/-
Who closes the sockets of a media stream. A reservation opens two sockets and is moved
about, into a session and from there into the socket pair of a running stream, and
perhaps back. The system gives out any number that is not in use, and refuses to close
one that is not in use; its other answers are arbitrary.
-/

import SipCore.Library.Custody
import SipCore.Library.GuardedRun
import SipCore.Media.SocketReservation

namespace SipCore.SocketOwnership

open Rtp (AddressFamily)

abbrev Kernel := Ledger Int

inductive Answer where
  | refused
  | unusable (descriptor : Nat)
  | given (descriptor : Nat)
  deriving DecidableEq, Repr

def createNonblockingUdpSocket (answer : Answer) (kernel : Kernel) : Int × Kernel :=
  match answer with
  | .refused => (-1, kernel)
  | .unusable descriptor =>
    if kernel.isOut descriptor then (-1, kernel)
    else (-1, (kernel.issue descriptor).giveBack descriptor)
  | .given descriptor =>
    if kernel.isOut descriptor then (-1, kernel)
    else (descriptor, kernel.issue descriptor)

/-- The handle is a reference: it is `-1` afterwards. -/
def closeSocketHandle (handle : Int) (kernel : Kernel) : Int × Kernel :=
  if handle ≥ 0 then (-1, kernel.giveBack handle) else (handle, kernel)

structure ReservedSocketPair where
  family : AddressFamily := .unspec
  rtpHandle : Int := -1
  rtcpHandle : Int := -1
  rtpPort : Nat := 0
  rtcpPort : Nat := 0
  deriving DecidableEq, Repr

structure Moved where
  target : ReservedSocketPair
  source : ReservedSocketPair
  kernel : Kernel
  deriving DecidableEq, Repr

namespace ReservedSocketPair

variable (pair : ReservedSocketPair)

def valid : Bool :=
  (pair.family = .inet || pair.family = .inet6) && pair.rtpHandle ≥ 0 && pair.rtcpHandle ≥ 0 &&
    pair.rtpPort ≠ 0 && pair.rtcpPort ≠ 0

def reset (kernel : Kernel) : ReservedSocketPair × Kernel :=
  let rtp := closeSocketHandle pair.rtpHandle kernel
  let rtcp := closeSocketHandle pair.rtcpHandle rtp.2
  ({ family := .unspec, rtpHandle := rtp.1, rtcpHandle := rtcp.1, rtpPort := 0, rtcpPort := 0 },
    rtcp.2)

def destroy (kernel : Kernel) : Kernel := (pair.reset kernel).2

def moveAssign (other : ReservedSocketPair) (kernel : Kernel) : Moved :=
  { target :=
      { (pair.reset kernel).1 with
        family := other.family
        rtpHandle := other.rtpHandle
        rtcpHandle := other.rtcpHandle
        rtpPort := other.rtpPort
        rtcpPort := other.rtcpPort }
    source :=
      { other with family := .unspec, rtpHandle := -1, rtcpHandle := -1, rtpPort := 0, rtcpPort := 0 }
    kernel := (pair.reset kernel).2 }

def moveConstruct (kernel : Kernel) : Moved := moveAssign {} pair kernel

def releaseRtpHandle : Int × ReservedSocketPair := (pair.rtpHandle, { pair with rtpHandle := -1 })

def releaseRtcpHandle : Int × ReservedSocketPair :=
  (pair.rtcpHandle, { pair with rtcpHandle := -1 })

end ReservedSocketPair

structure Attempt where
  rtpSocket : Answer
  rtpBinds : Bool
  rtcpSocket : Answer
  rtcpBinds : Bool
  deriving DecidableEq, Repr

def tryPair (attempt : Attempt) (family : AddressFamily) (rtpPort rtcpPort : Nat)
    (kernel : Kernel) : Except String (Option ReservedSocketPair) × Kernel :=
  let rtp := createNonblockingUdpSocket attempt.rtpSocket kernel
  if rtp.1 < 0 then (.error "Failed to create RTP socket", rtp.2)
  else if attempt.rtpBinds = false then (.ok none, (closeSocketHandle rtp.1 rtp.2).2)
  else
    let rtcp := createNonblockingUdpSocket attempt.rtcpSocket rtp.2
    if rtcp.1 < 0 then (.error "Failed to create RTCP socket", (closeSocketHandle rtp.1 rtcp.2).2)
    else if attempt.rtcpBinds = false then
      (.ok none, (closeSocketHandle rtcp.1 (closeSocketHandle rtp.1 rtcp.2).2).2)
    else (.ok (some ⟨family, rtp.1, rtcp.1, rtpPort, rtcpPort⟩), rtcp.2)

def tryPairs (attempts : Nat → Attempt) (family : AddressFamily) (exhausted : String) :
    List Nat → Kernel → Except String ReservedSocketPair × Kernel
  | [], kernel => (.error exhausted, kernel)
  | rtpPort :: later, kernel =>
    match tryPair (attempts rtpPort) family rtpPort ((rtpPort + 1) % 65536) kernel with
    | (.error failure, failed) => (.error failure, failed)
    | (.ok none, rejected) => tryPairs attempts family exhausted later rejected
    | (.ok (some pair), reserved) => (.ok pair, reserved)

def reserveSocketPairInRange (attempts : Nat → Attempt) (startIndex : Nat)
    (family : AddressFamily) (range : UInt16 × UInt16) (mediaKind : String) (kernel : Kernel) :
    Except String ReservedSocketPair × Kernel :=
  if family ≠ .inet ∧ family ≠ .inet6 then (.error "Unsupported RTP socket family", kernel)
  else if range.1 = 0 ∨ range.2 ≤ range.1 then (.error "Invalid RTP port range", kernel)
  else if Rtp.firstCandidate range > Rtp.lastCandidate range then
    (.error (Rtp.noFreePair mediaKind range), kernel)
  else
    tryPairs attempts family (Rtp.noFreePair mediaKind range) (Rtp.candidates range startIndex)
      kernel

structure SocketPair where
  rtpHandle : Int := -1
  rtcpHandle : Int := -1
  localFamily : AddressFamily := .unspec
  localRtpPort : Nat := 0
  localRtcpPort : Nat := 0
  deriving DecidableEq, Repr

namespace SocketPair

/-- The constructor: the new pair and what is left of the reservation. The destination is
the address family of the remote host. -/
def openSockets (destination : AddressFamily) (reserved : ReservedSocketPair) :
    Except String (SocketPair × ReservedSocketPair) :=
  if reserved.valid = false then .error "Reserved socket pair is invalid"
  else if destination ≠ reserved.family then .error "Reserved socket family mismatch"
  else
    let rtp := reserved.releaseRtpHandle
    let rtcp := rtp.2.releaseRtcpHandle
    .ok (
      { rtpHandle := rtp.1
        rtcpHandle := rtcp.1
        localFamily := reserved.family
        localRtpPort := reserved.rtpPort
        localRtcpPort := reserved.rtcpPort },
      rtcp.2)

variable (pair : SocketPair)

def closeSockets (kernel : Kernel) : SocketPair × Kernel :=
  let rtcp := closeSocketHandle pair.rtcpHandle kernel
  let rtp := closeSocketHandle pair.rtpHandle rtcp.2
  ({ rtpHandle := rtp.1
     rtcpHandle := rtcp.1
     localFamily := .unspec
     localRtpPort := 0
     localRtcpPort := 0 },
    rtp.2)

def destroy (kernel : Kernel) : Kernel := (pair.closeSockets kernel).2

def releaseLocalReservation : ReservedSocketPair × SocketPair :=
  if (pair.localFamily ≠ .inet ∧ pair.localFamily ≠ .inet6) ∨ pair.rtpHandle < 0 ∨
      pair.rtcpHandle < 0 ∨ pair.localRtpPort = 0 ∨ pair.localRtcpPort = 0 then
    ({}, pair)
  else
    (⟨pair.localFamily, pair.rtpHandle, pair.rtcpHandle, pair.localRtpPort, pair.localRtcpPort⟩,
      { rtpHandle := -1
        rtcpHandle := -1
        localFamily := .unspec
        localRtpPort := 0
        localRtcpPort := 0 })

end SocketPair

structure RtpSession where
  socketPair : Option SocketPair := none
  reservedSocketPair : Option ReservedSocketPair := none
  sendEnabled : Bool := false
  receiveEnabled : Bool := false
  deriving DecidableEq, Repr

def destroyReserved : Option ReservedSocketPair → Kernel → Kernel
  | none, kernel => kernel
  | some pair, kernel => pair.destroy kernel

def destroySocketPair : Option SocketPair → Kernel → Kernel
  | none, kernel => kernel
  | some pair, kernel => pair.destroy kernel

namespace RtpSession

variable (session : RtpSession)

/-- The old reservation is destroyed before the new one is moved in. Returned are the
session and what is left of the reservation. -/
def setReservedSocketPair (reserved : ReservedSocketPair) (kernel : Kernel) :
    (RtpSession × ReservedSocketPair) × Kernel :=
  let moved := reserved.moveConstruct (destroyReserved session.reservedSocketPair kernel)
  (({ session with reservedSocketPair := some moved.target }, moved.source), moved.kernel)

def takeReservedSocketPair (kernel : Kernel) :
    Except String (ReservedSocketPair × RtpSession) × Kernel :=
  match session.reservedSocketPair with
  | none => (.error "Missing reserved socket pair", kernel)
  | some stored =>
    let moved := stored.moveConstruct kernel
    (.ok (moved.target, { session with reservedSocketPair := none }),
      moved.source.destroy moved.kernel)

def preserveCurrentSocketPairReservationIfNeeded (kernel : Kernel) : RtpSession × Kernel :=
  match session.reservedSocketPair, session.socketPair with
  | none, some pair =>
    if session.sendEnabled = false ∧ session.receiveEnabled = false then (session, kernel)
    else
      let released := pair.releaseLocalReservation
      let emptied := { session with socketPair := some released.2 }
      if released.1.valid then
        let stored := emptied.setReservedSocketPair released.1 kernel
        (stored.1.1, stored.1.2.destroy stored.2)
      else (emptied, released.1.destroy kernel)
  | _, _ => (session, kernel)

/-- A new pair is made of the reservation, in place of the one there. The reservation is a
temporary: it is destroyed in any case. -/
def openSocketPair (destination : AddressFamily) (kernel : Kernel) :
    Except String Unit × RtpSession × Kernel :=
  match session.takeReservedSocketPair kernel with
  | (.error failure, unchanged) => (.error failure, session, unchanged)
  | (.ok (reserved, taken), moved) =>
    match SocketPair.openSockets destination reserved with
    | .error failure => (.error failure, taken, reserved.destroy moved)
    | .ok (pair, used) =>
      (.ok (), { taken with socketPair := some pair },
        used.destroy (destroySocketPair taken.socketPair moved))

def dropSocketPair (kernel : Kernel) : RtpSession × Kernel :=
  ({ session with socketPair := none }, destroySocketPair session.socketPair kernel)

/-- The members are destroyed in the reverse of their order. -/
def destroy (kernel : Kernel) : Kernel :=
  destroySocketPair session.socketPair (destroyReserved session.reservedSocketPair kernel)

end RtpSession

inductive Object where
  | reserved (pair : ReservedSocketPair)
  | socketPair (pair : SocketPair)
  | session (session : RtpSession)
  deriving DecidableEq, Repr

def Object.destroy : Object → Kernel → Kernel
  | .reserved pair, kernel => pair.destroy kernel
  | .socketPair pair, kernel => pair.destroy kernel
  | .session current, kernel => current.destroy kernel

/-- What is constructed gets a name that is not in use. -/
inductive Call where
  | reserve (target : Nat) (attempts : Nat → Attempt) (startIndex : Nat) (family : AddressFamily)
      (range : UInt16 × UInt16) (mediaKind : String)
  | moveConstruct (target source : Nat)
  | moveAssign (target source : Nat)
  | reset (target : Nat)
  | constructSocketPair (target source : Nat) (destination : AddressFamily)
  | releaseLocalReservation (target source : Nat)
  | constructSession (target : Nat)
  | updateMedia (session : Nat) (send receive : Bool)
  | setReservedSocketPair (session source : Nat)
  | takeReservedSocketPair (target session : Nat)
  | preserveCurrentSocketPairReservationIfNeeded (session : Nat)
  | openSocketPair (session : Nat) (destination : AddressFamily)
  | dropSocketPair (session : Nat)
  | destroy (target : Nat)

structure Program where
  kernel : Kernel := {}
  objects : AssocMap Nat Object := .empty

namespace Program

variable (program : Program)

def put (name : Nat) (object : Object) (kernel : Kernel) : Program :=
  { kernel := kernel, objects := program.objects.assign name object }

def reserve (target : Nat) (result : Except String ReservedSocketPair × Kernel) : Program :=
  match program.objects.find? target, result with
  | none, (.ok pair, kernel) => program.put target (.reserved pair) kernel
  | none, (.error _, kernel) => { program with kernel := kernel }
  | _, _ => program

def moveConstruct (target source : Nat) : Program :=
  match program.objects.find? target, program.objects.find? source with
  | none, some (.reserved pair) =>
    let moved := pair.moveConstruct program.kernel
    (program.put source (.reserved moved.source) moved.kernel).put target
      (.reserved moved.target) moved.kernel
  | _, _ => program

def moveAssign (target source : Nat) : Program :=
  match program.objects.find? target, program.objects.find? source with
  | some (.reserved pair), some (.reserved other) =>
    if target = source then program
    else
      let moved := pair.moveAssign other program.kernel
      (program.put source (.reserved moved.source) moved.kernel).put target
        (.reserved moved.target) moved.kernel
  | _, _ => program

def reset (target : Nat) : Program :=
  match program.objects.find? target with
  | some (.reserved pair) =>
    program.put target (.reserved (pair.reset program.kernel).1) (pair.reset program.kernel).2
  | _ => program

/-- A constructor that throws leaves no object and the reservation as it was. -/
def constructSocketPair (target source : Nat) (destination : AddressFamily) : Program :=
  match program.objects.find? target, program.objects.find? source with
  | none, some (.reserved reserved) =>
    match SocketPair.openSockets destination reserved with
    | .error _ => program
    | .ok (pair, used) =>
      (program.put source (.reserved used) program.kernel).put target (.socketPair pair)
        program.kernel
  | _, _ => program

def releaseLocalReservation (target source : Nat) : Program :=
  match program.objects.find? target, program.objects.find? source with
  | none, some (.socketPair pair) =>
    (program.put source (.socketPair pair.releaseLocalReservation.2) program.kernel).put target
      (.reserved pair.releaseLocalReservation.1) program.kernel
  | _, _ => program

def constructSession (target : Nat) : Program :=
  match program.objects.find? target with
  | none => program.put target (.session {}) program.kernel
  | some _ => program

def onSession (name : Nat) (change : RtpSession → Kernel → RtpSession × Kernel) : Program :=
  match program.objects.find? name with
  | some (.session session) =>
    program.put name (.session (change session program.kernel).1)
      (change session program.kernel).2
  | _ => program

def setReservedSocketPair (name source : Nat) : Program :=
  match program.objects.find? name, program.objects.find? source with
  | some (.session session), some (.reserved reserved) =>
    let stored := session.setReservedSocketPair reserved program.kernel
    (program.put source (.reserved stored.1.2) stored.2).put name (.session stored.1.1) stored.2
  | _, _ => program

def takeReservedSocketPair (target name : Nat) : Program :=
  match program.objects.find? target, program.objects.find? name with
  | none, some (.session session) =>
    match session.takeReservedSocketPair program.kernel with
    | (.error _, kernel) => { program with kernel := kernel }
    | (.ok (reserved, taken), kernel) =>
      (program.put name (.session taken) kernel).put target (.reserved reserved) kernel
  | _, _ => program

def destroy (target : Nat) : Program :=
  match program.objects.find? target with
  | some object =>
    { kernel := object.destroy program.kernel, objects := program.objects.erase target }
  | none => program

def step : Call → Program
  | .reserve target attempts startIndex family range mediaKind =>
    program.reserve target
      (reserveSocketPairInRange attempts startIndex family range mediaKind program.kernel)
  | .moveConstruct target source => program.moveConstruct target source
  | .moveAssign target source => program.moveAssign target source
  | .reset target => program.reset target
  | .constructSocketPair target source destination =>
    program.constructSocketPair target source destination
  | .releaseLocalReservation target source => program.releaseLocalReservation target source
  | .constructSession target => program.constructSession target
  | .updateMedia name send receive =>
    program.onSession name (fun session kernel =>
      ({ session with sendEnabled := send, receiveEnabled := receive }, kernel))
  | .setReservedSocketPair name source => program.setReservedSocketPair name source
  | .takeReservedSocketPair target name => program.takeReservedSocketPair target name
  | .preserveCurrentSocketPairReservationIfNeeded name =>
    program.onSession name RtpSession.preserveCurrentSocketPairReservationIfNeeded
  | .openSocketPair name destination =>
    program.onSession name (fun session kernel =>
      (session.openSocketPair destination kernel).2)
  | .dropSocketPair name => program.onSession name RtpSession.dropSocketPair
  | .destroy target => program.destroy target

end Program

/-! ### What each operation does with the descriptors -/

open Ledger (Transfers)

def heldBy (handle : Int) : List Int := if handle ≥ 0 then [handle] else []

private theorem heldBy_of_neg {handle : Int} (negative : handle < 0) : heldBy handle = [] :=
  if_neg (Int.not_le.mpr negative)

private theorem create_transfers (answer : Answer) (kernel : Kernel) :
    Transfers kernel (createNonblockingUdpSocket answer kernel).2 []
      (heldBy (createNonblockingUdpSocket answer kernel).1) := by
  unfold createNonblockingUdpSocket
  cases answer with
  | refused => exact .refl kernel []
  | unusable descriptor =>
    dsimp only
    split
    · exact .refl kernel []
    · rename_i fresh
      exact (Ledger.transfers_issue (Bool.eq_false_iff.mpr fresh)).trans
        (Ledger.transfers_giveBack _ _)
  | given descriptor =>
    dsimp only
    split
    · exact .refl kernel []
    · rename_i fresh
      exact Ledger.transfers_issue (Bool.eq_false_iff.mpr fresh)

theorem close_transfers (handle : Int) (kernel : Kernel) :
    Transfers kernel (closeSocketHandle handle kernel).2 (heldBy handle) [] := by
  unfold closeSocketHandle heldBy
  split
  · exact Ledger.transfers_giveBack kernel handle
  · exact .refl kernel []

private theorem heldBy_closed (handle : Int) (kernel : Kernel) :
    heldBy (closeSocketHandle handle kernel).1 = [] := by
  unfold closeSocketHandle
  split
  · rfl
  · rename_i negative
    exact if_neg negative

variable (kernel : Kernel) (target : Nat)

theorem close_both (first second : Int) (kernel : Kernel) :
    Transfers kernel (closeSocketHandle second (closeSocketHandle first kernel).2).2
      (heldBy first ++ heldBy second) [] :=
  ((close_transfers first kernel).append_right (heldBy second)).trans (close_transfers second _)

namespace ReservedSocketPair

variable (pair : ReservedSocketPair)

def handles : List Int := heldBy pair.rtpHandle ++ heldBy pair.rtcpHandle

private theorem handles_reset : (pair.reset kernel).1.handles = [] := by
  change heldBy (closeSocketHandle _ _).1 ++ heldBy (closeSocketHandle _ _).1 = []
  rw [heldBy_closed, heldBy_closed]
  rfl

theorem destroy_transfers : Transfers kernel (pair.destroy kernel) pair.handles [] :=
  close_both pair.rtpHandle pair.rtcpHandle kernel

private theorem moveAssign_transfers (other : ReservedSocketPair) (kernel : Kernel) :
    Transfers kernel (pair.moveAssign other kernel).kernel (other.handles ++ pair.handles)
      ((pair.moveAssign other kernel).source.handles ++
        (pair.moveAssign other kernel).target.handles) := by
  have closed := (pair.destroy_transfers kernel).append_left other.handles
  rw [List.append_nil] at closed
  exact closed

end ReservedSocketPair

def handlesOf : Option ReservedSocketPair → List Int
  | none => []
  | some pair => pair.handles

section Reserve

variable (attempts : Nat → Attempt) (family : AddressFamily)

private theorem tryPair_transfers (attempt : Attempt) (rtpPort rtcpPort : Nat) (kernel : Kernel) :
    Transfers kernel (tryPair attempt family rtpPort rtcpPort kernel).2 []
      (handlesOf ((tryPair attempt family rtpPort rtcpPort kernel).1.toOption.getD none)) := by
  have rtp := create_transfers attempt.rtpSocket kernel
  have rtcp := (create_transfers attempt.rtcpSocket
    (createNonblockingUdpSocket attempt.rtpSocket kernel).2).append_left
      (heldBy (createNonblockingUdpSocket attempt.rtpSocket kernel).1)
  rw [List.append_nil] at rtcp
  unfold tryPair
  dsimp only
  split
  · rename_i negative
    rw [heldBy_of_neg negative] at rtp
    exact rtp
  · split
    · exact rtp.trans (close_transfers _ _)
    · split
      · rename_i negative
        rw [heldBy_of_neg negative, List.append_nil] at rtcp
        exact (rtp.trans rtcp).trans (close_transfers _ _)
      · split
        · exact (rtp.trans rtcp).trans (close_both _ _ _)
        · exact rtp.trans rtcp

theorem tryPairs_transfers (exhausted : String) (ports : List Nat) (kernel : Kernel) :
    Transfers kernel (tryPairs attempts family exhausted ports kernel).2 []
      (handlesOf (tryPairs attempts family exhausted ports kernel).1.toOption) := by
  induction ports generalizing kernel with
  | nil => exact .refl kernel []
  | cons rtpPort later ih =>
    have one := tryPair_transfers family (attempts rtpPort) rtpPort ((rtpPort + 1) % 65536) kernel
    unfold tryPairs
    generalize tryPair (attempts rtpPort) family rtpPort ((rtpPort + 1) % 65536) kernel =
      result at one ⊢
    obtain ⟨_ | _ | pair, next⟩ := result
    · exact one
    · exact one.trans (ih next)
    · exact one

private theorem reserve_transfers (startIndex : Nat) (range : UInt16 × UInt16) (mediaKind : String)
    (kernel : Kernel) :
    Transfers kernel
      (reserveSocketPairInRange attempts startIndex family range mediaKind kernel).2 []
      (handlesOf (reserveSocketPairInRange attempts startIndex family range mediaKind
        kernel).1.toOption) := by
  unfold reserveSocketPairInRange
  split
  · exact .refl kernel []
  · split
    · exact .refl kernel []
    · split
      · exact .refl kernel []
      · exact tryPairs_transfers attempts family _ _ kernel

end Reserve

namespace SocketPair

variable (pair : SocketPair)

def handles : List Int := heldBy pair.rtpHandle ++ heldBy pair.rtcpHandle

theorem destroy_transfers : Transfers kernel (pair.destroy kernel) pair.handles [] :=
  (Transfers.of_perm List.perm_append_comm).trans
    (close_both pair.rtcpHandle pair.rtpHandle kernel)

theorem handles_openSockets {destination : AddressFamily} {reserved used : ReservedSocketPair}
    {opened : SocketPair} (success : openSockets destination reserved = .ok (opened, used)) :
    opened.handles = reserved.handles ∧ used.handles = [] := by
  unfold openSockets at success
  split at success
  · cases success
  · split at success
    · cases success
    · cases success
      exact ⟨rfl, rfl⟩

theorem handles_releaseLocalReservation :
    pair.releaseLocalReservation.2.handles ++ pair.releaseLocalReservation.1.handles =
      pair.handles := by
  unfold releaseLocalReservation
  split
  · exact List.append_nil _
  · rfl

end SocketPair

theorem destroyReserved_transfers (stored : Option ReservedSocketPair) (kernel : Kernel) :
    Transfers kernel (destroyReserved stored kernel) (handlesOf stored) [] := by
  cases stored with
  | none => exact .refl kernel []
  | some pair => exact pair.destroy_transfers kernel

def socketHandlesOf : Option SocketPair → List Int
  | none => []
  | some pair => pair.handles

theorem destroySocketPair_transfers (stored : Option SocketPair) (kernel : Kernel) :
    Transfers kernel (destroySocketPair stored kernel) (socketHandlesOf stored) [] := by
  cases stored with
  | none => exact .refl kernel []
  | some pair => exact pair.destroy_transfers kernel

namespace RtpSession

variable (session : RtpSession)

def handles : List Int :=
  socketHandlesOf session.socketPair ++ handlesOf session.reservedSocketPair

theorem set_transfers (reserved : ReservedSocketPair) (kernel : Kernel) :
    Transfers kernel (session.setReservedSocketPair reserved kernel).2
      (reserved.handles ++ session.handles)
      ((session.setReservedSocketPair reserved kernel).1.2.handles ++
        (session.setReservedSocketPair reserved kernel).1.1.handles) := by
  have closed := ((destroyReserved_transfers session.reservedSocketPair kernel).append_left
    (socketHandlesOf session.socketPair)).append_left reserved.handles
  rw [List.append_nil] at closed
  exact closed.trans (.of_perm List.perm_append_comm)

theorem take_cases :
    (∃ failure, session.takeReservedSocketPair kernel = (.error failure, kernel)) ∨
      ∃ reserved, session.reservedSocketPair = some reserved ∧
        session.takeReservedSocketPair kernel =
          (.ok (reserved, { session with reservedSocketPair := none }), kernel) := by
  unfold takeReservedSocketPair
  cases session.reservedSocketPair with
  | none => exact .inl ⟨_, rfl⟩
  | some reserved => exact .inr ⟨reserved, rfl, rfl⟩

theorem handles_take {reserved : ReservedSocketPair}
    (stored : session.reservedSocketPair = some reserved) :
    session.handles =
      ({ session with reservedSocketPair := none } : RtpSession).handles ++ reserved.handles := by
  unfold handles
  rw [stored]
  change _ = (_ ++ []) ++ _
  rw [List.append_nil]
  rfl

theorem destroy_transfers : Transfers kernel (session.destroy kernel) session.handles [] := by
  have closed := (destroyReserved_transfers session.reservedSocketPair kernel).append_left
    (socketHandlesOf session.socketPair)
  rw [List.append_nil] at closed
  exact closed.trans (destroySocketPair_transfers _ _)

def Keeps (change : RtpSession → Kernel → RtpSession × Kernel) : Prop :=
  ∀ session kernel, Transfers kernel (change session kernel).2 session.handles
    (change session kernel).1.handles

private theorem preserve_keeps : Keeps preserveCurrentSocketPairReservationIfNeeded := by
  intro session kernel
  unfold preserveCurrentSocketPairReservationIfNeeded
  split
  · rename_i pair unreserved current
    have whole : session.handles = pair.releaseLocalReservation.2.handles ++
        pair.releaseLocalReservation.1.handles := by
      rw [pair.handles_releaseLocalReservation, handles, unreserved, current]
      exact List.append_nil _
    have emptied : ({ session with socketPair := some pair.releaseLocalReservation.2 } :
        RtpSession).handles = pair.releaseLocalReservation.2.handles := by
      rw [unreserved]
      exact List.append_nil _
    split
    · exact .refl kernel _
    · rw [whole]
      dsimp only
      split
      · have stored := set_transfers
          { session with socketPair := some pair.releaseLocalReservation.2 }
          pair.releaseLocalReservation.1 kernel
        rw [emptied] at stored
        exact ((Transfers.of_perm List.perm_append_comm).trans stored).trans
          ((ReservedSocketPair.destroy_transfers _ _).append_right _)
      · have closed := (pair.releaseLocalReservation.1.destroy_transfers kernel).append_left
          pair.releaseLocalReservation.2.handles
        rw [List.append_nil] at closed
        rw [emptied]
        exact closed
  · exact .refl kernel _

private theorem open_keeps (destination : AddressFamily) :
    Keeps (fun session kernel => (session.openSocketPair destination kernel).2) := by
  intro session kernel
  dsimp only
  unfold openSocketPair
  rcases session.take_cases kernel with ⟨failure, missing⟩ | ⟨reserved, stored, took⟩
  · rw [missing]
    exact .refl kernel _
  · rw [took, session.handles_take stored]
    dsimp only
    cases opened : SocketPair.openSockets destination reserved with
    | error failure =>
      have closed := (reserved.destroy_transfers kernel).append_left
        ({ session with reservedSocketPair := none } : RtpSession).handles
      rw [List.append_nil] at closed
      exact closed
    | ok result =>
      obtain ⟨pair, used⟩ := result
      obtain ⟨all, rest⟩ := SocketPair.handles_openSockets opened
      have replaced := (destroySocketPair_transfers session.socketPair kernel).append_right
        pair.handles
      have disposed := (used.destroy_transfers
        (destroySocketPair session.socketPair kernel)).append_right pair.handles
      rw [rest] at disposed
      have before : ({ session with reservedSocketPair := none } : RtpSession).handles =
          socketHandlesOf session.socketPair := List.append_nil _
      rw [before, ← all]
      exact (replaced.trans disposed).trans (.of_perm List.perm_append_comm)

private theorem drop_keeps : Keeps dropSocketPair := by
  intro session kernel
  exact (destroySocketPair_transfers session.socketPair kernel).append_right
    (handlesOf session.reservedSocketPair)

end RtpSession

/-! ### Every program -/

def Object.handles : Object → List Int
  | .reserved pair => pair.handles
  | .socketPair pair => pair.handles
  | .session current => current.handles

variable {name : Nat}

theorem Object.destroy_transfers (object : Object) (kernel : Kernel) :
    Transfers kernel (object.destroy kernel) object.handles [] := by
  cases object with
  | reserved pair => exact pair.destroy_transfers kernel
  | socketPair pair => exact pair.destroy_transfers kernel
  | session current => exact current.destroy_transfers kernel

namespace Program

variable {program : Program}

/-- The open descriptors are those of the objects, and no two hold the same. -/
def Accounted (program : Program) : Prop :=
  program.kernel.InCustody (program.objects.holdings Object.handles)

theorem heldAt_eq {found : Option Object} (looked : program.objects.find? name = found) :
    program.objects.heldAt Object.handles name = found.elim [] Object.handles := by
  rw [AssocMap.heldAt, looked]

theorem Accounted.put (accounted : program.Accounted) {found : Option Object}
    (looked : program.objects.find? name = found) {object : Object} {kernel : Kernel}
    (moved : Transfers program.kernel kernel (found.elim [] Object.handles) object.handles) :
    (program.put name object kernel).Accounted := by
  rw [← heldAt_eq looked] at moved
  exact moved.assign accounted

theorem Accounted.put_two (accounted : program.Accounted) {source target : Nat}
    (different : target ≠ source) {first second : Option Object}
    (sourceLooked : program.objects.find? source = first)
    (targetLooked : program.objects.find? target = second)
    {left right : Object} {between kernel : Kernel}
    (moved : Transfers program.kernel kernel
      (first.elim [] Object.handles ++ second.elim [] Object.handles)
      (left.handles ++ right.handles)) :
    ((program.put source left between).put target right kernel).Accounted := by
  rw [← heldAt_eq sourceLooked, ← heldAt_eq targetLooked] at moved
  exact moved.assign_two different accounted

theorem ne_of_found {target source : Nat} {object : Object}
    (free : program.objects.find? target = none)
    (found : program.objects.find? source = some object) : target ≠ source := by
  rintro rfl
  rw [free] at found
  cases found

section

variable (accounted : program.Accounted)
include accounted

theorem Accounted.reserve {result : Except String ReservedSocketPair × Kernel}
    (moved : Transfers program.kernel result.2 [] (handlesOf result.1.toOption)) :
    (program.reserve target result).Accounted := by
  unfold Program.reserve
  split
  · rename_i free
    exact accounted.put free moved
  · exact moved _ accounted
  · exact accounted

theorem Accounted.moveConstruct (target source : Nat) :
    (program.moveConstruct target source).Accounted := by
  unfold Program.moveConstruct
  split
  · rename_i pair free found
    exact accounted.put_two (ne_of_found free found) found free
      (.of_perm List.perm_append_comm)
  · exact accounted

theorem Accounted.moveAssign (target source : Nat) :
    (program.moveAssign target source).Accounted := by
  unfold Program.moveAssign
  split
  · rename_i pair other targetFound sourceFound
    split
    · exact accounted
    · rename_i different
      exact accounted.put_two different sourceFound targetFound
        (pair.moveAssign_transfers other program.kernel)
  · exact accounted

theorem Accounted.reset : (program.reset target).Accounted := by
  unfold Program.reset
  split
  · rename_i pair found
    apply accounted.put found
    change Transfers _ _ _ (pair.reset program.kernel).1.handles
    rw [pair.handles_reset]
    exact pair.destroy_transfers program.kernel
  · exact accounted

theorem Accounted.constructSocketPair (target source : Nat) (destination : AddressFamily) :
    (program.constructSocketPair target source destination).Accounted := by
  unfold Program.constructSocketPair
  split
  · rename_i reserved free found
    split
    · exact accounted
    · rename_i pair used opened
      obtain ⟨all, rest⟩ := SocketPair.handles_openSockets opened
      apply accounted.put_two (ne_of_found free found) found free
      change Transfers _ _ (reserved.handles ++ []) (used.handles ++ pair.handles)
      rw [all, rest]
      exact .of_perm List.perm_append_comm
  · exact accounted

theorem Accounted.releaseLocalReservation (target source : Nat) :
    (program.releaseLocalReservation target source).Accounted := by
  unfold Program.releaseLocalReservation
  split
  · rename_i pair free found
    apply accounted.put_two (ne_of_found free found) found free
    change Transfers _ _ (pair.handles ++ []) (pair.releaseLocalReservation.2.handles ++
      pair.releaseLocalReservation.1.handles)
    rw [pair.handles_releaseLocalReservation, List.append_nil]
    exact .refl _ _
  · exact accounted

theorem Accounted.constructSession : (program.constructSession target).Accounted := by
  unfold Program.constructSession
  split
  · rename_i free
    exact accounted.put free (.refl _ [])
  · exact accounted

theorem Accounted.onSession (name : Nat) {change : RtpSession → Kernel → RtpSession × Kernel}
    (keeps : RtpSession.Keeps change) : (program.onSession name change).Accounted := by
  unfold Program.onSession
  split
  · rename_i session found
    exact accounted.put found (keeps session program.kernel)
  · exact accounted

theorem Accounted.setReservedSocketPair (name source : Nat) :
    (program.setReservedSocketPair name source).Accounted := by
  unfold Program.setReservedSocketPair
  split
  · rename_i session reserved found sourceFound
    have different : name ≠ source := by
      rintro rfl
      rw [found] at sourceFound
      cases sourceFound
    exact accounted.put_two different sourceFound found
      (session.set_transfers reserved program.kernel)
  · exact accounted

theorem Accounted.takeReservedSocketPair (target name : Nat) :
    (program.takeReservedSocketPair target name).Accounted := by
  unfold Program.takeReservedSocketPair
  split
  · rename_i session free found
    rcases session.take_cases program.kernel with ⟨failure, missing⟩ | ⟨reserved, stored, took⟩
    · rw [missing]
      exact accounted
    · rw [took]
      apply accounted.put_two (ne_of_found free found) found free
      change Transfers _ _ (session.handles ++ []) _
      rw [session.handles_take stored, List.append_nil]
      exact .refl _ _
  · exact accounted

theorem Accounted.destroy : (program.destroy target).Accounted := by
  unfold Program.destroy
  split
  · rename_i object found
    have moved := object.destroy_transfers program.kernel
    rw [← Option.elim_some [] Object.handles object, ← heldAt_eq found] at moved
    exact moved.erase accounted
  · exact accounted

end

theorem step_accounted (program : Program) (call : Call) (accounted : program.Accounted) :
    (program.step call).Accounted := by
  cases call with
  | reserve target attempts startIndex family range mediaKind =>
    exact accounted.reserve target
      (reserve_transfers attempts family startIndex range mediaKind program.kernel)
  | moveConstruct target source => exact accounted.moveConstruct target source
  | moveAssign target source => exact accounted.moveAssign target source
  | reset target => exact accounted.reset target
  | constructSocketPair target source destination =>
    exact accounted.constructSocketPair target source destination
  | releaseLocalReservation target source => exact accounted.releaseLocalReservation target source
  | constructSession target => exact accounted.constructSession target
  | updateMedia name send receive =>
    exact accounted.onSession name (fun session kernel => .refl kernel session.handles)
  | setReservedSocketPair name source => exact accounted.setReservedSocketPair name source
  | takeReservedSocketPair target name => exact accounted.takeReservedSocketPair target name
  | preserveCurrentSocketPairReservationIfNeeded name =>
    exact accounted.onSession name RtpSession.preserve_keeps
  | openSocketPair name destination =>
    exact accounted.onSession name (RtpSession.open_keeps destination)
  | dropSocketPair name => exact accounted.onSession name RtpSession.drop_keeps
  | destroy target => exact accounted.destroy target

def Owns (program : Program) (name : Nat) (descriptor : Int) : Prop :=
  ∃ object, program.objects.find? name = some object ∧ descriptor ∈ object.handles

def timesOpened (program : Program) (descriptor : Int) : Nat :=
  program.kernel.issued.count descriptor

def timesClosed (program : Program) (descriptor : Int) : Nat :=
  program.kernel.returned.count descriptor

/-- No descriptor has two owners, nor is it held twice by one; no close has gone wrong; and
what is open has an owner. -/
structure Owned (program : Program) : Prop where
  unique : ∀ descriptor first second,
    program.Owns first descriptor → program.Owns second descriptor → first = second
  once : ∀ name object, program.objects.find? name = some object → object.handles.Nodup
  regular : program.kernel.refused = []
  settled : ∀ descriptor, (¬∃ name, program.Owns name descriptor) →
    program.timesOpened descriptor = program.timesClosed descriptor
  unsettled : ∀ descriptor, (∃ name, program.Owns name descriptor) →
    program.timesOpened descriptor = program.timesClosed descriptor + 1

theorem owns_iff {descriptor : Int} :
    program.Owns name descriptor ↔
      descriptor ∈ program.objects.heldAt Object.handles name := by
  unfold Owns AssocMap.heldAt
  cases program.objects.find? name with
  | none => simp
  | some object => simp

private theorem owned_iff {descriptor : Int} :
    (∃ name, program.Owns name descriptor) ↔
      descriptor ∈ program.objects.holdings Object.handles := by
  rw [AssocMap.mem_holdings]
  exact exists_congr (fun _ => owns_iff)

theorem Accounted.owned (accounted : program.Accounted) : program.Owned where
  unique := fun _ _ _ left right =>
    accounted.holder_unique (owns_iff.mp left) (owns_iff.mp right)
  once := by
    intro name object found
    have split := (program.objects.holdings_split name).nodup_iff.mp accounted.nodup
    rw [heldAt_eq found] at split
    exact split.of_append_left
  regular := accounted.regular
  settled := by
    intro descriptor unowned
    rw [owned_iff] at unowned
    have balance := accounted.balance descriptor
    rw [List.count_eq_zero.mpr unowned] at balance
    exact balance
  unsettled := by
    intro descriptor owned
    have balance := accounted.balance descriptor
    have single := accounted.single descriptor
    have positive := List.count_pos_iff.mpr (owned_iff.mp owned)
    unfold timesOpened timesClosed
    omega

def destructions (program : Program) : List Call :=
  (program.objects.entries.map Prod.fst).map .destroy

def ended (calls : List Call) : Program :=
  Run.after step (Run.after step {} calls) (Run.after step {} calls).destructions

private theorem find?_destroy (program : Program) (target name : Nat) :
    (program.destroy target).objects.find? name =
      if name = target then none else program.objects.find? name := by
  unfold Program.destroy
  split
  · exact AssocMap.find?_erase _ _ _
  · rename_i missing
    split
    · rename_i same
      rw [same]
      exact missing
    · rfl

private theorem find?_after_destroys (targets : List Nat) (program : Program) (name : Nat) :
    (Run.after step program (targets.map .destroy)).objects.find? name =
      if name ∈ targets then none else program.objects.find? name := by
  induction targets generalizing program with
  | nil => simp
  | cons target targets ih =>
    rw [List.map_cons, Run.after_cons, ih]
    change (if _ then _ else (program.destroy target).objects.find? name) = _
    rw [find?_destroy]
    by_cases same : name = target
    · simp [same]
    · simp [same]

private theorem none_left (program : Program) (name : Nat) :
    (Run.after step program program.destructions).objects.find? name = none := by
  rw [destructions, find?_after_destroys]
  split
  · rfl
  · rename_i unlisted
    exact (AssocMap.find?_none_iff _ _).mpr unlisted

private theorem always_accounted (calls : List Call) : Run.Always step Accounted {} calls := by
  have initially : Accounted {} := Ledger.inCustody_empty
  exact Run.always_of_preserved step_accounted initially calls

/-- Whatever a program does with reservations, socket pairs and sessions, each descriptor
has one owner as long as it is open, and in the end each was closed as often as it was
opened. -/
theorem descriptors_owned_once_and_closed (calls : List Call) :
    Run.Always step Owned {} calls ∧
      ∀ descriptor, (ended calls).timesOpened descriptor = (ended calls).timesClosed descriptor := by
  constructor
  · exact (always_accounted calls).imp (fun _ accounted => accounted.owned)
  · intro descriptor
    have through : Run.Always step Accounted (Run.after step {} calls)
        (Run.after step {} calls).destructions :=
      Run.always_of_preserved step_accounted (always_accounted calls).last _
    have last : (ended calls).Owned := through.last.owned
    apply last.settled
    rintro ⟨name, object, found, _⟩
    have missing : (ended calls).objects.find? name = none := none_left _ name
    rw [missing] at found
    cases found

end Program

end SipCore.SocketOwnership
