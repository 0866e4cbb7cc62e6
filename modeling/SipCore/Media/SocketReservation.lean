/-
Reserving a pair of UDP sockets for a media stream. The even ports of the configured
range are tried in turn from a random one on; the port behind each is its RTCP port.
Other programs hold a fixed set of ports meanwhile. Every request to bind is recorded.
-/

import SipCore.Library.CircularPosition
import Mathlib.Algebra.Group.Nat.Even
import Mathlib.Data.List.Nodup
import Mathlib.Data.List.Range

namespace SipCore.Rtp

inductive AddressFamily where
  | unspec
  | inet
  | inet6
  deriving DecidableEq, Repr

structure UdpSocket where
  handle : Nat
  port : Option Nat := none
  deriving DecidableEq, Repr

structure Sockets where
  busy : Nat → Bool
  opened : List UdpSocket
  nextHandle : Nat
  binds : List Nat
  fresh : ∀ socket ∈ opened, socket.handle < nextHandle

namespace Sockets

variable (sockets : Sockets)

def isFree (port : Nat) : Bool :=
  !sockets.busy port && sockets.opened.all (fun socket => socket.port ≠ some port)

def withSocket : Sockets :=
  { sockets with
    opened := sockets.opened ++ [⟨sockets.nextHandle, none⟩]
    nextHandle := sockets.nextHandle + 1
    fresh := by
      intro socket member
      rcases List.mem_append.mp member with old | new
      · exact Nat.lt_succ_of_lt (sockets.fresh socket old)
      · rw [List.mem_singleton.mp new]
        exact Nat.lt_succ_self _ }

/-- `creates n` says whether the system gives out the handle `n`. -/
def createNonblockingUdpSocket (creates : Nat → Bool) : Option Nat × Sockets :=
  if creates sockets.nextHandle then (some sockets.nextHandle, sockets.withSocket)
  else (none, sockets)

def withRequest (port : Nat) : Sockets := { sockets with binds := sockets.binds ++ [port] }

def withPort (handle port : Nat) : Sockets :=
  { sockets with
    opened := sockets.opened.map (fun socket =>
      if socket.handle = handle then { socket with port := some port } else socket)
    fresh := by
      intro socket member
      obtain ⟨old, present, rfl⟩ := List.mem_map.mp member
      have bound := sockets.fresh old present
      split <;> exact bound }

def bindUdpSocket (handle port : Nat) : Bool × Sockets :=
  if sockets.isFree port then (true, (sockets.withRequest port).withPort handle port)
  else (false, sockets.withRequest port)

def closeSocketHandle (handle : Nat) : Sockets :=
  { sockets with
    opened := sockets.opened.filter (fun socket => socket.handle ≠ handle)
    fresh := fun socket member => sockets.fresh socket (List.mem_filter.mp member).1 }

end Sockets

structure ReservedSocketPair where
  family : AddressFamily
  rtpHandle : Nat
  rtcpHandle : Nat
  rtpPort : Nat
  rtcpPort : Nat
  deriving DecidableEq, Repr

def tryPair (creates : Nat → Bool) (rtpPort rtcpPort : Nat) (sockets : Sockets) :
    Except String (Option (Nat × Nat)) × Sockets :=
  match sockets.createNonblockingUdpSocket creates with
  | (none, failed) => (.error "Failed to create RTP socket", failed)
  | (some rtpHandle, withRtp) =>
    match withRtp.bindUdpSocket rtpHandle rtpPort with
    | (false, unbound) => (.ok none, unbound.closeSocketHandle rtpHandle)
    | (true, rtpBound) =>
      match rtpBound.createNonblockingUdpSocket creates with
      | (none, failed) =>
        (.error "Failed to create RTCP socket", failed.closeSocketHandle rtpHandle)
      | (some rtcpHandle, withRtcp) =>
        match withRtcp.bindUdpSocket rtcpHandle rtcpPort with
        | (false, unbound) =>
          (.ok none, (unbound.closeSocketHandle rtpHandle).closeSocketHandle rtcpHandle)
        | (true, bound) => (.ok (some (rtpHandle, rtcpHandle)), bound)

def noFreePair (mediaKind : String) (range : UInt16 × UInt16) : String :=
  "No free " ++ mediaKind ++ " RTP/RTCP pair available in configured range [" ++
    toString range.1 ++ "-" ++ toString range.2 ++ "]"

def tryPairs (creates : Nat → Bool) (family : AddressFamily) (exhausted : String) :
    List Nat → Sockets → Except String ReservedSocketPair × Sockets
  | [], sockets => (.error exhausted, sockets)
  | rtpPort :: later, sockets =>
    match tryPair creates rtpPort ((rtpPort + 1) % 65536) sockets with
    | (.error failure, failed) => (.error failure, failed)
    | (.ok none, rejected) => tryPairs creates family exhausted later rejected
    | (.ok (some (rtpHandle, rtcpHandle)), reserved) =>
      (.ok ⟨family, rtpHandle, rtcpHandle, rtpPort, (rtpPort + 1) % 65536⟩, reserved)

section Candidates

variable (range : UInt16 × UInt16)

def firstCandidate : Nat :=
  if range.1.toNat % 2 = 0 then range.1.toNat else (range.1.toNat + 1) % 65536

def upperBound : Nat := (range.2.toNat - 1) % 65536

def lastCandidate : Nat :=
  if upperBound range % 2 = 0 then upperBound range else (upperBound range - 1) % 65536

def pairCount : Nat := (lastCandidate range - firstCandidate range) / 2 + 1

def candidates (startIndex : Nat) : List Nat :=
  (List.range (pairCount range)).map (fun attempt =>
    (firstCandidate range + (startIndex + attempt) % pairCount range * 2) % 65536)

end Candidates

def reserveSocketPairInRange (creates : Nat → Bool) (startIndex : Nat) (family : AddressFamily)
    (range : UInt16 × UInt16) (mediaKind : String) (sockets : Sockets) :
    Except String ReservedSocketPair × Sockets :=
  if family ≠ .inet ∧ family ≠ .inet6 then (.error "Unsupported RTP socket family", sockets)
  else if range.1 = 0 ∨ range.2 ≤ range.1 then (.error "Invalid RTP port range", sockets)
  else if firstCandidate range > lastCandidate range then
    (.error (noFreePair mediaKind range), sockets)
  else
    tryPairs creates family (noFreePair mediaKind range) (candidates range startIndex) sockets

variable {opened : List UdpSocket} {ports : List Nat}

variable {handle : Nat}

namespace Sockets

variable {sockets : Sockets}

theorem isFree_iff {port : Nat} :
    sockets.isFree port = true ↔
      sockets.busy port = false ∧ ∀ socket ∈ sockets.opened, socket.port ≠ some port := by
  unfold isFree
  rw [Bool.and_eq_true, Bool.not_eq_true', List.all_eq_true]
  simp only [decide_eq_true_eq]

private theorem isFree_congr {other : Sockets} (opened : other.opened = sockets.opened)
    (busy : other.busy = sockets.busy) (port : Nat) : other.isFree port = sockets.isFree port := by
  unfold isFree
  rw [opened, busy]

theorem isFree_withSocket (port : Nat) : sockets.withSocket.isFree port = sockets.isFree port := by
  unfold isFree withSocket
  simp

theorem map_newest {port : Nat} (fresh : ∀ socket ∈ opened, socket.handle < handle)
    (before : Option Nat) :
    (opened ++ [UdpSocket.mk handle before]).map (fun socket =>
      if socket.handle = handle then { socket with port := some port } else socket) =
      opened ++ [⟨handle, some port⟩] := by
  have others : opened.map (fun socket =>
      if socket.handle = handle then { socket with port := some port } else socket) = opened := by
    apply (List.map_congr_left _).trans (List.map_id opened)
    intro socket member
    exact if_neg (Nat.ne_of_lt (fresh socket member))
  rw [List.map_append, others, List.map_singleton]
  simp only [if_true]

theorem filter_newest (fresh : ∀ socket ∈ opened, socket.handle < handle) (port : Option Nat) :
    (opened ++ [UdpSocket.mk handle port]).filter (fun socket => socket.handle ≠ handle) = opened := by
  have others : opened.filter (fun socket => socket.handle ≠ handle) = opened := by
    apply List.filter_eq_self.mpr
    intro socket member
    exact decide_eq_true (Nat.ne_of_lt (fresh socket member))
  rw [List.filter_append, others]
  simp

theorem filter_second_newest (fresh : ∀ socket ∈ opened, socket.handle < handle) (port : Option Nat)
    (last : UdpSocket) (newer : handle < last.handle) :
    (opened ++ [UdpSocket.mk handle port] ++ [last]).filter (fun socket => socket.handle ≠ handle) =
      opened ++ [last] := by
  rw [List.filter_append, filter_newest fresh]
  simp [Nat.ne_of_gt newer]

def FreePair (sockets : Sockets) (rtpPort : Nat) : Prop :=
  sockets.isFree rtpPort = true ∧ sockets.isFree ((rtpPort + 1) % 65536) = true

structure Rejected (before after : Sockets) (requests : List Nat) : Prop where
  opened : after.opened = before.opened
  busy : after.busy = before.busy
  binds : after.binds = before.binds ++ requests

structure Reserved (before after : Sockets) (rtpHandle rtcpHandle rtpPort : Nat)
    (requests : List Nat) : Prop where
  opened : after.opened = before.opened ++
    [⟨rtpHandle, some rtpPort⟩, ⟨rtcpHandle, some ((rtpPort + 1) % 65536)⟩]
  busy : after.busy = before.busy
  binds : after.binds = before.binds ++ requests

def withRtp (sockets : Sockets) (rtpPort : Nat) : Sockets :=
  (sockets.withSocket.withRequest rtpPort).withPort sockets.nextHandle rtpPort

theorem withRtp_opened (sockets : Sockets) (rtpPort : Nat) :
    (sockets.withRtp rtpPort).opened = sockets.opened ++ [⟨sockets.nextHandle, some rtpPort⟩] :=
  map_newest sockets.fresh none

theorem isFree_withRtp {rtpPort port : Nat} (different : rtpPort ≠ port) :
    (sockets.withRtp rtpPort).isFree port = sockets.isFree port := by
  unfold isFree
  rw [withRtp_opened]
  simp [withRtp, withPort, withRequest, withSocket, different]

end Sockets

open Sockets

theorem rtcpPort_ne (rtpPort : Nat) : rtpPort ≠ (rtpPort + 1) % 65536 := by omega

section Round

variable {creates : Nat → Bool} {sockets : Sockets} {rtpPort : Nat}

theorem create_of_given (given : creates sockets.nextHandle = true) :
    sockets.createNonblockingUdpSocket creates = (some sockets.nextHandle, sockets.withSocket) :=
  if_pos given

theorem create_of_refused (refused : creates sockets.nextHandle = false) :
    sockets.createNonblockingUdpSocket creates = (none, sockets) :=
  if_neg (Bool.eq_false_iff.mp refused)

theorem bind_rtp_of_free (free : sockets.isFree rtpPort = true) :
    sockets.withSocket.bindUdpSocket sockets.nextHandle rtpPort =
      (true, sockets.withRtp rtpPort) := by
  unfold bindUdpSocket
  rw [isFree_withSocket, free]
  rfl

theorem tryPair_of_rtp_taken (created : creates sockets.nextHandle = true)
    (taken : sockets.isFree rtpPort = false) (rtcpPort : Nat) :
    ∃ final, tryPair creates rtpPort rtcpPort sockets = (.ok none, final) ∧
      Rejected sockets final [rtpPort] := by
  have bind : sockets.withSocket.bindUdpSocket sockets.nextHandle rtpPort =
      (false, sockets.withSocket.withRequest rtpPort) := by
    unfold bindUdpSocket
    rw [isFree_withSocket, taken]
    rfl
  refine ⟨(sockets.withSocket.withRequest rtpPort).closeSocketHandle sockets.nextHandle, ?_, ?_⟩
  · unfold tryPair
    rw [create_of_given created]
    dsimp only
    rw [bind]
  · exact ⟨filter_newest sockets.fresh none, rfl, rfl⟩

theorem tryPair_after_rtp (first : creates sockets.nextHandle = true)
    (second : creates (sockets.nextHandle + 1) = true) (free : sockets.isFree rtpPort = true)
    (rtcpPort : Nat) :
    tryPair creates rtpPort rtcpPort sockets =
      match (sockets.withRtp rtpPort).withSocket.bindUdpSocket (sockets.nextHandle + 1) rtcpPort with
      | (false, unbound) =>
        (.ok none, (unbound.closeSocketHandle sockets.nextHandle).closeSocketHandle
          (sockets.nextHandle + 1))
      | (true, bound) => (.ok (some (sockets.nextHandle, sockets.nextHandle + 1)), bound) := by
  have again : creates (sockets.withRtp rtpPort).nextHandle = true := second
  unfold tryPair
  rw [create_of_given first]
  dsimp only
  rw [bind_rtp_of_free free]
  dsimp only
  rw [create_of_given again]
  rfl

private theorem withRtp_fresh (sockets : Sockets) (rtpPort : Nat) :
    ∀ socket ∈ sockets.opened ++ [⟨sockets.nextHandle, some rtpPort⟩],
      socket.handle < sockets.nextHandle + 1 := by
  rw [← withRtp_opened]
  exact (sockets.withRtp rtpPort).fresh

section

variable (first : creates sockets.nextHandle = true)
include first

theorem tryPair_of_rtcp_taken (second : creates (sockets.nextHandle + 1) = true)
    (free : sockets.isFree rtpPort = true) (taken : sockets.isFree ((rtpPort + 1) % 65536) = false) :
    ∃ final, tryPair creates rtpPort ((rtpPort + 1) % 65536) sockets = (.ok none, final) ∧
      Rejected sockets final [rtpPort, (rtpPort + 1) % 65536] := by
  have bind : (sockets.withRtp rtpPort).withSocket.bindUdpSocket (sockets.nextHandle + 1)
      ((rtpPort + 1) % 65536) =
      (false, (sockets.withRtp rtpPort).withSocket.withRequest ((rtpPort + 1) % 65536)) := by
    unfold bindUdpSocket
    rw [isFree_withSocket, isFree_withRtp (rtcpPort_ne rtpPort), taken]
    rfl
  rw [tryPair_after_rtp first second free, bind]
  refine ⟨_, rfl, ?_, rfl, ?_⟩
  · change (((sockets.withRtp rtpPort).opened ++
      [UdpSocket.mk (sockets.nextHandle + 1) none]).filter _).filter _ = _
    rw [withRtp_opened, filter_second_newest sockets.fresh _ _ (Nat.lt_succ_self _)]
    exact filter_newest (fun socket member => Nat.lt_succ_of_lt (sockets.fresh socket member)) none
  · exact List.append_assoc _ _ _

theorem tryPair_of_free (second : creates (sockets.nextHandle + 1) = true)
    (free : sockets.FreePair rtpPort) :
    ∃ final rtpHandle rtcpHandle, tryPair creates rtpPort ((rtpPort + 1) % 65536) sockets =
        (.ok (some (rtpHandle, rtcpHandle)), final) ∧
      Reserved sockets final rtpHandle rtcpHandle rtpPort [rtpPort, (rtpPort + 1) % 65536] := by
  have bind : (sockets.withRtp rtpPort).withSocket.bindUdpSocket (sockets.nextHandle + 1)
      ((rtpPort + 1) % 65536) =
      (true, ((sockets.withRtp rtpPort).withSocket.withRequest ((rtpPort + 1) % 65536)).withPort
        (sockets.nextHandle + 1) ((rtpPort + 1) % 65536)) := by
    unfold bindUdpSocket
    rw [isFree_withSocket, isFree_withRtp (rtcpPort_ne rtpPort), free.2]
    rfl
  rw [tryPair_after_rtp first second free.1, bind]
  refine ⟨_, sockets.nextHandle, sockets.nextHandle + 1, rfl, ?_, rfl, ?_⟩
  · change ((sockets.withRtp rtpPort).opened ++
      [UdpSocket.mk (sockets.nextHandle + 1) none]).map _ = _
    rw [withRtp_opened, map_newest (withRtp_fresh sockets rtpPort), List.append_assoc]
    rfl
  · exact List.append_assoc _ _ _

private theorem tryPair_of_rtcp_refused (second : creates (sockets.nextHandle + 1) = false)
    (free : sockets.isFree rtpPort = true) (rtcpPort : Nat) :
    ∃ final, tryPair creates rtpPort rtcpPort sockets =
        (.error "Failed to create RTCP socket", final) ∧ Rejected sockets final [rtpPort] := by
  have again : creates (sockets.withRtp rtpPort).nextHandle = false := second
  refine ⟨(sockets.withRtp rtpPort).closeSocketHandle sockets.nextHandle, ?_, ?_, rfl, rfl⟩
  · unfold tryPair
    rw [create_of_given first]
    dsimp only
    rw [bind_rtp_of_free free]
    dsimp only
    rw [create_of_refused again]
  · change (sockets.withRtp rtpPort).opened.filter _ = _
    rw [withRtp_opened]
    exact filter_newest sockets.fresh _

end

theorem tryPair_of_taken (created : ∀ handle, creates handle = true)
    (taken : ¬ sockets.FreePair rtpPort) :
    ∃ final requests, tryPair creates rtpPort ((rtpPort + 1) % 65536) sockets = (.ok none, final) ∧
      Rejected sockets final requests ∧ requests.Sublist [rtpPort, (rtpPort + 1) % 65536] := by
  cases rtp : sockets.isFree rtpPort with
  | false =>
    obtain ⟨final, result, rejected⟩ := tryPair_of_rtp_taken (created _) rtp ((rtpPort + 1) % 65536)
    exact ⟨final, [rtpPort], result, rejected, by simp⟩
  | true =>
    have rtcp : sockets.isFree ((rtpPort + 1) % 65536) = false :=
      Bool.eq_false_iff.mpr (fun free => taken ⟨rtp, free⟩)
    obtain ⟨final, result, rejected⟩ := tryPair_of_rtcp_taken (created _) (created _) rtp rtcp
    exact ⟨final, _, result, rejected, .refl _⟩

private theorem tryPair_outcome {result : Except String (Option (Nat × Nat))} {final : Sockets}
    (round : tryPair creates rtpPort ((rtpPort + 1) % 65536) sockets = (result, final)) :
    (∃ rtpHandle rtcpHandle requests, result = .ok (some (rtpHandle, rtcpHandle)) ∧
      sockets.FreePair rtpPort ∧
      Reserved sockets final rtpHandle rtcpHandle rtpPort requests) ∨
    ((∀ handles, result ≠ .ok (some handles)) ∧
      ∃ requests, Rejected sockets final requests) := by
  cases first : creates sockets.nextHandle with
  | false =>
    unfold tryPair at round
    rw [create_of_refused first] at round
    cases round
    exact .inr ⟨nofun, [], rfl, rfl, (List.append_nil _).symm⟩
  | true =>
    cases rtp : sockets.isFree rtpPort with
    | false =>
      obtain ⟨_, same, rejected⟩ := tryPair_of_rtp_taken first rtp ((rtpPort + 1) % 65536)
      cases same.symm.trans round
      exact .inr ⟨nofun, _, rejected⟩
    | true =>
      cases second : creates (sockets.nextHandle + 1) with
      | false =>
        obtain ⟨_, same, rejected⟩ :=
          tryPair_of_rtcp_refused first second rtp ((rtpPort + 1) % 65536)
        cases same.symm.trans round
        exact .inr ⟨nofun, _, rejected⟩
      | true =>
        cases rtcp : sockets.isFree ((rtpPort + 1) % 65536) with
        | false =>
          obtain ⟨_, same, rejected⟩ := tryPair_of_rtcp_taken first second rtp rtcp
          cases same.symm.trans round
          exact .inr ⟨nofun, _, rejected⟩
        | true =>
          obtain ⟨_, rtpHandle, rtcpHandle, same, reserved⟩ :=
            tryPair_of_free first second ⟨rtp, rtcp⟩
          cases same.symm.trans round
          exact .inl ⟨rtpHandle, rtcpHandle, _, rfl, ⟨rtp, rtcp⟩, reserved⟩

end Round

def requestsOf (ports : List Nat) : List Nat :=
  ports.flatMap (fun rtpPort => [rtpPort, (rtpPort + 1) % 65536])

theorem Sockets.Rejected.freePair_iff {before after : Sockets} {requests : List Nat}
    (rejected : Rejected before after requests) (rtpPort : Nat) :
    after.FreePair rtpPort ↔ before.FreePair rtpPort := by
  unfold FreePair
  rw [isFree_congr rejected.opened rejected.busy, isFree_congr rejected.opened rejected.busy]

theorem Sockets.Rejected.refl (sockets : Sockets) : Rejected sockets sockets [] :=
  ⟨rfl, rfl, (List.append_nil _).symm⟩

theorem Sockets.Rejected.trans {first second third : Sockets} {early late : List Nat}
    (earlier : Rejected first second early) (later : Rejected second third late) :
    Rejected first third (early ++ late) :=
  { opened := later.opened.trans earlier.opened
    busy := later.busy.trans earlier.busy
    binds := by rw [later.binds, earlier.binds, List.append_assoc] }

theorem Sockets.Rejected.reserved {first second third : Sockets} {early late : List Nat}
    {rtpHandle rtcpHandle rtpPort : Nat} (earlier : Rejected first second early)
    (later : Reserved second third rtpHandle rtcpHandle rtpPort late) :
    Reserved first third rtpHandle rtcpHandle rtpPort (early ++ late) :=
  { opened := by rw [later.opened, earlier.opened]
    busy := later.busy.trans earlier.busy
    binds := by rw [later.binds, earlier.binds, List.append_assoc] }

section Loop

variable {creates : Nat → Bool} (family : AddressFamily) (exhausted : String)

private theorem tryPairs_of_free (created : ∀ handle, creates handle = true) {sockets : Sockets}
    (available : ∃ rtpPort ∈ ports, sockets.FreePair rtpPort) :
    ∃ rtpPort ∈ ports, sockets.FreePair rtpPort ∧ ∃ final rtpHandle rtcpHandle requests,
      tryPairs creates family exhausted ports sockets =
        (.ok ⟨family, rtpHandle, rtcpHandle, rtpPort, (rtpPort + 1) % 65536⟩, final) ∧
      Reserved sockets final rtpHandle rtcpHandle rtpPort requests ∧
      requests.Sublist (requestsOf ports) := by
  induction ports generalizing sockets with
  | nil =>
    obtain ⟨_, member, _⟩ := available
    cases member
  | cons first later ih =>
    by_cases free : sockets.FreePair first
    · obtain ⟨final, rtpHandle, rtcpHandle, result, reserved⟩ :=
        tryPair_of_free (created _) (created _) free
      refine ⟨first, List.mem_cons_self, free, final, rtpHandle, rtcpHandle, _, ?_, reserved, ?_⟩
      · unfold tryPairs
        rw [result]
      · exact List.sublist_append_left _ _
    · obtain ⟨next, asked, result, rejected, few⟩ := tryPair_of_taken created free
      have remaining : ∃ rtpPort ∈ later, next.FreePair rtpPort := by
        obtain ⟨rtpPort, member, isFree⟩ := available
        rcases List.mem_cons.mp member with rfl | behind
        · exact absurd isFree free
        · exact ⟨rtpPort, behind, (rejected.freePair_iff rtpPort).mpr isFree⟩
      obtain ⟨rtpPort, member, isFree, final, rtpHandle, rtcpHandle, requests, loop, reserved,
        inOrder⟩ := ih remaining
      refine ⟨rtpPort, List.mem_cons_of_mem _ member, (rejected.freePair_iff rtpPort).mp isFree,
        final, rtpHandle, rtcpHandle, asked ++ requests, ?_, rejected.reserved reserved, ?_⟩
      · unfold tryPairs
        rw [result]
        exact loop
      · exact few.append inOrder

private theorem tryPairs_of_taken (created : ∀ handle, creates handle = true) {sockets : Sockets}
    (taken : ∀ rtpPort ∈ ports, ¬ sockets.FreePair rtpPort) :
    ∃ final requests,
      tryPairs creates family exhausted ports sockets = (.error exhausted, final) ∧
      Rejected sockets final requests ∧ requests.Sublist (requestsOf ports) := by
  induction ports generalizing sockets with
  | nil =>
    exact ⟨sockets, [], rfl, .refl sockets, .refl _⟩
  | cons first later ih =>
    obtain ⟨next, asked, result, rejected, few⟩ :=
      tryPair_of_taken created (taken first List.mem_cons_self)
    have remaining : ∀ rtpPort ∈ later, ¬ next.FreePair rtpPort := by
      intro rtpPort member
      rw [rejected.freePair_iff]
      exact taken rtpPort (List.mem_cons_of_mem _ member)
    obtain ⟨final, requests, loop, rest, inOrder⟩ := ih remaining
    refine ⟨final, asked ++ requests, ?_, rejected.trans rest, few.append inOrder⟩
    unfold tryPairs
    rw [result]
    exact loop

theorem tryPairs_outcome {sockets final : Sockets} {result : Except String ReservedSocketPair}
    (loop : tryPairs creates family exhausted ports sockets = (result, final)) :
    (∃ pair requests, result = .ok pair ∧ sockets.FreePair pair.rtpPort ∧
      Reserved sockets final pair.rtpHandle pair.rtcpHandle pair.rtpPort requests) ∨
    ∃ failure requests, result = .error failure ∧ Rejected sockets final requests := by
  induction ports generalizing sockets with
  | nil =>
    cases loop
    exact .inr ⟨_, [], rfl, .refl _⟩
  | cons first later ih =>
    unfold tryPairs at loop
    cases round : tryPair creates first ((first + 1) % 65536) sockets with
    | mk attempt next =>
      rw [round] at loop
      rcases tryPair_outcome round with
        ⟨rtpHandle, rtcpHandle, requests, rfl, free, reserved⟩ | ⟨unreserved, asked, rejected⟩
      · cases loop
        exact .inl ⟨_, requests, rfl, free, reserved⟩
      · cases attempt with
        | error reason =>
          cases loop
          exact .inr ⟨reason, asked, rfl, rejected⟩
        | ok handles =>
          cases handles with
          | some pair => exact absurd rfl (unreserved pair)
          | none =>
            rcases ih loop with ⟨pair, requests, same, free, reserved⟩ |
              ⟨failure, requests, same, later⟩
            · exact .inl ⟨pair, asked ++ requests, same,
                (rejected.freePair_iff _).mp free, rejected.reserved reserved⟩
            · exact .inr ⟨failure, asked ++ requests, same, rejected.trans later⟩

end Loop

/-! ### The candidates of a range -/

section Range

variable {range : UInt16 × UInt16}

def InRange (range : UInt16 × UInt16) (rtpPort : Nat) : Prop :=
  rtpPort % 2 = 0 ∧ range.1.toNat ≤ rtpPort ∧ rtpPort + 1 ≤ range.2.toNat

def Accepted (range : UInt16 × UInt16) : Prop := range.1 ≠ 0 ∧ range.1 < range.2

private theorem accepted_bounds (accepted : Accepted range) :
    0 < range.1.toNat ∧ range.1.toNat < range.2.toNat ∧ range.2.toNat < 65536 := by
  obtain ⟨nonzero, ordered⟩ := accepted
  refine ⟨?_, UInt16.lt_iff_toNat_lt.mp ordered, range.2.toNat_lt⟩
  apply Nat.pos_of_ne_zero
  intro zero
  exact nonzero (UInt16.toNat_inj.mp zero)

theorem inRange_iff (accepted : Accepted range) {rtpPort : Nat} :
    InRange range rtpPort ↔
      rtpPort % 2 = 0 ∧ firstCandidate range ≤ rtpPort ∧ rtpPort ≤ lastCandidate range := by
  obtain ⟨positive, ordered, small⟩ := accepted_bounds accepted
  unfold InRange firstCandidate lastCandidate upperBound
  split <;> split <;> omega

theorem candidate_bounds (range : UInt16 × UInt16) :
    firstCandidate range % 2 = 0 ∧ lastCandidate range % 2 = 0 ∧ lastCandidate range < 65536 := by
  unfold firstCandidate lastCandidate upperBound
  split <;> split <;> omega

theorem candidates_eq (startIndex : Nat) :
    candidates range startIndex =
      (Circular.lap (pairCount range) startIndex).map
        (fun index => (firstCandidate range + index * 2) % 65536) := by
  unfold candidates Circular.lap
  rw [List.map_map]
  rfl

theorem mem_candidates_iff (accepted : Accepted range)
    (present : firstCandidate range ≤ lastCandidate range) {startIndex rtpPort : Nat} :
    rtpPort ∈ candidates range startIndex ↔ InRange range rtpPort := by
  obtain ⟨firstEven, lastEven, small⟩ := candidate_bounds range
  rw [candidates_eq, inRange_iff accepted, List.mem_map]
  constructor
  · rintro ⟨index, member, rfl⟩
    have bound := Circular.mem_lap_iff.mp member
    unfold pairCount at bound
    omega
  · rintro ⟨even, above, below⟩
    refine ⟨(rtpPort - firstCandidate range) / 2, Circular.mem_lap_iff.mpr ?_, ?_⟩
    · unfold pairCount
      omega
    · omega

private theorem candidates_nodup (present : firstCandidate range ≤ lastCandidate range)
    (startIndex : Nat) : (candidates range startIndex).Nodup := by
  obtain ⟨firstEven, lastEven, small⟩ := candidate_bounds range
  rw [candidates_eq]
  apply List.Nodup.map_on _ (Circular.nodup_lap _ _)
  intro left leftSlot right rightSlot same
  have leftBound := Circular.mem_lap_iff.mp leftSlot
  have rightBound := Circular.mem_lap_iff.mp rightSlot
  unfold pairCount at leftBound rightBound
  omega

private theorem requestsOf_nodup (distinct : ports.Nodup)
    (even : ∀ rtpPort ∈ ports, rtpPort % 2 = 0 ∧ rtpPort + 1 < 65536) :
    (requestsOf ports).Nodup := by
  unfold requestsOf
  rw [List.nodup_flatMap]
  constructor
  · intro rtpPort _
    simp [rtcpPort_ne rtpPort]
  · apply distinct.imp_of_mem
    intro left right leftIn rightIn different
    have leftEven := even left leftIn
    have rightEven := even right rightIn
    simp only [Function.onFun, List.disjoint_cons_left, List.mem_cons, List.not_mem_nil, or_false,
      List.disjoint_nil_left, and_true]
    omega

end Range

def FreePairIn (range : UInt16 × UInt16) (sockets : Sockets) (rtpPort : Nat) : Prop :=
  InRange range rtpPort ∧ sockets.isFree rtpPort = true ∧ sockets.isFree (rtpPort + 1) = true

section Reservation

variable {creates : Nat → Bool} {startIndex : Nat} {family : AddressFamily}
  {range : UInt16 × UInt16} {mediaKind : String} {sockets : Sockets}

theorem freePair_iff {rtpPort : Nat} (inRange : InRange range rtpPort) :
    sockets.FreePair rtpPort ↔ FreePairIn range sockets rtpPort := by
  have small : (rtpPort + 1) % 65536 = rtpPort + 1 := by
    have := range.2.toNat_lt
    have := inRange.2.2
    omega
  unfold Sockets.FreePair FreePairIn
  rw [small]
  exact (and_iff_right inRange).symm

theorem reserve_outcome {result : Except String ReservedSocketPair} {final : Sockets}
    (returned : reserveSocketPairInRange creates startIndex family range mediaKind sockets =
      (result, final)) :
    (∃ pair requests, result = .ok pair ∧ sockets.FreePair pair.rtpPort ∧
      Reserved sockets final pair.rtpHandle pair.rtcpHandle pair.rtpPort requests) ∨
    ∃ failure requests, result = .error failure ∧ Rejected sockets final requests := by
  unfold reserveSocketPairInRange at returned
  split at returned
  · cases returned
    exact .inr ⟨_, [], rfl, .refl sockets⟩
  · split at returned
    · cases returned
      exact .inr ⟨_, [], rfl, .refl sockets⟩
    · split at returned
      · cases returned
        exact .inr ⟨_, [], rfl, .refl sockets⟩
      · exact tryPairs_outcome _ _ returned

private theorem reserve_error_closes {failure : String} {final : Sockets}
    (thrown : reserveSocketPairInRange creates startIndex family range mediaKind sockets =
      (.error failure, final)) : final.opened = sockets.opened := by
  rcases reserve_outcome thrown with ⟨_, _, same, _⟩ | ⟨_, _, _, rejected⟩
  · cases same
  · exact rejected.opened

theorem reserve_of_accepted (supported : family = .inet ∨ family = .inet6)
    (accepted : Accepted range) :
    reserveSocketPairInRange creates startIndex family range mediaKind sockets =
      if firstCandidate range > lastCandidate range then
        (.error (noFreePair mediaKind range), sockets)
      else tryPairs creates family (noFreePair mediaKind range) (candidates range startIndex)
        sockets := by
  have known : ¬ (family ≠ .inet ∧ family ≠ .inet6) := by
    rintro ⟨notInet, notInet6⟩
    exact supported.elim notInet notInet6
  have ordered : ¬ (range.1 = 0 ∨ range.2 ≤ range.1) := by
    rintro (zero | reversed)
    · exact accepted.1 zero
    · exact absurd accepted.2 (UInt16.not_lt.mpr reversed)
  unfold reserveSocketPairInRange
  rw [if_neg known, if_neg ordered]

/-- A pair that was free is returned. Exactly its two sockets are opened, and they are
bound to its ports. -/
def Reserves (result : Except String ReservedSocketPair × Sockets) (range : UInt16 × UInt16)
    (before : Sockets) : Prop :=
  ∃ reserved, result.1 = .ok reserved ∧ FreePairIn range before reserved.rtpPort ∧
    reserved.rtcpPort = reserved.rtpPort + 1 ∧
    result.2.opened = before.opened ++ [⟨reserved.rtpHandle, some reserved.rtpPort⟩,
      ⟨reserved.rtcpHandle, some reserved.rtcpPort⟩]

/-- No port is asked for twice, so no candidate is tried twice. -/
def AsksOnce (before after : Sockets) : Prop :=
  ∃ requests, after.binds = before.binds ++ requests ∧ requests.Nodup

theorem requests_nodup (accepted : Accepted range)
    (present : firstCandidate range ≤ lastCandidate range) {requests : List Nat}
    (inOrder : requests.Sublist (requestsOf (candidates range startIndex))) : requests.Nodup := by
  apply inOrder.nodup
  apply requestsOf_nodup (candidates_nodup present startIndex)
  intro rtpPort member
  have inRange := (mem_candidates_iff accepted present).mp member
  have small := range.2.toNat_lt
  exact ⟨inRange.1, Nat.lt_of_le_of_lt inRange.2.2 small⟩

private theorem reserve_of_free (created : ∀ handle, creates handle = true)
    (supported : family = .inet ∨ family = .inet6) (accepted : Accepted range)
    (available : ∃ rtpPort, FreePairIn range sockets rtpPort) :
    Reserves (reserveSocketPairInRange creates startIndex family range mediaKind sockets) range
      sockets ∧
    AsksOnce sockets
      (reserveSocketPairInRange creates startIndex family range mediaKind sockets).2 := by
  obtain ⟨existing, free⟩ := available
  have present : firstCandidate range ≤ lastCandidate range := by
    obtain ⟨_, above, below⟩ := (inRange_iff accepted).mp free.1
    exact Nat.le_trans above below
  have candidate : existing ∈ candidates range startIndex :=
    (mem_candidates_iff accepted present).mpr free.1
  obtain ⟨rtpPort, member, isFree, final, rtpHandle, rtcpHandle, requests, loop, reserved,
    inOrder⟩ := tryPairs_of_free family (noFreePair mediaKind range) created
      ⟨existing, candidate, (freePair_iff free.1).mpr free⟩
  have inRange := (mem_candidates_iff accepted present).mp member
  have next : (rtpPort + 1) % 65536 = rtpPort + 1 := by
    have := range.2.toNat_lt
    have := inRange.2.2
    omega
  have opened := reserved.opened
  rw [next] at loop opened
  rw [reserve_of_accepted supported accepted, if_neg (Nat.not_lt.mpr present), loop]
  exact ⟨⟨_, rfl, (freePair_iff inRange).mp isFree, rfl, opened⟩, requests, reserved.binds,
    requests_nodup accepted present inOrder⟩

private theorem reserve_of_taken (created : ∀ handle, creates handle = true)
    (supported : family = .inet ∨ family = .inet6) (accepted : Accepted range)
    (taken : ¬ ∃ rtpPort, FreePairIn range sockets rtpPort) :
    (reserveSocketPairInRange creates startIndex family range mediaKind sockets).1 =
      .error (noFreePair mediaKind range) ∧
    AsksOnce sockets
      (reserveSocketPairInRange creates startIndex family range mediaKind sockets).2 := by
  rw [reserve_of_accepted supported accepted]
  by_cases absent : firstCandidate range > lastCandidate range
  · rw [if_pos absent]
    exact ⟨rfl, [], (List.append_nil _).symm, List.nodup_nil⟩
  · have present := Nat.not_lt.mp absent
    have allTaken : ∀ rtpPort ∈ candidates range startIndex, ¬ sockets.FreePair rtpPort := by
      intro rtpPort member free
      have inRange := (mem_candidates_iff accepted present).mp member
      exact taken ⟨rtpPort, (freePair_iff inRange).mp free⟩
    obtain ⟨final, requests, loop, rejected, inOrder⟩ :=
      tryPairs_of_taken family (noFreePair mediaKind range) created allTaken
    rw [if_neg absent, loop]
    exact ⟨rfl, requests, rejected.binds, requests_nodup accepted present inOrder⟩

end Reservation

/-- The reservation finds a free pair of the range if there is one and throws
otherwise, tries no candidate twice and leaves nothing else open. -/
theorem reserveSocketPairInRange_complete (creates : Nat → Bool)
    (created : ∀ handle, creates handle = true) (startIndex : Nat) (family : AddressFamily)
    (supported : family = .inet ∨ family = .inet6) (range : UInt16 × UInt16)
    (accepted : Accepted range) (mediaKind : String) (sockets : Sockets) :
    ((∃ rtpPort, FreePairIn range sockets rtpPort) →
      Reserves (reserveSocketPairInRange creates startIndex family range mediaKind sockets) range
        sockets) ∧
    ((¬ ∃ rtpPort, FreePairIn range sockets rtpPort) →
      (reserveSocketPairInRange creates startIndex family range mediaKind sockets).1 =
        .error (noFreePair mediaKind range) ∧
      (reserveSocketPairInRange creates startIndex family range mediaKind sockets).2.opened =
        sockets.opened) ∧
    AsksOnce sockets
      (reserveSocketPairInRange creates startIndex family range mediaKind sockets).2 := by
  by_cases available : ∃ rtpPort, FreePairIn range sockets rtpPort
  · obtain ⟨reserves, once⟩ := reserve_of_free created supported accepted available
    exact ⟨fun _ => reserves, fun taken => absurd available taken, once⟩
  · obtain ⟨thrown, once⟩ := reserve_of_taken created supported accepted available
    exact ⟨fun free => absurd free available,
      fun _ => ⟨thrown, reserve_error_closes (Prod.ext thrown rfl)⟩, once⟩

def quietSockets : Sockets :=
  { busy := fun port => decide (port = 5002)
    opened := []
    nextHandle := 3
    binds := []
    fresh := nofun }

theorem reservation_finds_remaining_pair :
    Reserves (reserveSocketPairInRange (fun _ => true) 0 .inet (5001, 5005) "audio" quietSockets)
      (5001, 5005) quietSockets :=
  (reserveSocketPairInRange_complete (fun _ => true) (fun _ => rfl) 0 .inet (Or.inl rfl)
    (5001, 5005) ⟨by decide, by decide⟩ "audio" quietSockets).1
    ⟨5004, ⟨by decide, by decide, by decide⟩, by decide, by decide⟩

end SipCore.Rtp
