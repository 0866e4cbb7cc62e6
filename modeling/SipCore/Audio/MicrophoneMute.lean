/-
What a call hears of its own muted microphone. While it is muted, the filter of the
pool drops one captured frame for each read. Every put is stamped with the time it was
made, and a mix carries the stamps of its parts.
-/

import SipCore.Audio.PoolData

namespace SipCore

variable {β : Type}

structure Traced (β : Type) where
  frame : β
  origins : List Nat
deriving DecidableEq, Repr

def Mixer.traced (mixer : Mixer β) : Mixer (Traced β) :=
  { blank := ⟨mixer.blank, []⟩
    mix := fun mixBuffer frame =>
      (mixer.mix mixBuffer.frame frame.frame).map
        (fun mixture => ⟨mixture, mixBuffer.origins ++ frame.origins⟩) }

theorem Mixer.traced_keeps (mixer : Mixer β) (admissible : Nat → Prop) :
    mixer.traced.Keeps (fun frame => ∀ origin ∈ frame.origins, admissible origin) := by
  constructor
  · intro origin member
    cases member
  · intro mixBuffer frame mixture first second mixes
    change (mixer.mix mixBuffer.frame frame.frame).map _ = .ok mixture at mixes
    cases result : mixer.mix mixBuffer.frame frame.frame with
    | error message =>
      rw [result] at mixes
      cases mixes
    | ok sum =>
      rw [result] at mixes
      cases mixes
      intro origin member
      rcases List.mem_append.mp member with left | right
      · exact first origin left
      · exact second origin right

variable {ring : RingBuffer (Traced β)}

variable {id : String}

/-- A run of the pool as one call hears it: the captures made since its
microphone was muted, and those of mutes that are over. -/
structure Recording (β : Type) where
  pool : RingBufferPool (Traced β)
  time : Nat
  underMute : List Nat
  stale : List Nat

namespace Recording

open RingBufferPool RingBuffer

def start : Recording β :=
  { pool := RingBufferPool.create
    time := 0
    underMute := []
    stale := [] }

def step (mixer : Mixer β) (callId : String) (recording : Recording β) (operation : Operation β) :
    Recording β :=
  { pool := recording.pool.step mixer.traced (operation.map (fun frame => ⟨frame, [recording.time]⟩))
    time := recording.time + 1
    underMute :=
      match operation with
      | .put id _ =>
        if id = defaultId ∧ recording.pool.isMicMuted callId = true then
          recording.time :: recording.underMute
        else recording.underMute
      | .setMicMuted id false => if id = callId then [] else recording.underMute
      | _ => recording.underMute
    stale :=
      match operation with
      | .setMicMuted id false =>
        if id = callId then recording.underMute ++ recording.stale else recording.stale
      | _ => recording.stale }

/-- What `getData` gives the call holds nothing captured under a mute that is over. -/
def KeepsMutedOut (mixer : Mixer β) (callId : String) (recording : Recording β)
    (operation : Operation β) : Prop :=
  operation = .getData callId → ∀ frame,
    (recording.pool.getData mixer.traced callId).1 = .ok (some frame) →
      ∀ origin ∈ frame.origins, origin ∉ recording.stale

def captureWaiting (pool : RingBufferPool (Traced β)) (callId : String) : Nat :=
  match pool.ringBufferMap.find? defaultId with
  | none => 0
  | some ring => if ring.hasThisReadOffset callId then ring.availableForGet callId else 0

/-- A mute is lifted only if nothing was captured under it, or all that was
captured has been read. -/
def UnmutesCaughtUp (callId : String) (recording : Recording β) (operation : Operation β) : Prop :=
  operation = .setMicMuted callId false →
    recording.underMute = [] ∨ captureWaiting recording.pool callId = 0

/-! ### The invariant -/

/-- What one buffer may hold. The call may have queued captures in front of it,
under the present mute too, but none of an earlier mute. No other buffer holds a
capture at all. -/
def RingClean (callId : String) (time : Nat) (underMute stale : List Nat) (id : String)
    (ring : RingBuffer (Traced β)) : Prop :=
  if id = defaultId then
    Unread defaultSlots (fun frame => ∀ origin ∈ frame.origins, origin < time ∧ origin ∉ stale)
      callId ring
  else
    Written (fun frame =>
      ∀ origin ∈ frame.origins, origin < time ∧ origin ∉ underMute ∧ origin ∉ stale) ring

structure Clean (callId : String) (recording : Recording β) : Prop where
  rings : EachRing (RingClean callId recording.time recording.underMute recording.stale)
    recording.pool
  past : ∀ origin, origin ∈ recording.underMute ∨ origin ∈ recording.stale →
    origin < recording.time

section Rings

variable {callId : String} {time : Nat} {underMute stale : List Nat}

theorem ringClean_create (id : String) :
    RingClean callId time underMute stale id
      (RingBuffer.create defaultSlots : RingBuffer (Traced β)) := by
  unfold RingClean
  split
  · exact .create (by decide)
  · exact Written.create _

theorem RingClean.apply (op : RingBuffer.Op (Traced β)) (reads : op.isPut = false)
    (clean : RingClean callId time underMute stale id ring) :
    RingClean callId time underMute stale id (ring.apply op) := by
  unfold RingClean at clean ⊢
  split
  · rename_i capture
    rw [if_pos capture] at clean
    exact clean.apply reads
  · rename_i other
    rw [if_neg other] at clean
    exact clean.apply reads

theorem RingClean.get (clean : RingClean callId time underMute stale id ring) {frame : Traced β}
    (got : (ring.get callId).1 = some frame) : ∀ origin ∈ frame.origins, origin ∉ stale := by
  unfold RingClean at clean
  intro origin member
  split at clean
  · exact (clean.get got origin member).2
  · exact (clean.get got origin member).2.2

theorem RingClean.later (clean : RingClean callId time underMute stale id ring) {noted : List Nat}
    (sublist : ∀ origin ∈ noted, origin = time ∨ origin ∈ underMute) :
    RingClean callId (time + 1) noted stale id ring := by
  unfold RingClean at clean ⊢
  split
  · rename_i capture
    rw [if_pos capture] at clean
    refine clean.mono ?_
    intro frame fits origin member
    exact ⟨Nat.lt_succ_of_lt (fits origin member).1, (fits origin member).2⟩
  · rename_i other
    rw [if_neg other] at clean
    refine clean.mono ?_
    intro frame fits origin member
    obtain ⟨before, notMuted, notStale⟩ := fits origin member
    refine ⟨Nat.lt_succ_of_lt before, ?_, notStale⟩
    intro listed
    rcases sublist origin listed with now | already
    · omega
    · exact notMuted already

end Rings

variable {mixer : Mixer β} {callId : String} {recording : Recording β}

private theorem clean_start : Clean callId (start : Recording β) := by
  constructor
  · exact EachRing.create ringClean_create
  · intro origin member
    rcases member with muted | stale
    · cases muted
    · cases stale

section

variable (clean : Clean callId recording)
include clean

theorem Clean.quiet (operation : Operation β) (noPut : ∀ id frame, operation ≠ .put id frame)
    (underMute : (recording.step mixer callId operation).underMute = recording.underMute)
    (stale : (recording.step mixer callId operation).stale = recording.stale) :
    Clean callId (recording.step mixer callId operation) := by
  have noStampedPut : ∀ id frame,
      operation.map (fun frame => (⟨frame, [recording.time]⟩ : Traced β)) ≠ .put id frame := by
    intro id frame equal
    cases operation with
    | put name original => exact noPut name original rfl
    | _ => cases equal
  have kept := clean.rings.step mixer.traced ringClean_create
    (fun id ring op reads holds => RingClean.apply op reads holds) _ noStampedPut
  constructor
  · rw [underMute, stale]
    exact kept.mono (fun id ring holds => holds.later (fun origin member => .inr member))
  · rw [underMute, stale]
    intro origin member
    exact Nat.lt_succ_of_lt (clean.past origin member)

theorem Clean.put (id : String) (frame : β) :
    Clean callId (recording.step mixer callId (.put id frame)) := by
  have noted : ∀ origin ∈ (recording.step mixer callId (.put id frame)).underMute,
      origin = recording.time ∧ id = defaultId ∨ origin ∈ recording.underMute := by
    intro origin member
    simp only [step] at member
    split at member
    · rename_i capture
      rcases List.mem_cons.mp member with now | before
      · exact .inl ⟨now, capture.1⟩
      · exact .inr before
    · exact .inr member
  have now : recording.time ∉ recording.underMute ∧ recording.time ∉ recording.stale :=
    ⟨fun member => Nat.lt_irrefl _ (clean.past _ (Or.inl member)),
      fun member => Nat.lt_irrefl _ (clean.past _ (Or.inr member))⟩
  constructor
  · have older : EachRing (RingClean callId (recording.time + 1)
        (recording.step mixer callId (.put id frame)).underMute recording.stale) recording.pool :=
      clean.rings.mono (fun name ring holds =>
        holds.later (fun origin member => (noted origin member).imp_left And.left))
    apply older.modified
    intro ring holds
    unfold RingClean at holds ⊢
    split
    · rename_i capture
      rw [if_pos capture] at holds
      apply holds.put
      intro origin member
      rw [List.mem_singleton.mp member]
      exact ⟨Nat.lt_succ_self _, now.2⟩
    · rename_i other
      rw [if_neg other] at holds
      apply holds.put
      intro origin member
      rw [List.mem_singleton.mp member]
      refine ⟨Nat.lt_succ_self _, ?_, now.2⟩
      intro listed
      rcases noted _ listed with ⟨_, capture⟩ | before
      · exact other capture
      · exact now.1 before
  · intro origin member
    change origin < recording.time + 1
    rcases member with muted | stale
    · rcases noted origin muted with ⟨same, _⟩ | before
      · omega
      · exact Nat.lt_succ_of_lt (clean.past origin (.inl before))
    · exact Nat.lt_succ_of_lt (clean.past origin (.inr stale))

theorem Clean.unmute
    (caughtUp : recording.underMute = [] ∨ captureWaiting recording.pool callId = 0) :
    Clean callId (recording.step mixer callId (.setMicMuted callId false)) := by
  have underMute : (recording.step mixer callId (.setMicMuted callId false)).underMute = [] :=
    if_pos rfl
  have stale : (recording.step mixer callId (.setMicMuted callId false)).stale =
      recording.underMute ++ recording.stale := if_pos rfl
  constructor
  · rw [underMute, stale]
    intro id ring found
    have holds := clean.rings id ring found
    suffices cleaned : RingClean callId recording.time [] (recording.underMute ++ recording.stale)
        id ring by
      exact cleaned.later (fun origin member => .inr member)
    unfold RingClean at holds ⊢
    split
    · rename_i capture
      rw [if_pos capture] at holds
      rcases caughtUp with nothing | drained
      · rw [nothing]
        exact holds
      · -- nothing is queued, so nothing queued is stale
        apply holds.of_caughtUp
        have present : recording.pool.ringBufferMap.find? defaultId = some ring := by
          rw [← capture]
          exact found
        unfold captureWaiting at drained
        simp only [present] at drained
        split at drained
        · exact .inr drained
        · rename_i missing
          exact .inl (Bool.eq_false_of_not_eq_true missing)
    · rename_i other
      rw [if_neg other] at holds
      refine holds.mono ?_
      intro frame fits origin member
      obtain ⟨before, notMuted, notStale⟩ := fits origin member
      refine ⟨before, List.not_mem_nil, ?_⟩
      intro listed
      exact (List.mem_append.mp listed).elim notMuted notStale
  · rw [underMute, stale]
    intro origin member
    rcases member with muted | listed
    · cases muted
    · exact Nat.lt_succ_of_lt (clean.past origin (List.mem_append.mp listed))

theorem Clean.step (operation : Operation β) (guard : UnmutesCaughtUp callId recording operation) :
    Clean callId (recording.step mixer callId operation) := by
  cases operation with
  | put id frame => exact clean.put id frame
  | setMicMuted id muted =>
    cases muted with
    | true => exact clean.quiet _ nofun rfl rfl
    | false =>
      by_cases mine : id = callId
      · subst id
        exact clean.unmute (guard rfl)
      · exact clean.quiet _ nofun (if_neg mine) (if_neg mine)
  | _ => exact clean.quiet _ nofun rfl rfl

theorem Clean.keepsMutedOut (operation : Operation β) :
    KeepsMutedOut mixer callId recording operation := by
  intro _ frame result
  apply getData_good _ _ (mixer.traced_keeps (fun origin => origin ∉ recording.stale)) clean.rings
    result
  · intro pool rbuf each
    exact each.getFrom (fun id ring holds => .apply (.get callId) rfl holds) rbuf
  · intro pool rbuf frame each read
    exact each.getFrom_good (fun ring frame holds got => RingClean.get holds got) read

end

/-- If every unmute of the call finds it caught up, no read of it ever returns a
frame that was captured under an earlier mute. -/
theorem muted_capture_unheard_of_guarded (mixer : Mixer β) (callId : String)
    (operations : List (Operation β))
    (guarded : Run.Guarded (step mixer callId) (UnmutesCaughtUp callId) start operations) :
    Run.Guarded (step mixer callId) (KeepsMutedOut mixer callId) start operations :=
  Run.guarded_of_invariant (fun _ operation clean guard => clean.step operation guard)
    (fun _ operation clean _ => clean.keepsMutedOut operation) clean_start guarded

/-- A capture under mute that the call read and lost, and one after the mute that
it gets. -/
theorem muted_capture_unheard_after_read :
    Run.Guarded (step ⟨0, fun sum frame => .ok (sum + frame)⟩ "call")
      (KeepsMutedOut ⟨0, fun sum frame => .ok (sum + frame)⟩ "call") (start : Recording Nat)
      [.createRingBuffer "call", .bindHalfDuplexOut "call" defaultId, .setMicMuted "call" true,
        .put defaultId 5, .getData "call", .setMicMuted "call" false, .put defaultId 6,
        .getData "call"] := by
  apply muted_capture_unheard_of_guarded
  refine ⟨nofun, nofun, nofun, nofun, nofun, ?_, nofun, nofun, trivial⟩
  intro _
  decide

/-- Nobody reads between the capture and the end of the mute. -/
theorem muted_capture_heard_after_unmute :
    ¬ Run.Guarded (step ⟨0, fun sum frame => .ok (sum + frame)⟩ "call")
      (KeepsMutedOut ⟨0, fun sum frame => .ok (sum + frame)⟩ "call") (start : Recording Nat)
      [.createRingBuffer "call", .bindHalfDuplexOut "call" defaultId, .setMicMuted "call" true,
        .put defaultId 5, .setMicMuted "call" false, .getData "call"] := by
  rintro ⟨_, _, _, _, _, unheard, _⟩
  exact unheard rfl ⟨5, [3]⟩ (by decide) 3 (by decide) (by decide)

end Recording

end SipCore
