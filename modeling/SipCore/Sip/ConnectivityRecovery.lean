/-
The recovery of the transport of an account after a change of the network. A prepare
resets the transport at once and raises flags, a dispatch queues the recovery proper for
the main thread, and a failure of the transport queues one too. All run on any threads,
so the machine takes one operation on the atomic flags a step.
-/

import Mathlib.Data.List.Basic
import SipCore.Library.GuardedRun

namespace SipCore

def transportRecoveryDebounceMs : Int := 1500

/-- What the functions ask about the account, the link and the registration. -/
structure RecoveryCircumstances where
  isUsable : Bool
  isShuttingDown : Bool
  hasBroker : Bool
  hasEndpoint : Bool
  shouldHandleConnectivityChange : Bool
  deriving DecidableEq, Repr

namespace RecoveryCircumstances

def accepts (circumstances : RecoveryCircumstances) : Bool :=
  circumstances.isUsable && !circumstances.isShuttingDown

def recovers (circumstances : RecoveryCircumstances) : Bool :=
  circumstances.accepts && circumstances.hasBroker && circumstances.hasEndpoint

/-- Usable and not shutting down, with a broker and an endpoint, and eligible for a
forced recovery. -/
def Favourable (circumstances : RecoveryCircumstances) : Prop :=
  circumstances.recovers = true ∧ circumstances.shouldHandleConnectivityChange = true

end RecoveryCircumstances

inductive PreparePhase where
  | requested
  | inProgress
  | resetDone
  deriving DecidableEq, Repr

inductive SchedulePhase where
  | debounce
  | exchange
  | stamp
  | run
  deriving DecidableEq, Repr

/-- A call in progress. A scheduling call has read the clock; a dispatch, which is not
debounced, follows the prepares that had ended when it began, other calls follow none. -/
inductive RecoveryCall where
  | prepare (phase : PreparePhase)
  | schedule (phase : SchedulePhase) (debounced : Bool) (nowMs : Int) (follows : Nat)
  deriving DecidableEq, Repr

/-- What the main thread does next in `recoverTransport`. In the last phase it has called
`handleConnectivityChangedForced`. -/
inductive MainPhase where
  | idle
  | inProgress
  | requested
  | resetDone
  | ended
  | pending
  | forced
  deriving DecidableEq, Repr

variable {position : Nat}

/-- The flags of the account, the calls in progress, with those marked that the main
thread waits for, and the recoveries in the queue of the main thread. Of the prepares it
is counted how many have ended, how many of these a dispatch followed that has ended too,
and how many had ended when a recovery last started. -/
structure ConnectivityRecovery where
  clockMs : Int
  transportRecoveryPending : Bool := false
  connectivityRecoveryRequested : Bool := false
  connectivityRecoveryInProgress : Bool := false
  prepareTransportResetDone : Bool := false
  lastTransportRecoveryMs : Int := 0
  calls : List (RecoveryCall × Bool) := []
  queued : Nat := 0
  main : MainPhase := .idle
  prepared : Nat := 0
  dispatched : Nat := 0
  recovered : Nat := 0
  deriving DecidableEq, Repr

namespace ConnectivityRecovery

def schedule (recovery : ConnectivityRecovery) (debounced : Bool) : RecoveryCall :=
  .schedule .debounce debounced recovery.clockMs (if debounced then 0 else recovery.prepared)

def began (recovery : ConnectivityRecovery) (call : RecoveryCall) (forced : Bool) :
    ConnectivityRecovery :=
  { recovery with calls := recovery.calls ++ [(call, forced)] }

def continued (recovery : ConnectivityRecovery) (position : Nat) (call : RecoveryCall)
    (forced : Bool) : ConnectivityRecovery :=
  { recovery with calls := recovery.calls.set position (call, forced) }

def ended (recovery : ConnectivityRecovery) (position follows : Nat) (forced : Bool) :
    ConnectivityRecovery :=
  { recovery with
    calls := recovery.calls.eraseIdx position
    dispatched := max recovery.dispatched follows
    main := if forced then .idle else recovery.main }

/-- A prepare that is not forced returns; a forced one is followed by a dispatch. -/
def endedPrepare (recovery : ConnectivityRecovery) (position : Nat) (forced : Bool) :
    ConnectivityRecovery :=
  if forced then recovery.continued position (recovery.schedule false) true
  else { recovery with calls := recovery.calls.eraseIdx position }

def advancePrepare (recovery : ConnectivityRecovery) (position : Nat) (forced : Bool) :
    PreparePhase → ConnectivityRecovery
  | .requested =>
    continued { recovery with connectivityRecoveryRequested := true } position
      (.prepare .inProgress) forced
  | .inProgress =>
    continued { recovery with connectivityRecoveryInProgress := true } position
      (.prepare .resetDone) forced
  | .resetDone =>
    endedPrepare
      { recovery with prepareTransportResetDone := true, prepared := recovery.prepared + 1 }
      position forced

def advanceSchedule (recovery : ConnectivityRecovery) (position : Nat) (forced debounced : Bool)
    (nowMs : Int) (follows : Nat) : SchedulePhase → ConnectivityRecovery
  | .debounce =>
    if debounced && decide (recovery.lastTransportRecoveryMs > 0) &&
        decide (nowMs - recovery.lastTransportRecoveryMs < transportRecoveryDebounceMs) then
      recovery.ended position 0 forced
    else recovery.continued position (.schedule .exchange debounced nowMs follows) forced
  | .exchange =>
    if recovery.transportRecoveryPending then recovery.ended position follows forced
    else
      continued { recovery with transportRecoveryPending := true } position
        (.schedule .stamp debounced nowMs follows) forced
  | .stamp =>
    continued { recovery with lastTransportRecoveryMs := nowMs } position
      (.schedule .run debounced nowMs follows) forced
  | .run => ended { recovery with queued := recovery.queued + 1 } position follows forced

def advance (recovery : ConnectivityRecovery) (position : Nat) : ConnectivityRecovery :=
  match recovery.calls[position]? with
  | none => recovery
  | some (.prepare phase, forced) => recovery.advancePrepare position forced phase
  | some (.schedule phase debounced nowMs follows, forced) =>
    recovery.advanceSchedule position forced debounced nowMs follows phase

/-- One operation of the main thread. Whether the switch of the transport succeeds makes no
difference to the flags: the recovery is no longer in progress, and a request that came
meanwhile is taken up. -/
def recoverTransport (circumstances : RecoveryCircumstances) (recovery : ConnectivityRecovery) :
    ConnectivityRecovery :=
  match recovery.main with
  | .idle =>
    if recovery.queued = 0 then recovery
    else if recovery.transportRecoveryPending then
      { recovery with
        queued := recovery.queued - 1
        transportRecoveryPending := false
        recovered := recovery.prepared
        main := .inProgress }
    else { recovery with queued := recovery.queued - 1 }
  | .inProgress => { recovery with connectivityRecoveryInProgress := true, main := .requested }
  | .requested =>
    if circumstances.recovers then
      { recovery with connectivityRecoveryRequested := false, main := .resetDone }
    else
      { recovery with
        connectivityRecoveryRequested := false
        connectivityRecoveryInProgress := false
        main := .idle }
  | .resetDone => { recovery with prepareTransportResetDone := false, main := .ended }
  | .ended => { recovery with connectivityRecoveryInProgress := false, main := .pending }
  | .pending =>
    if circumstances.accepts && recovery.connectivityRecoveryRequested then
      if circumstances.shouldHandleConnectivityChange then
        began { recovery with connectivityRecoveryRequested := false, main := .forced }
          (.prepare .requested) true
      else { recovery with connectivityRecoveryRequested := false, main := .idle }
    else { recovery with main := .idle }
  | .forced => recovery

inductive RecoveryStep where
  | tick (elapsedMs : Nat)
  | prepareConnectivityRecovery
  | dispatchPreparedConnectivityRecovery
  | scheduleTransportRecovery
  | advance (position : Nat)
  | recoverTransport
  deriving DecidableEq, Repr

def step (circumstances : RecoveryCircumstances) (recovery : ConnectivityRecovery) :
    RecoveryStep → ConnectivityRecovery
  | .tick elapsedMs => { recovery with clockMs := recovery.clockMs + elapsedMs }
  | .prepareConnectivityRecovery =>
    if circumstances.accepts then recovery.began (.prepare .requested) false else recovery
  | .dispatchPreparedConnectivityRecovery =>
    if circumstances.accepts then recovery.began (recovery.schedule false) false else recovery
  | .scheduleTransportRecovery =>
    if circumstances.accepts then recovery.began (recovery.schedule true) false else recovery
  | .advance position => recovery.advance position
  | .recoverTransport => recovery.recoverTransport circumstances

def isPrepare : RecoveryCall → Bool
  | .prepare _ => true
  | .schedule .. => false

def hasClaim : RecoveryCall → Bool
  | .schedule .stamp .. | .schedule .run .. => true
  | _ => false

def follows : RecoveryCall → Nat
  | .prepare _ => 0
  | .schedule _ _ _ follows => follows

def Preparing (calls : List (RecoveryCall × Bool)) : Prop :=
  ∃ call ∈ calls, isPrepare call.1 = true

/-- No prepare is in progress, and each has been followed by a dispatch that has ended. -/
def AllDispatched (recovery : ConnectivityRecovery) : Prop :=
  ¬ Preparing recovery.calls ∧ recovery.dispatched = recovery.prepared

def NothingQueued (recovery : ConnectivityRecovery) : Prop :=
  recovery.main = .idle ∧ recovery.queued = 0 ∧
    ∀ call ∈ recovery.calls, hasClaim call.1 = false

/-- The flags are down, and since each prepare ended a recovery has started. -/
structure Settled (recovery : ConnectivityRecovery) : Prop where
  requested : recovery.connectivityRecoveryRequested = false
  inProgress : recovery.connectivityRecoveryInProgress = false
  resetDone : recovery.prepareTransportResetDone = false
  recovered : recovery.recovered = recovery.prepared

def Promised (recovery : ConnectivityRecovery) : Prop :=
  recovery.AllDispatched → recovery.NothingQueued → recovery.Settled

/-! ### The invariant -/

def claims (calls : List (RecoveryCall × Bool)) : Nat := calls.countP (fun call => hasClaim call.1)

def forcedCalls (calls : List (RecoveryCall × Bool)) : Nat := calls.countP (fun call => call.2)

/-- The flag stands for the one recovery that is queued or about to be. A flag that a
prepare raised is up only as long as the prepare, or a recovery that will take it down,
is still to come or has not yet come to it. -/
structure Sound (recovery : ConnectivityRecovery) : Prop where
  claimed : recovery.queued + claims recovery.calls =
    if recovery.transportRecoveryPending then 1 else 0
  forced : forcedCalls recovery.calls = if recovery.main = .forced then 1 else 0
  follows_le : ∀ call ∈ recovery.calls, follows call.1 ≤ recovery.prepared
  dispatched_le : recovery.dispatched ≤ recovery.prepared
  recovered_le : recovery.recovered ≤ recovery.prepared
  coming : recovery.transportRecoveryPending = false → recovery.dispatched ≤ recovery.recovered
  requested : recovery.connectivityRecoveryRequested = true →
    Preparing recovery.calls ∨ recovery.recovered < recovery.prepared ∨
      recovery.main ∈ [.inProgress, .requested]
  inProgress : recovery.connectivityRecoveryInProgress = true →
    Preparing recovery.calls ∨ recovery.recovered < recovery.prepared ∨
      recovery.main ∈ [.inProgress, .requested, .resetDone, .ended]
  resetDone : recovery.prepareTransportResetDone = true →
    recovery.recovered < recovery.prepared ∨
      recovery.main ∈ [.inProgress, .requested, .resetDone]

section Past

variable {recovery : ConnectivityRecovery} (sound : recovery.Sound)

include sound

theorem Sound.no_forced (apart : recovery.main ≠ .forced) : forcedCalls recovery.calls = 0 := by
  rw [sound.forced, if_neg apart]

theorem Sound.requested_past (past : recovery.main ∉ [.inProgress, .requested])
    (raised : recovery.connectivityRecoveryRequested = true) :
    Preparing recovery.calls ∨ recovery.recovered < recovery.prepared :=
  (sound.requested raised).imp_right (fun later => later.resolve_right past)

theorem Sound.inProgress_past (past : recovery.main ∉ [.inProgress, .requested, .resetDone, .ended])
    (raised : recovery.connectivityRecoveryInProgress = true) :
    Preparing recovery.calls ∨ recovery.recovered < recovery.prepared :=
  (sound.inProgress raised).imp_right (fun later => later.resolve_right past)

theorem Sound.resetDone_past (past : recovery.main ∉ [.inProgress, .requested, .resetDone])
    (raised : recovery.prepareTransportResetDone = true) :
    recovery.recovered < recovery.prepared :=
  (sound.resetDone raised).resolve_right past

end Past

theorem Sound.promised {recovery : ConnectivityRecovery} (sound : recovery.Sound) :
    recovery.Promised := by
  intro allDispatched nothingQueued
  obtain ⟨notPreparing, followed⟩ := allDispatched
  obtain ⟨idle, empty, unclaimed⟩ := nothingQueued
  have noClaim : claims recovery.calls = 0 := by
    rw [claims, List.countP_eq_zero]
    intro call member
    rw [unclaimed call member]
    exact Bool.false_ne_true
  have notPending : recovery.transportRecoveryPending = false := by
    have claimed := sound.claimed
    rw [empty, noClaim] at claimed
    cases pending : recovery.transportRecoveryPending with
    | false => rfl
    | true =>
      rw [pending] at claimed
      cases claimed
  have recovered : recovery.recovered = recovery.prepared :=
    Nat.le_antisymm sound.recovered_le (followed ▸ sound.coming notPending)
  have caughtUp : ¬ recovery.recovered < recovery.prepared :=
    Nat.not_lt.mpr (Nat.le_of_eq recovered.symm)
  refine ⟨?_, ?_, ?_, recovered⟩
  · rw [← Bool.not_eq_true]
    intro raised
    exact (sound.requested_past (by simp [idle]) raised).elim notPreparing caughtUp
  · rw [← Bool.not_eq_true]
    intro raised
    exact (sound.inProgress_past (by simp [idle]) raised).elim notPreparing caughtUp
  · rw [← Bool.not_eq_true]
    intro raised
    exact caughtUp (sound.resetDone_past (by simp [idle]) raised)

section Calls

variable {call : RecoveryCall × Bool} {calls rest : List (RecoveryCall × Bool)}

section

variable (call : RecoveryCall × Bool) (rest : List (RecoveryCall × Bool))

@[simp] theorem claims_cons :
    claims (call :: rest) = claims rest + if hasClaim call.1 then 1 else 0 := List.countP_cons

@[simp] theorem forcedCalls_cons :
    forcedCalls (call :: rest) = forcedCalls rest + if call.2 then 1 else 0 := List.countP_cons

@[simp] theorem preparing_cons :
    Preparing (call :: rest) ↔ isPrepare call.1 = true ∨ Preparing rest := by
  simp [Preparing]

end

theorem preparing_rest (schedules : ¬ isPrepare call.1 = true)
    (preparing : Preparing (call :: rest)) : Preparing rest :=
  ((preparing_cons call rest).mp preparing).resolve_left schedules

theorem Sound.of_perm (recovery : ConnectivityRecovery) (perm : recovery.calls.Perm calls)
    (sound : recovery.Sound) : Sound { recovery with calls := calls } := by
  have claimsEq : claims calls = claims recovery.calls := perm.symm.countP_eq _
  have forcedEq : forcedCalls calls = forcedCalls recovery.calls := perm.symm.countP_eq _
  have preparing : Preparing recovery.calls → Preparing calls := by
    intro ⟨call, member, isPrepare⟩
    exact ⟨call, perm.mem_iff.mp member, isPrepare⟩
  exact
    { claimed := by rw [claimsEq]; exact sound.claimed
      forced := by rw [forcedEq]; exact sound.forced
      follows_le := fun call member => sound.follows_le call (perm.mem_iff.mpr member)
      dispatched_le := sound.dispatched_le
      recovered_le := sound.recovered_le
      coming := sound.coming
      requested := fun raised => (sound.requested raised).imp_left preparing
      inProgress := fun raised => (sound.inProgress raised).imp_left preparing
      resetDone := sound.resetDone }

theorem exists_rest (found : calls[position]? = some call) :
    ∃ rest, calls.Perm (call :: rest) ∧ (∀ other, (calls.set position other).Perm (other :: rest)) ∧
      (calls.eraseIdx position).Perm rest := by
  induction calls generalizing position with
  | nil => cases found
  | cons head tail ih =>
    cases position with
    | zero =>
      rw [List.getElem?_cons_zero, Option.some.injEq] at found
      subst found
      exact ⟨tail, .refl _, fun _ => .refl _, .refl _⟩
    | succ position =>
      obtain ⟨rest, split, replaced, erased⟩ := ih found
      exact ⟨head :: rest, (split.cons head).trans (.swap _ _ _),
        fun other => ((replaced other).cons head).trans (List.Perm.swap _ _ _),
        erased.cons head⟩

end Calls

section Operations

variable {recovery : ConnectivityRecovery} {rest : List (RecoveryCall × Bool)} {forced : Bool}

private theorem sound_prepare_continued {phase : PreparePhase} (next : PreparePhase)
    (requested inProgress : Bool)
    (sound : Sound { recovery with calls := (.prepare phase, forced) :: rest }) :
    Sound { recovery with
      connectivityRecoveryRequested := requested
      connectivityRecoveryInProgress := inProgress
      calls := (.prepare next, forced) :: rest } where
  claimed := sound.claimed
  forced := sound.forced
  follows_le :=
    List.forall_mem_cons.mpr ⟨Nat.zero_le _, (List.forall_mem_cons.mp sound.follows_le).2⟩
  dispatched_le := sound.dispatched_le
  recovered_le := sound.recovered_le
  coming := sound.coming
  requested := fun _ => Or.inl ((preparing_cons _ _).mpr (Or.inl rfl))
  inProgress := fun _ => Or.inl ((preparing_cons _ _).mpr (Or.inl rfl))
  resetDone := sound.resetDone

/-- Once a prepare has ended, a recovery that starts is still to come. What takes the
place of the prepare, if anything, has no claim. -/
theorem sound_prepare_resetDone (others : List (RecoveryCall × Bool))
    (sound : Sound { recovery with calls := (.prepare .resetDone, forced) :: rest })
    (unclaimed : claims others = claims rest)
    (sameForced : forcedCalls others = forcedCalls rest + if forced then 1 else 0)
    (bounded : ∀ call ∈ others, call ∈ rest ∨ follows call.1 ≤ recovery.prepared + 1) :
    Sound { recovery with
      prepareTransportResetDone := true
      prepared := recovery.prepared + 1
      calls := others } := by
  have behind : recovery.recovered < recovery.prepared + 1 := Nat.lt_succ_of_le sound.recovered_le
  exact
    { claimed := by rw [unclaimed]; exact sound.claimed
      forced := sameForced.trans ((forcedCalls_cons _ rest).symm.trans sound.forced)
      follows_le := by
        intro call member
        rcases bounded call member with old | new
        · exact Nat.le_succ_of_le ((List.forall_mem_cons.mp sound.follows_le).2 call old)
        · exact new
      dispatched_le := Nat.le_succ_of_le sound.dispatched_le
      recovered_le := Nat.le_succ_of_le sound.recovered_le
      coming := sound.coming
      requested := fun _ => Or.inr (Or.inl behind)
      inProgress := fun _ => Or.inr (Or.inl behind)
      resetDone := fun _ => Or.inl behind }

theorem sound_schedule_continued {call : RecoveryCall} (next : RecoveryCall) (pending : Bool)
    (lastMs : Int) (sound : Sound { recovery with calls := (call, forced) :: rest })
    (schedules : ¬ isPrepare call = true) (sameFollows : follows next = follows call)
    (counted : recovery.queued + claims ((next, forced) :: rest) = if pending then 1 else 0)
    (free : pending = false → recovery.transportRecoveryPending = false) :
    Sound { recovery with
      transportRecoveryPending := pending
      lastTransportRecoveryMs := lastMs
      calls := (next, forced) :: rest } := by
  have preparing : Preparing ((call, forced) :: rest) → Preparing ((next, forced) :: rest) :=
    fun before => (preparing_cons _ _).mpr (Or.inr (preparing_rest schedules before))
  obtain ⟨own, others⟩ := List.forall_mem_cons.mp sound.follows_le
  exact
    { claimed := counted
      forced := sound.forced
      follows_le := List.forall_mem_cons.mpr ⟨sameFollows ▸ own, others⟩
      dispatched_le := sound.dispatched_le
      recovered_le := sound.recovered_le
      coming := fun idle => sound.coming (free idle)
      requested := fun raised => (sound.requested raised).imp_left preparing
      inProgress := fun raised => (sound.inProgress raised).imp_left preparing
      resetDone := sound.resetDone }

/-- A scheduling call returns. If it is the one the main thread waits for, the main thread
has returned too, and it answered for no flag while it waited. -/
theorem sound_schedule_ended {call : RecoveryCall} (queued followed : Nat)
    (sound : Sound { recovery with calls := (call, forced) :: rest })
    (schedules : ¬ isPrepare call = true)
    (counted : queued + claims rest = if recovery.transportRecoveryPending then 1 else 0)
    (bounded : followed ≤ recovery.prepared)
    (coming : recovery.transportRecoveryPending = false → followed ≤ recovery.recovered) :
    Sound { recovery with
      queued := queued
      calls := rest
      dispatched := max recovery.dispatched followed
      main := if forced then .idle else recovery.main } := by
  have preparing : Preparing ((call, forced) :: rest) → Preparing rest :=
    preparing_rest schedules
  have count : forcedCalls rest + (if forced then 1 else 0) =
      if recovery.main = .forced then 1 else 0 :=
    (forcedCalls_cons (call, forced) rest).symm.trans sound.forced
  -- a phase that answers for flags is not the one in which the main thread waits
  have answering : ∀ phases : List MainPhase, .forced ∉ phases → recovery.main ∈ phases →
      (if forced then .idle else recovery.main) ∈ phases := by
    intro phases absent member
    cases forced with
    | false => exact member
    | true =>
      have waiting : recovery.main = .forced := by
        by_contra other
        rw [if_neg other] at count
        simp at count
      rw [waiting] at member
      exact absurd member absent
  exact
    { claimed := counted
      forced := by
        cases forced with
        | false => exact count
        | true =>
          change forcedCalls rest = 0
          simp only [if_true] at count
          split at count <;> omega
      follows_le := (List.forall_mem_cons.mp sound.follows_le).2
      dispatched_le := Nat.max_le.mpr ⟨sound.dispatched_le, bounded⟩
      recovered_le := sound.recovered_le
      coming := fun idle => Nat.max_le.mpr ⟨sound.coming idle, coming idle⟩
      requested := fun raised =>
        (sound.requested raised).imp preparing (Or.imp_right (answering _ (by decide)))
      inProgress := fun raised =>
        (sound.inProgress raised).imp preparing (Or.imp_right (answering _ (by decide)))
      resetDone := fun raised =>
        (sound.resetDone raised).imp_right (answering _ (by decide)) }

end Operations

section Steps

variable {recovery : ConnectivityRecovery}

section

variable (sound : recovery.Sound)
include sound

private theorem sound_advancePrepare {phase : PreparePhase} {forced : Bool}
    (found : recovery.calls[position]? = some (.prepare phase, forced)) :
    (recovery.advancePrepare position forced phase).Sound := by
  obtain ⟨rest, split, replaced, erased⟩ := exists_rest found
  have front := sound.of_perm recovery split
  cases phase with
  | requested =>
    have continued := sound_prepare_continued .inProgress true
      recovery.connectivityRecoveryInProgress front
    have next := Sound.of_perm _ (replaced _).symm continued
    exact next
  | inProgress =>
    have continued := sound_prepare_continued .resetDone
      recovery.connectivityRecoveryRequested true front
    have next := Sound.of_perm _ (replaced _).symm continued
    exact next
  | resetDone =>
    cases forced with
    | false =>
      have ended := sound_prepare_resetDone rest front rfl rfl (fun _ member => Or.inl member)
      have next := Sound.of_perm _ erased.symm ended
      exact next
    | true =>
      -- the dispatch that follows has begun, and it follows this prepare too
      let dispatch : RecoveryCall :=
        .schedule .debounce false recovery.clockMs (recovery.prepared + 1)
      have bounded : ∀ call ∈ (dispatch, true) :: rest,
          call ∈ rest ∨ follows call.1 ≤ recovery.prepared + 1 := by
        intro call member
        rcases List.mem_cons.mp member with rfl | other
        · exact .inr (Nat.le_refl _)
        · exact .inl other
      have ended := sound_prepare_resetDone ((dispatch, true) :: rest) front rfl
        (forcedCalls_cons _ rest) bounded
      have next := Sound.of_perm _ (replaced _).symm ended
      exact next

theorem sound_advanceSchedule {phase : SchedulePhase} {debounced forced : Bool} {nowMs : Int}
    {followed : Nat}
    (found : recovery.calls[position]? = some (.schedule phase debounced nowMs followed, forced)) :
    (recovery.advanceSchedule position forced debounced nowMs followed phase).Sound := by
  obtain ⟨rest, split, replaced, erased⟩ := exists_rest found
  have front := sound.of_perm recovery split
  have bounded : followed ≤ recovery.prepared := (List.forall_mem_cons.mp front.follows_le).1
  have counted := front.claimed
  cases phase with
  | debounce =>
    unfold advanceSchedule
    dsimp only
    split
    · have ended := sound_schedule_ended recovery.queued 0 front Bool.false_ne_true counted
        (Nat.zero_le _) (fun _ => Nat.zero_le _)
      have next := Sound.of_perm _ erased.symm ended
      exact next
    · have continued := sound_schedule_continued (.schedule .exchange debounced nowMs followed)
        recovery.transportRecoveryPending recovery.lastTransportRecoveryMs front
        Bool.false_ne_true rfl counted id
      have next := Sound.of_perm _ (replaced _).symm continued
      exact next
  | exchange =>
    unfold advanceSchedule
    dsimp only
    split
    · rename_i pending
      have ended := sound_schedule_ended recovery.queued followed front Bool.false_ne_true counted
        bounded (fun free => absurd (pending.symm.trans free) (by decide))
      have next := Sound.of_perm _ erased.symm ended
      exact next
    · rename_i free
      have one : recovery.queued +
          claims ((.schedule .stamp debounced nowMs followed, forced) :: rest) = 1 := by
        rw [if_neg free, claims_cons] at counted
        rw [claims_cons]
        exact congrArg Nat.succ counted
      have claimed := sound_schedule_continued (.schedule .stamp debounced nowMs followed) true
        recovery.lastTransportRecoveryMs front Bool.false_ne_true rfl one nofun
      have next := Sound.of_perm _ (replaced _).symm claimed
      exact next
  | stamp =>
    have continued := sound_schedule_continued (.schedule .run debounced nowMs followed)
      recovery.transportRecoveryPending nowMs front Bool.false_ne_true rfl counted id
    have next := Sound.of_perm _ (replaced _).symm continued
    exact next
  | run =>
    have queued : recovery.queued + 1 + claims rest =
        if recovery.transportRecoveryPending then 1 else 0 := by
      rw [claims_cons] at counted
      change recovery.queued + (claims rest + 1) =
        if recovery.transportRecoveryPending then 1 else 0 at counted
      omega
    have pending : recovery.transportRecoveryPending = true := by
      by_contra free
      rw [if_neg free] at queued
      omega
    have ended := sound_schedule_ended (recovery.queued + 1) followed front Bool.false_ne_true
      queued bounded (fun free => absurd (pending.symm.trans free) (by decide))
    have next := Sound.of_perm _ erased.symm ended
    exact next

private theorem sound_advance (position : Nat) : (recovery.advance position).Sound := by
  unfold advance
  split
  · exact sound
  · rename_i found
    exact sound_advancePrepare sound found
  · rename_i found
    exact sound_advanceSchedule sound found

private theorem sound_began {call : RecoveryCall} (unclaimed : hasClaim call = false)
    (bounded : follows call ≤ recovery.prepared) : (recovery.began call false).Sound := by
  have preparing : Preparing recovery.calls → Preparing ((call, false) :: recovery.calls) :=
    fun before => (preparing_cons _ _).mpr (Or.inr before)
  have front : Sound { recovery with calls := (call, false) :: recovery.calls } :=
    { claimed := by
        rw [claims_cons, unclaimed]
        exact sound.claimed
      forced := sound.forced
      follows_le := List.forall_mem_cons.mpr ⟨bounded, sound.follows_le⟩
      dispatched_le := sound.dispatched_le
      recovered_le := sound.recovered_le
      coming := sound.coming
      requested := fun raised => (sound.requested raised).imp_left preparing
      inProgress := fun raised => (sound.inProgress raised).imp_left preparing
      resetDone := sound.resetDone }
  have next := Sound.of_perm _ (List.perm_append_singleton (call, false) recovery.calls).symm front
  exact next

private theorem sound_forced (pending : recovery.main = .pending) :
    Sound (began { recovery with connectivityRecoveryRequested := false, main := .forced }
      (.prepare .requested) true) := by
  have noForced : forcedCalls recovery.calls = 0 := sound.no_forced (by simp [pending])
  have preparing : Preparing ((.prepare .requested, true) :: recovery.calls) :=
    (preparing_cons _ _).mpr (Or.inl rfl)
  have front : Sound { recovery with
      connectivityRecoveryRequested := false
      main := .forced
      calls := (.prepare .requested, true) :: recovery.calls } :=
    { claimed := sound.claimed
      forced := by
        rw [forcedCalls_cons, noForced]
        rfl
      follows_le := List.forall_mem_cons.mpr ⟨Nat.zero_le _, sound.follows_le⟩
      dispatched_le := sound.dispatched_le
      recovered_le := sound.recovered_le
      coming := sound.coming
      requested := nofun
      inProgress := fun _ => Or.inl preparing
      resetDone := fun raised => Or.inl (sound.resetDone_past (by simp [pending]) raised) }
  have next := Sound.of_perm _ (List.perm_append_singleton (.prepare .requested, true)
    recovery.calls).symm front
  exact next

private theorem sound_started (idle : recovery.main = .idle) (waiting : ¬ recovery.queued = 0) :
    recovery.transportRecoveryPending = true ∧
      Sound { recovery with
        queued := recovery.queued - 1
        transportRecoveryPending := false
        recovered := recovery.prepared
        main := .inProgress } := by
  have claimed := sound.claimed
  have pending : recovery.transportRecoveryPending = true := by
    by_contra free
    rw [if_neg free] at claimed
    omega
  rw [if_pos pending] at claimed
  exact ⟨pending,
    { claimed := by
        change recovery.queued - 1 + claims recovery.calls = 0
        omega
      forced := sound.no_forced (by simp [idle])
      follows_le := sound.follows_le
      dispatched_le := sound.dispatched_le
      recovered_le := Nat.le_refl _
      coming := fun _ => sound.dispatched_le
      requested := fun _ => Or.inr (Or.inr (by simp))
      inProgress := fun _ => Or.inr (Or.inr (by simp))
      resetDone := fun _ => Or.inr (by simp) }⟩

private theorem sound_returned (pending : recovery.main = .pending)
    (notRequested : ¬ recovery.connectivityRecoveryRequested = true) :
    Sound { recovery with main := .idle } :=
  { sound with
    forced := sound.no_forced (by simp [pending])
    requested := fun raised => absurd raised notRequested
    inProgress := fun raised =>
      (sound.inProgress_past (by simp [pending]) raised).imp_right Or.inl
    resetDone := fun raised => Or.inl (sound.resetDone_past (by simp [pending]) raised) }

end

private theorem sound_recoverTransport {circumstances : RecoveryCircumstances}
    (favourable : circumstances.Favourable) (sound : recovery.Sound) :
    (recovery.recoverTransport circumstances).Sound := by
  obtain ⟨recovers, eligible⟩ := favourable
  unfold recoverTransport
  cases phase : recovery.main with
  | idle =>
    dsimp only
    split
    · exact sound
    · rename_i waiting
      obtain ⟨pending, started⟩ := sound_started sound phase waiting
      rw [if_pos pending]
      exact started
  | inProgress =>
    exact { sound with
      forced := sound.no_forced (by simp [phase])
      requested := fun _ => Or.inr (Or.inr (by simp))
      inProgress := fun _ => Or.inr (Or.inr (by simp))
      resetDone := fun _ => Or.inr (by simp) }
  | requested =>
    rw [if_pos recovers]
    exact { sound with
      forced := sound.no_forced (by simp [phase])
      requested := nofun
      inProgress := fun _ => Or.inr (Or.inr (by simp))
      resetDone := fun _ => Or.inr (by simp) }
  | resetDone =>
    exact { sound with
      forced := sound.no_forced (by simp [phase])
      requested := fun raised =>
        (sound.requested_past (by simp [phase]) raised).imp_right Or.inl
      inProgress := fun _ => Or.inr (Or.inr (by simp))
      resetDone := nofun }
  | ended =>
    exact { sound with
      forced := sound.no_forced (by simp [phase])
      requested := fun raised =>
        (sound.requested_past (by simp [phase]) raised).imp_right Or.inl
      inProgress := nofun
      resetDone := fun raised => Or.inl (sound.resetDone_past (by simp [phase]) raised) }
  | pending =>
    have accepts : circumstances.accepts = true := by
      unfold RecoveryCircumstances.recovers at recovers
      rw [Bool.and_eq_true, Bool.and_eq_true] at recovers
      exact recovers.1.1
    dsimp only
    split
    · exact sound_forced sound phase
    · rename_i notRequested
      rw [accepts] at notRequested
      exact sound_returned sound phase notRequested
  | forced => exact sound

theorem sound_step {circumstances : RecoveryCircumstances} (favourable : circumstances.Favourable)
    (recovery : ConnectivityRecovery) (operation : RecoveryStep) (sound : recovery.Sound) :
    (recovery.step circumstances operation).Sound := by
  cases operation with
  | tick elapsedMs => exact { sound with }
  | prepareConnectivityRecovery =>
    unfold step
    dsimp only
    split
    · exact sound_began sound rfl (Nat.zero_le _)
    · exact sound
  | dispatchPreparedConnectivityRecovery =>
    unfold step
    dsimp only
    split
    · exact sound_began sound rfl (Nat.le_refl _)
    · exact sound
  | scheduleTransportRecovery =>
    unfold step
    dsimp only
    split
    · exact sound_began sound rfl (Nat.zero_le _)
    · exact sound
  | advance position => exact sound_advance sound position
  | recoverTransport => exact sound_recoverTransport favourable sound

end Steps

/-! ### Whole runs -/

theorem sound_initially (clockMs : Int) : Sound { clockMs := clockMs } where
  claimed := rfl
  forced := rfl
  follows_le := nofun
  dispatched_le := Nat.le_refl 0
  recovered_le := Nat.le_refl 0
  coming := fun _ => Nat.le_refl 0
  requested := nofun
  inProgress := nofun
  resetDone := nofun

/-- However the threads of an account take turns: whenever every prepare has been dispatched
and no recovery is queued or running, the flags are down, and a recovery has started after
each prepare. -/
theorem settled_along_every_run {circumstances : RecoveryCircumstances}
    (favourable : circumstances.Favourable) (clockMs : Int) (operations : List RecoveryStep) :
    Run.Always (step circumstances) Promised { clockMs := clockMs } operations :=
  (Run.always_of_preserved (sound_step favourable) (sound_initially clockMs) operations).imp
    fun _ sound => sound.promised

/-- A change of the network while a recovery is running: the prepare comes between the
recovery's first and second operation, and the dispatch queues another one. -/
def overlappingChange : List RecoveryStep :=
  [.scheduleTransportRecovery, .advance 0, .advance 0, .advance 0, .advance 0, .recoverTransport,
    .prepareConnectivityRecovery, .advance 0, .recoverTransport, .advance 0, .recoverTransport,
    .recoverTransport, .advance 0, .recoverTransport, .recoverTransport,
    .dispatchPreparedConnectivityRecovery, .advance 0, .advance 0, .advance 0, .advance 0]

/-- Once the second recovery has run too, everything is settled. -/
theorem settled_after_overlapping_change :
    let circumstances : RecoveryCircumstances := ⟨true, false, true, true, true⟩
    let before := Run.after (step circumstances) { clockMs := 5000 } overlappingChange
    let recovery := Run.after (step circumstances) { clockMs := 5000 }
      (overlappingChange ++ List.replicate 6 .recoverTransport)
    before.prepareTransportResetDone = true ∧ recovery.prepared = 1 ∧ recovery.Settled := by
  have favourable : RecoveryCircumstances.Favourable ⟨true, false, true, true, true⟩ := ⟨rfl, rfl⟩
  have always := settled_along_every_run favourable 5000
    (overlappingChange ++ List.replicate 6 .recoverTransport)
  refine ⟨by decide +kernel, by decide +kernel, always.last ?_ ?_⟩
  · unfold AllDispatched Preparing
    decide +kernel
  · unfold NothingQueued
    decide +kernel

/-- At most one recovery is queued or about to be, and exactly one while none has started
since a prepare that was dispatched. -/
def OneOnItsWay (recovery : ConnectivityRecovery) : Prop :=
  recovery.queued + claims recovery.calls ≤ 1 ∧
    (recovery.recovered < recovery.dispatched → recovery.queued + claims recovery.calls = 1)

theorem one_recovery_on_its_way {circumstances : RecoveryCircumstances}
    (favourable : circumstances.Favourable) (clockMs : Int) (operations : List RecoveryStep) :
    Run.Always (step circumstances) OneOnItsWay { clockMs := clockMs } operations := by
  apply (Run.always_of_preserved (sound_step favourable) (sound_initially clockMs) operations).imp
  intro recovery sound
  unfold OneOnItsWay
  rw [sound.claimed]
  cases pending : recovery.transportRecoveryPending with
  | true => exact ⟨Nat.le_refl 1, fun _ => rfl⟩
  | false =>
    refine ⟨Nat.zero_le 1, ?_⟩
    intro unserved
    exact absurd (sound.coming pending) (Nat.not_le.mpr unserved)

theorem one_recovery_in_overlapping_change :
    Run.Always (step ⟨true, false, true, true, true⟩) OneOnItsWay { clockMs := 5000 }
      overlappingChange :=
  one_recovery_on_its_way ⟨rfl, rfl⟩ 5000 overlappingChange

end ConnectivityRecovery

end SipCore
