/-
The limit on transport recoveries that an account starts by itself. Each attempt that is
let through is put at the end of a queue of times; before an attempt is decided, times
that have left the window are taken from its front. Times are in milliseconds; the
arithmetic on them is signed and has no meaning where it overflows.
-/

import Mathlib.Algebra.Order.Group.Int
import Mathlib.Data.List.Induction
import SipCore.Library.GuardedRun
import SipCore.Library.SlidingWindow

namespace SipCore

open SlidingWindow

def shouldSuppressOptionsRecoveryAttempt (attemptMs : List Int) (nowMs : Int) (maxAttempts : Nat)
    (windowMs : Int) : Bool × List Int :=
  let minAllowedTs := nowMs - windowMs
  let kept := attemptMs.dropWhile (fun attempt => attempt < minAllowedTs)
  if kept.length ≥ maxAttempts then (true, kept) else (false, kept ++ [nowMs])

/-- The queue, and beside it all attempts that were let through, oldest first. -/
structure RecoveryLimiter where
  attemptMs : List Int := []
  letThrough : List Int := []
  deriving DecidableEq, Repr

namespace RecoveryLimiter

variable (maxAttempts : Nat) (windowMs : Int)

def suppresses (limiter : RecoveryLimiter) (nowMs : Int) : Bool :=
  (shouldSuppressOptionsRecoveryAttempt limiter.attemptMs nowMs maxAttempts windowMs).1

def attempt (limiter : RecoveryLimiter) (nowMs : Int) : RecoveryLimiter :=
  { attemptMs :=
      (shouldSuppressOptionsRecoveryAttempt limiter.attemptMs nowMs maxAttempts windowMs).2
    letThrough :=
      if limiter.suppresses maxAttempts windowMs nowMs then limiter.letThrough
      else limiter.letThrough ++ [nowMs] }

def afterAttempts (times : List Int) : RecoveryLimiter :=
  Run.after (attempt maxAttempts windowMs) {} times

theorem afterAttempts_concat (times : List Int) (nowMs : Int) :
    afterAttempts maxAttempts windowMs (times ++ [nowMs]) =
      (afterAttempts maxAttempts windowMs times).attempt maxAttempts windowMs nowMs := by
  unfold afterAttempts Run.after
  rw [List.foldl_append]
  rfl

/-- The queue is in order, and from the cutoff of any time that is not before the last
attempt it agrees with the attempts that were let through. -/
structure Tracks (limiter : RecoveryLimiter) (times : List Int) : Prop where
  ordered : limiter.attemptMs.Pairwise (· ≤ ·)
  queued : ∀ queued ∈ limiter.attemptMs, queued ∈ times
  passed : ∀ passed ∈ limiter.letThrough, passed ∈ times
  agrees : ∀ nowMs, (∀ time ∈ times, time ≤ nowMs) →
    since (nowMs - windowMs) limiter.attemptMs = since (nowMs - windowMs) limiter.letThrough

section Attempt

variable {windowMs} {limiter : RecoveryLimiter} {times : List Int} {nowMs : Int}

section

variable (tracks : limiter.Tracks windowMs times) (latest : ∀ time ∈ times, time ≤ nowMs)
include tracks latest

theorem Tracks.kept_eq :
    limiter.attemptMs.dropWhile (fun attempt => attempt < nowMs - windowMs) =
      since (nowMs - windowMs) limiter.letThrough := by
  rw [dropWhile_eq_since tracks.ordered, tracks.agrees nowMs latest]

theorem Tracks.suppresses_iff :
    limiter.suppresses maxAttempts windowMs nowMs = true ↔
      maxAttempts ≤ (since (nowMs - windowMs) limiter.letThrough).length := by
  unfold suppresses shouldSuppressOptionsRecoveryAttempt
  dsimp only
  rw [tracks.kept_eq latest]
  split
  · rename_i full
    exact iff_of_true rfl full
  · rename_i room
    exact iff_of_false Bool.false_ne_true room

theorem Tracks.attempt_cases :
    (maxAttempts ≤ (since (nowMs - windowMs) limiter.letThrough).length ∧
      limiter.attempt maxAttempts windowMs nowMs =
        ⟨since (nowMs - windowMs) limiter.attemptMs, limiter.letThrough⟩) ∨
    ((since (nowMs - windowMs) limiter.letThrough).length < maxAttempts ∧
      limiter.attempt maxAttempts windowMs nowMs =
        ⟨since (nowMs - windowMs) limiter.attemptMs ++ [nowMs], limiter.letThrough ++ [nowMs]⟩) := by
  have decided := tracks.suppresses_iff maxAttempts latest
  have queue := dropWhile_eq_since tracks.ordered (nowMs - windowMs)
  have counted := congrArg List.length (tracks.agrees nowMs latest)
  by_cases full : maxAttempts ≤ (since (nowMs - windowMs) limiter.letThrough).length
  · left
    refine ⟨full, ?_⟩
    unfold attempt shouldSuppressOptionsRecoveryAttempt
    dsimp only
    rw [decided.mpr full, queue, counted, if_pos full]
    rfl
  · right
    refine ⟨Nat.lt_of_not_le full, ?_⟩
    have passes : ¬ limiter.suppresses maxAttempts windowMs nowMs = true :=
      fun suppressed => full (decided.mp suppressed)
    unfold attempt shouldSuppressOptionsRecoveryAttempt
    dsimp only
    rw [if_neg passes, queue, counted, if_neg full]

theorem Tracks.attempt :
    (limiter.attempt maxAttempts windowMs nowMs).Tracks windowMs (times ++ [nowMs]) := by
  have older : ∀ {time : Int}, time ∈ times → time ∈ times ++ [nowMs] := List.mem_append_left _
  have newest : nowMs ∈ times ++ [nowMs] := List.mem_append_right _ (List.mem_singleton_self _)
  have keptOrdered := since_pairwise tracks.ordered (nowMs - windowMs)
  have keptQueued : ∀ queued ∈ since (nowMs - windowMs) limiter.attemptMs, queued ∈ times :=
    fun queued member => tracks.queued queued (mem_since.mp member).1
  -- later cutoffs are not before this one
  have agrees : ∀ later, (∀ time ∈ times ++ [nowMs], time ≤ later) →
      since (later - windowMs) (since (nowMs - windowMs) limiter.attemptMs) =
        since (later - windowMs) limiter.letThrough := by
    intro later bound
    have forward : nowMs - windowMs ≤ later - windowMs :=
      Int.sub_le_sub_right (bound nowMs newest) windowMs
    rw [since_since forward]
    exact tracks.agrees later (fun time member => bound time (older member))
  rcases tracks.attempt_cases maxAttempts latest with ⟨_, left⟩ | ⟨_, left⟩
  · rw [left]
    exact
      { ordered := keptOrdered
        queued := fun queued member => older (keptQueued queued member)
        passed := fun passed member => older (tracks.passed passed member)
        agrees := agrees }
  · rw [left]
    refine ⟨?_, ?_, ?_, ?_⟩
    · refine List.pairwise_append.mpr ⟨keptOrdered, List.pairwise_singleton _ _, ?_⟩
      intro queued member last lastMember
      rw [List.mem_singleton.mp lastMember]
      exact latest queued (keptQueued queued member)
    · intro queued member
      rcases List.mem_append.mp member with before | last
      · exact older (keptQueued queued before)
      · exact List.mem_append_right _ last
    · intro passed member
      rcases List.mem_append.mp member with before | last
      · exact older (tracks.passed passed before)
      · exact List.mem_append_right _ last
    · intro later bound
      rw [since_append, since_append, agrees later bound]

end

end Attempt

section Sequence

variable {times : List Int}

theorem latest_of_ordered {earlier later : List Int} {nowMs : Int}
    (ordered : (earlier ++ nowMs :: later).Pairwise (· ≤ ·)) :
    earlier.Pairwise (· ≤ ·) ∧ ∀ time ∈ earlier, time ≤ nowMs := by
  obtain ⟨before, _, across⟩ := List.pairwise_append.mp ordered
  exact ⟨before, fun time member => across time member nowMs List.mem_cons_self⟩

theorem tracks_afterAttempts (ordered : times.Pairwise (· ≤ ·)) :
    (afterAttempts maxAttempts windowMs times).Tracks windowMs times := by
  induction times using List.reverseRecOn with
  | nil =>
    exact
      { ordered := List.Pairwise.nil
        queued := nofun
        passed := nofun
        agrees := fun _ _ => rfl }
  | append_singleton earlier nowMs ih =>
    obtain ⟨before, latest⟩ := latest_of_ordered ordered
    rw [afterAttempts_concat]
    exact (ih before).attempt maxAttempts latest

private theorem within_concat_le {limiter : RecoveryLimiter} {nowMs first : Int}
    (bounded : ∀ passed ∈ limiter.letThrough, passed ≤ nowMs)
    (before : (within first (first + windowMs) limiter.letThrough).length ≤ maxAttempts)
    (room : (since (nowMs - windowMs) limiter.letThrough).length < maxAttempts) :
    (within first (first + windowMs) (limiter.letThrough ++ [nowMs])).length ≤ maxAttempts := by
  by_cases inside : first ≤ nowMs ∧ nowMs ≤ first + windowMs
  · have began : nowMs - windowMs ≤ first := by omega
    have last : ∀ passed ∈ limiter.letThrough, passed ≤ first + windowMs :=
      fun passed member => Int.le_trans (bounded passed member) inside.2
    have count := within_concat_length_le first (first + windowMs) limiter.letThrough nowMs
    rw [within_eq_since last] at count
    have fewer := since_length_le began limiter.letThrough
    omega
  · rw [within_concat_of_outside inside]
    exact before

private theorem within_letThrough_le (ordered : times.Pairwise (· ≤ ·)) (first : Int) :
    (within first (first + windowMs) (afterAttempts maxAttempts windowMs times).letThrough).length ≤
      maxAttempts := by
  induction times using List.reverseRecOn with
  | nil => exact Nat.zero_le maxAttempts
  | append_singleton earlier nowMs ih =>
    obtain ⟨before, latest⟩ := latest_of_ordered ordered
    have tracks := tracks_afterAttempts maxAttempts windowMs before
    have bounded : ∀ passed ∈ (afterAttempts maxAttempts windowMs earlier).letThrough,
        passed ≤ nowMs := fun passed member => latest passed (tracks.passed passed member)
    rw [afterAttempts_concat]
    rcases tracks.attempt_cases maxAttempts latest with
      ⟨_, left⟩ | ⟨room, left⟩
    · rw [left]
      exact ih before
    · rw [left]
      exact within_concat_le maxAttempts windowMs bounded (ih before) room

/-- Along times that do not go back, no closed interval as long as the window holds more
attempts that were let through than allowed, and an attempt is suppressed only if the
window that ends with it holds all that are allowed. -/
theorem limits_every_window (ordered : times.Pairwise (· ≤ ·)) :
    (∀ first, (within first (first + windowMs)
        (afterAttempts maxAttempts windowMs times).letThrough).length ≤ maxAttempts) ∧
      ∀ earlier nowMs later, times = earlier ++ nowMs :: later →
        (afterAttempts maxAttempts windowMs earlier).suppresses maxAttempts windowMs nowMs = true →
          (within (nowMs - windowMs) nowMs
            (afterAttempts maxAttempts windowMs earlier).letThrough).length = maxAttempts := by
  refine ⟨within_letThrough_le maxAttempts windowMs ordered, ?_⟩
  intro earlier nowMs later split suppressed
  rw [split] at ordered
  obtain ⟨before, latest⟩ := latest_of_ordered ordered
  have tracks := tracks_afterAttempts maxAttempts windowMs before
  have bounded : ∀ passed ∈ (afterAttempts maxAttempts windowMs earlier).letThrough,
      passed ≤ nowMs := fun passed member => latest passed (tracks.passed passed member)
  apply Nat.le_antisymm
  · have few := within_letThrough_le maxAttempts windowMs before (nowMs - windowMs)
    rw [Int.sub_add_cancel] at few
    exact few
  · rw [within_eq_since bounded]
    exact (tracks.suppresses_iff maxAttempts latest).mp suppressed

/-- Four attempts within a minute of which three are allowed, and one after the minute. -/
theorem limits_every_window_of_five_attempts :
    let limiter := afterAttempts 3 60000 [1000, 2000, 3000, 4000, 70000]
    limiter.letThrough = [1000, 2000, 3000, 70000] ∧
      (∀ first, (within first (first + 60000) limiter.letThrough).length ≤ 3) ∧
      (within (4000 - 60000) 4000 (afterAttempts 3 60000 [1000, 2000, 3000]).letThrough).length =
        3 := by
  have fiveOrdered : [1000, 2000, 3000, 4000, (70000 : Int)].Pairwise (· ≤ ·) := by decide
  have limits := limits_every_window 3 60000 fiveOrdered
  exact ⟨by decide, limits.1, limits.2 [1000, 2000, 3000] 4000 [70000] rfl (by decide)⟩

end Sequence

end RecoveryLimiter

end SipCore
