/-
The executor: a queue of jobs by due time and one worker. A lock section is one
step. The worker takes the whole entry of the least due time out of the queue and
starts its jobs one after the other without the lock, so submissions and `stop`
fall between any two starts. Jobs carry the number of their submission.
-/

import SipCore.Library.GuardedRun
import SipCore.Library.SortedMap

namespace SipCore

structure Job (τ : Type) where
  number : Nat
  due : τ
  deriving DecidableEq, Repr

namespace Job

variable {τ : Type} [LinearOrder τ]

/-- Due before the other, or due at the same time and submitted before it. -/
def Precedes (job other : Job τ) : Prop :=
  job.due < other.due ∨ job.due = other.due ∧ job.number < other.number

end Job

/-- `batch` is what the worker has taken out and not yet started, `queuedAtExtract`
what was queued when it did; `started` are the jobs started so far. The worker is
gone once `running` is false and its batch is over. -/
structure ScheduledExecutor (τ : Type) [LinearOrder τ] where
  running : Bool := true
  jobs : SortedMap τ (List (Job τ)) := .empty
  submitted : Nat := 0
  batch : List (Job τ) := []
  queuedAtExtract : List (Job τ) := []
  started : List (Job τ) := []

namespace ScheduledExecutor

variable {τ : Type} [LinearOrder τ]

def queued (executor : ScheduledExecutor τ) : List (Job τ) :=
  executor.jobs.entries.flatMap Prod.snd

def emplaceBack (executor : ScheduledExecutor τ) (t : τ) : ScheduledExecutor τ :=
  { executor with
    jobs := executor.jobs.upsert t [] (· ++ [⟨executor.submitted, t⟩])
    submitted := executor.submitted + 1 }

def run (executor : ScheduledExecutor τ) (now : τ) : ScheduledExecutor τ := executor.emplaceBack now

def schedule (executor : ScheduledExecutor τ) (t : τ) : ScheduledExecutor τ :=
  executor.emplaceBack t

def stop (executor : ScheduledExecutor τ) : ScheduledExecutor τ :=
  { executor with running := false, jobs := .empty }

/-- The lock section of `loop`, where it ends with jobs to run. While nothing is
due the worker waits, and once the executor is stopped it leaves. -/
def extract (executor : ScheduledExecutor τ) (now : τ) : ScheduledExecutor τ :=
  match executor.batch, executor.jobs.entries with
  | [], (due, jobs) :: _ =>
    if executor.running && due ≤ now then
      { executor with
        batch := jobs
        queuedAtExtract := executor.queued
        jobs := executor.jobs.eraseFirst }
    else executor
  | _, _ => executor

def start (executor : ScheduledExecutor τ) : ScheduledExecutor τ :=
  match executor.batch with
  | [] => executor
  | job :: rest => { executor with batch := rest, started := executor.started ++ [job] }

inductive Event (τ : Type) where
  | run (now : τ)
  | schedule (t : τ)
  | stop
  | extract (now : τ)
  | start
  deriving DecidableEq, Repr

def step (executor : ScheduledExecutor τ) : Event τ → ScheduledExecutor τ
  | .run now => executor.run now
  | .schedule t => executor.schedule t
  | .stop => executor.stop
  | .extract now => executor.extract now
  | .start => executor.start

/-- What is asked of a start: every job queued at the extraction that precedes the
job was started, the job itself was not, and `stop` has not returned. -/
def StartsInOrder (executor : ScheduledExecutor τ) (event : Event τ) : Prop :=
  ∀ job rest, event = .start → executor.batch = job :: rest →
    ∀ other ∈ executor.queuedAtExtract, other.Precedes job → other ∈ executor.started

def StartsOnce (executor : ScheduledExecutor τ) (event : Event τ) : Prop :=
  ∀ job rest, event = .start → executor.batch = job :: rest → job ∉ executor.started

def StartsWhileRunning (executor : ScheduledExecutor τ) (event : Event τ) : Prop :=
  ∀ job rest, event = .start → executor.batch = job :: rest → executor.running = true

/-- `stop` comes only while no job of a batch is still to be started. -/
def StopsBetweenBatches (executor : ScheduledExecutor τ) (event : Event τ) : Prop :=
  event = .stop → executor.batch = []

/-- What the queue, the batch and the history have to do with each other. -/
structure Wellformed (executor : ScheduledExecutor τ) : Prop where
  dues : ∀ entry ∈ executor.jobs.entries, ∀ job ∈ entry.2, job.due = entry.1
  inOrder : ∀ entry ∈ executor.jobs.entries,
    entry.2.Pairwise (fun left right => left.number < right.number)
  batchDues : ∀ left ∈ executor.batch, ∀ right ∈ executor.batch, left.due = right.due
  batchInOrder : executor.batch.Pairwise (fun left right => left.number < right.number)
  known : ∀ job ∈ executor.started ++ executor.batch ++ executor.queued,
    job.number < executor.submitted
  startedOnce : ∀ job ∈ executor.started, job ∉ executor.batch ∧ job ∉ executor.queued
  extracted : ∀ job ∈ executor.batch, job ∉ executor.queued
  ahead : ∀ other ∈ executor.queuedAtExtract,
    other ∈ executor.started ∨ other ∈ executor.batch ∨
      ∀ job ∈ executor.batch, job.due < other.due

private theorem mem_queued_emplaceBack {executor : ScheduledExecutor τ} {t : τ} {job : Job τ}
    (member : job ∈ (executor.emplaceBack t).queued) :
    job ∈ executor.queued ∨ job = ⟨executor.submitted, t⟩ := by
  rcases List.mem_flatMap.mp member with ⟨entry, stored, inside⟩
  rcases SortedMap.mem_upsert stored with old | new | ⟨before, there, changed⟩
  · exact .inl (List.mem_flatMap.mpr ⟨entry, old, inside⟩)
  · subst entry
    exact .inr (List.mem_singleton.mp inside)
  · subst entry
    rcases List.mem_append.mp inside with older | newest
    · exact .inl (List.mem_flatMap.mpr ⟨(t, before), there, older⟩)
    · exact .inr (List.mem_singleton.mp newest)

namespace Wellformed

variable {executor : ScheduledExecutor τ}

theorem initial : (({} : ScheduledExecutor τ)).Wellformed := by
  constructor
  all_goals simp [SortedMap.empty, queued]

section

variable (wellformed : executor.Wellformed)
include wellformed

theorem ne_new {job : Job τ} (t : τ)
    (member : job ∈ executor.started ++ executor.batch ++ executor.queued) :
    job ≠ ⟨executor.submitted, t⟩ := by
  intro same
  have below := wellformed.known job member
  rw [same] at below
  exact Nat.lt_irrefl _ below

private theorem emplaceBack (t : τ) :
    (executor.emplaceBack t).Wellformed where
  dues := by
    intro entry stored job inside
    rcases SortedMap.mem_upsert stored with old | new | ⟨before, there, changed⟩
    · exact wellformed.dues entry old job inside
    · subst entry
      rw [List.mem_singleton.mp inside]
    · subst entry
      rcases List.mem_append.mp inside with older | newest
      · exact wellformed.dues (t, before) there job older
      · rw [List.mem_singleton.mp newest]
  inOrder := by
    intro entry stored
    rcases SortedMap.mem_upsert stored with old | new | ⟨before, there, changed⟩
    · exact wellformed.inOrder entry old
    · subst entry
      exact List.pairwise_singleton _ _
    · subst entry
      refine List.pairwise_append.mpr
        ⟨wellformed.inOrder _ there, List.pairwise_singleton _ _, ?_⟩
      intro older member newest last
      rw [List.mem_singleton.mp last]
      apply wellformed.known
      exact List.mem_append_right _ (List.mem_flatMap.mpr ⟨(t, before), there, member⟩)
  batchDues := wellformed.batchDues
  batchInOrder := wellformed.batchInOrder
  known := by
    intro job member
    rcases List.mem_append.mp member with before | queued
    · exact Nat.lt_succ_of_lt (wellformed.known job (List.mem_append_left _ before))
    · rcases mem_queued_emplaceBack queued with older | newest
      · exact Nat.lt_succ_of_lt (wellformed.known job (List.mem_append_right _ older))
      · rw [newest]
        exact Nat.lt_succ_self _
  startedOnce := by
    intro job member
    refine ⟨(wellformed.startedOnce job member).1, ?_⟩
    intro queued
    rcases mem_queued_emplaceBack queued with older | newest
    · exact (wellformed.startedOnce job member).2 older
    · exact wellformed.ne_new t (List.mem_append_left _ (List.mem_append_left _ member)) newest
  extracted := by
    intro job member queued
    rcases mem_queued_emplaceBack queued with older | newest
    · exact wellformed.extracted job member older
    · exact wellformed.ne_new t (List.mem_append_left _ (List.mem_append_right _ member)) newest
  ahead := wellformed.ahead

private theorem stop : executor.stop.Wellformed where
  dues := fun _ stored => absurd stored List.not_mem_nil
  inOrder := fun _ stored => absurd stored List.not_mem_nil
  batchDues := wellformed.batchDues
  batchInOrder := wellformed.batchInOrder
  known := by
    intro job member
    rcases List.mem_append.mp member with before | queued
    · exact wellformed.known job (List.mem_append_left _ before)
    · cases queued
  startedOnce := fun job member => ⟨(wellformed.startedOnce job member).1, List.not_mem_nil⟩
  extracted := fun _ _ => List.not_mem_nil
  ahead := wellformed.ahead

private theorem take (idle : executor.batch = []) {due : τ} {jobs : List (Job τ)}
    {rest : List (τ × List (Job τ))} (front : executor.jobs.entries = (due, jobs) :: rest) :
    Wellformed
      { executor with
        batch := jobs
        queuedAtExtract := executor.queued
        jobs := executor.jobs.eraseFirst } := by
  have remaining : executor.jobs.eraseFirst.entries = rest := by
    change executor.jobs.entries.tail = rest
    rw [front]
    rfl
  have split : executor.queued = jobs ++ rest.flatMap Prod.snd := by
    unfold queued
    rw [front]
    rfl
  have stored : (due, jobs) ∈ executor.jobs.entries := front ▸ List.mem_cons_self
  have dueNow : ∀ job ∈ jobs, job.due = due := wellformed.dues (due, jobs) stored
  have dueLater : ∀ job ∈ rest.flatMap Prod.snd, due < job.due := by
    intro job member
    rcases List.mem_flatMap.mp member with ⟨entry, behind, inside⟩
    have kept : entry ∈ executor.jobs.entries := front ▸ List.mem_cons_of_mem _ behind
    rw [wellformed.dues entry kept job inside]
    exact SortedMap.first_lt front behind
  have apart : ∀ job ∈ jobs, job ∉ rest.flatMap Prod.snd := by
    intro job now later
    have before := dueLater job later
    rw [dueNow job now] at before
    exact lt_irrefl due before
  constructor
  · intro entry member
    rw [remaining] at member
    exact wellformed.dues entry (front ▸ List.mem_cons_of_mem _ member)
  · intro entry member
    rw [remaining] at member
    exact wellformed.inOrder entry (front ▸ List.mem_cons_of_mem _ member)
  · intro left first right second
    rw [dueNow left first, dueNow right second]
  · exact wellformed.inOrder (due, jobs) stored
  · intro job member
    apply wellformed.known
    unfold queued at member
    rw [remaining] at member
    rw [idle, split]
    simpa [or_assoc] using member
  · intro job member
    have never := (wellformed.startedOnce job member).2
    rw [split, List.mem_append, not_or] at never
    refine ⟨never.1, ?_⟩
    unfold queued
    rw [remaining]
    exact never.2
  · intro job member
    unfold queued
    rw [remaining]
    exact apart job member
  · intro other member
    rw [split] at member
    rcases List.mem_append.mp member with now | later
    · exact .inr (.inl now)
    · refine .inr (.inr ?_)
      intro job inside
      rw [dueNow job inside]
      exact dueLater other later

private theorem extract (now : τ) : (executor.extract now).Wellformed := by
  unfold ScheduledExecutor.extract
  split
  · rename_i idle front
    split
    · exact wellformed.take idle front
    · exact wellformed
  · exact wellformed

theorem start : executor.start.Wellformed := by
  unfold ScheduledExecutor.start
  split
  · exact wellformed
  · rename_i job rest next
    have inBatch : ∀ other ∈ rest, other ∈ executor.batch :=
      fun other member => next ▸ List.mem_cons_of_mem _ member
    have first : job ∈ executor.batch := next ▸ List.mem_cons_self
    have ordered := wellformed.batchInOrder
    rw [next, List.pairwise_cons] at ordered
    constructor
    · exact wellformed.dues
    · exact wellformed.inOrder
    · exact fun left one right two =>
        wellformed.batchDues left (inBatch left one) right (inBatch right two)
    · exact ordered.2
    · intro other member
      apply wellformed.known
      change other ∈ executor.started ++ [job] ++ rest ++ executor.queued at member
      rw [next]
      simpa [or_assoc, or_left_comm] using member
    · intro other member
      rcases List.mem_append.mp member with before | last
      · refine ⟨?_, (wellformed.startedOnce other before).2⟩
        exact fun later => (wellformed.startedOnce other before).1 (inBatch other later)
      · rw [List.mem_singleton.mp last]
        refine ⟨?_, wellformed.extracted job first⟩
        exact fun again => Nat.lt_irrefl _ (ordered.1 job again)
    · exact fun other member => wellformed.extracted other (inBatch other member)
    · intro other member
      rcases wellformed.ahead other member with before | waiting | later
      · exact .inl (List.mem_append_left _ before)
      · rw [next] at waiting
        rcases List.mem_cons.mp waiting with same | behind
        · exact .inl (List.mem_append_right _ (List.mem_singleton.mpr same))
        · exact .inr (.inl behind)
      · exact .inr (.inr (fun job inside => later job (inBatch job inside)))

theorem step (event : Event τ) : (executor.step event).Wellformed := by
  cases event with
  | run now => exact wellformed.emplaceBack now
  | schedule t => exact wellformed.emplaceBack t
  | stop => exact wellformed.stop
  | extract now => exact wellformed.extract now
  | start => exact wellformed.start

theorem startsInOrder (event : Event τ) : executor.StartsInOrder event := by
  intro job rest _ next other queued precedes
  have ordered := wellformed.batchInOrder
  rw [next, List.pairwise_cons] at ordered
  have first : job ∈ executor.batch := next ▸ List.mem_cons_self
  rcases wellformed.ahead other queued with before | waiting | later
  · exact before
  · have together := wellformed.batchDues other waiting job first
    rcases precedes with sooner | ⟨_, older⟩
    · exact absurd together (ne_of_lt sooner)
    · rw [next] at waiting
      rcases List.mem_cons.mp waiting with same | behind
      · exact absurd (same ▸ older) (Nat.lt_irrefl _)
      · exact absurd older (Nat.lt_asymm (ordered.1 other behind))
  · exfalso
    rcases precedes with sooner | ⟨same, _⟩
    · exact lt_asymm sooner (later job first)
    · exact absurd same (ne_of_gt (later job first))

theorem startsOnce (event : Event τ) : executor.StartsOnce event := by
  intro job rest _ next before
  exact (wellformed.startedOnce job before).1 (next ▸ List.mem_cons_self)

end

end Wellformed

def Quiet (executor : ScheduledExecutor τ) : Prop := executor.running = false → executor.batch = []

theorem Quiet.step {executor : ScheduledExecutor τ} (quiet : executor.Quiet) {event : Event τ}
    (calm : executor.StopsBetweenBatches event) : (executor.step event).Quiet := by
  cases event with
  | run now => exact quiet
  | schedule t => exact quiet
  | stop => exact fun _ => calm rfl
  | extract now =>
    change (executor.extract now).Quiet
    unfold extract
    split
    · split
      · rename_i ready
        intro stopped
        change executor.running = false at stopped
        simp [stopped] at ready
      · exact quiet
    · exact quiet
  | start =>
    change executor.start.Quiet
    unfold start
    split
    · exact quiet
    · rename_i job rest next
      intro stopped
      rw [quiet stopped] at next
      cases next

theorem starts_in_order_and_once (events : List (Event τ)) :
    Run.Guarded step (fun executor event =>
      executor.StartsInOrder event ∧ executor.StartsOnce event) {} events := by
  have free : Run.Guarded step (fun _ _ => True) ({} : ScheduledExecutor τ) events :=
    Run.guarded_of_forall (fun _ _ => trivial)
  refine Run.guarded_of_invariant (fun _ event wellformed _ => wellformed.step event) ?_
    Wellformed.initial free
  intro executor event wellformed _
  exact ⟨wellformed.startsInOrder event, wellformed.startsOnce event⟩

/-- Along every run in which `stop` comes between batches, jobs start in order, at
most once, and never after `stop` has returned. -/
theorem starts_properly (events : List (Event τ))
    (calm : Run.Guarded step StopsBetweenBatches {} events) :
    Run.Guarded step (fun executor event =>
        executor.StartsInOrder event ∧ executor.StartsOnce event ∧
          executor.StartsWhileRunning event)
      {} events := by
  have preserved : ∀ (executor : ScheduledExecutor τ) (event : Event τ),
      executor.Wellformed ∧ executor.Quiet → executor.StopsBetweenBatches event →
        (executor.step event).Wellformed ∧ (executor.step event).Quiet := by
    rintro executor event ⟨wellformed, quiet⟩ between
    exact ⟨wellformed.step event, quiet.step between⟩
  refine Run.guarded_of_invariant preserved ?_ ⟨.initial, fun _ => rfl⟩ calm
  rintro executor event ⟨wellformed, quiet⟩ _
  refine ⟨wellformed.startsInOrder event, wellformed.startsOnce event, ?_⟩
  intro job rest _ next
  cases running : executor.running with
  | true => rfl
  | false =>
    rw [quiet running] at next
    cases next

/-- Three jobs, the one due last submitted first, and a stop after the first batch. -/
theorem starts_properly_before_stop :
    let events : List (Event Nat) :=
      [.schedule 7, .schedule 5, .run 5, .extract 6, .start, .start, .stop, .extract 8, .start]
    (Run.after step {} events).started = [⟨1, 5⟩, ⟨2, 5⟩] ∧
      Run.Guarded step (fun executor event =>
          executor.StartsInOrder event ∧ executor.StartsOnce event ∧
            executor.StartsWhileRunning event)
        {} events := by
  intro events
  have calm : Run.Guarded step StopsBetweenBatches {} events :=
    ⟨nofun, nofun, nofun, nofun, nofun, nofun, fun _ => rfl, nofun, nofun, trivial⟩
  exact ⟨by decide, starts_properly events calm⟩

/-- Two jobs with one due time; `stop` returns while the first of them runs, and
the second one starts all the same. -/
theorem starts_after_stop :
    let events : List (Event Nat) :=
      [.schedule 5, .schedule 5, .extract 5, .start, .stop, .start]
    (Run.after step {} events).started = [⟨0, 5⟩, ⟨1, 5⟩] ∧
      ¬ Run.Guarded step StartsWhileRunning {} events := by
  intro events
  refine ⟨by decide, ?_⟩
  intro all
  have running := all.2.2.2.2.2.1 ⟨1, 5⟩ [] rfl rfl
  cases running

/-! ### No job is lost -/

def Conserved (executor : ScheduledExecutor τ) : Prop :=
  ((executor.started ++ executor.batch ++ executor.queued).map Job.number).Perm
    (List.range executor.submitted)

theorem Conserved.emplaceBack {executor : ScheduledExecutor τ} (conserved : executor.Conserved)
    (t : τ) : (executor.emplaceBack t).Conserved := by
  unfold Conserved at conserved ⊢
  have added : (executor.emplaceBack t).queued.Perm (⟨executor.submitted, t⟩ :: executor.queued) :=
    SortedMap.flatMap_upsert executor.jobs t _
  have placed := (added.append_left (executor.started ++ executor.batch)).trans List.perm_middle
  change (_ : List Nat).Perm (List.range (executor.submitted + 1))
  rw [List.range_succ]
  exact ((placed.map Job.number).trans (conserved.cons _)).trans
    (List.perm_append_singleton _ _).symm

/-- As long as the executor is not stopped. -/
theorem jobs_conserved (events : List (Event τ)) :
    Run.Always step (fun executor => executor.running = true → executor.Conserved) {} events := by
  refine Run.always_of_preserved ?_ (fun _ => .refl _) events
  intro executor event conserved
  cases event with
  | run now => exact fun running => (conserved running).emplaceBack now
  | schedule t => exact fun running => (conserved running).emplaceBack t
  | stop => exact nofun
  | extract now =>
    change (executor.extract now).running = true → (executor.extract now).Conserved
    unfold extract
    split
    · rename_i idle front
      split
      · intro running
        have before := conserved running
        unfold Conserved queued at before ⊢
        rw [idle, front, List.flatMap_cons, List.append_nil, ← List.append_assoc] at before
        change ((executor.started ++ _ ++ executor.jobs.entries.tail.flatMap _).map _).Perm _
        rw [front]
        exact before
      · exact conserved
    · exact conserved
  | start =>
    change executor.start.running = true → executor.start.Conserved
    unfold start
    split
    · exact conserved
    · rename_i job rest next
      intro running
      have before := conserved running
      unfold Conserved at before ⊢
      rw [next, ← List.singleton_append, ← List.append_assoc] at before
      exact before

end ScheduledExecutor

end SipCore
