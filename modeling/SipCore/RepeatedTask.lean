/-
A task that an executor runs at a fixed rate. The worker runs it under the lock of the
task; any thread may cancel it, or destroy it, which waits for that lock. A step is one
operation on the flag or one lock section. A run of the task is three steps, since other
threads go on in between: the test, and the beginning and the end of the call.
-/

import SipCore.Library.GuardedRun

namespace SipCore

/-- Where the task is: with the executor until it is due, under the lock behind the test or
in the call of the function, behind a `run` that returned true, or with nobody. -/
inductive Occurrence where
  | scheduled (t : Int)
  | admitted (t : Int)
  | calling (t : Int)
  | returned (t : Int)
  | gone
  deriving DecidableEq, Repr

/-- `destroying` counts the calls of `destroy` that wait for the lock, `destroyed` says that
one has returned, and `calls` are the due times of the calls of the function. -/
structure RepeatedTask where
  fn : Bool := true
  cancelled : Bool := false
  occurrence : Occurrence
  destroying : Nat := 0
  destroyed : Bool := false
  calls : List Int := []
  deriving DecidableEq, Repr

namespace RepeatedTask

def scheduleAtFixedRate (now : Int) : RepeatedTask := { occurrence := .scheduled now }

def finished (task : RepeatedTask) : RepeatedTask :=
  { task with cancelled := true, fn := false, occurrence := .gone }

def run (task : RepeatedTask) : RepeatedTask :=
  match task.occurrence with
  | .scheduled t =>
    if !task.cancelled && task.fn then { task with occurrence := .admitted t } else task.finished
  | _ => task

def callBegins (task : RepeatedTask) : RepeatedTask :=
  match task.occurrence with
  | .admitted t => { task with occurrence := .calling t, calls := task.calls ++ [t] }
  | _ => task

def callReturns (task : RepeatedTask) (cont : Bool) : RepeatedTask :=
  match task.occurrence with
  | .calling t =>
    if cont then { task with occurrence := if task.fn then .returned t else .gone }
    else task.finished
  | _ => task

/-- The loop of the executor catches it; the task is not scheduled again. -/
def callThrows (task : RepeatedTask) : RepeatedTask :=
  match task.occurrence with
  | .calling _ => { task with occurrence := .gone }
  | _ => task

def reschedule (dt : Int) (task : RepeatedTask) : RepeatedTask :=
  match task.occurrence with
  | .returned t => { task with occurrence := .scheduled (t + dt) }
  | _ => task

def cancel (task : RepeatedTask) : RepeatedTask := { task with cancelled := true }

def destroy (task : RepeatedTask) : RepeatedTask :=
  { task.cancel with destroying := task.destroying + 1 }

def isLocked (task : RepeatedTask) : Bool :=
  match task.occurrence with
  | .admitted _ | .calling _ => true
  | _ => false

def destroyLocked (task : RepeatedTask) : RepeatedTask :=
  if task.destroying = 0 || task.isLocked then task
  else { task with fn := false, destroying := task.destroying - 1, destroyed := true }

def dropped (task : RepeatedTask) : RepeatedTask :=
  match task.occurrence with
  | .scheduled _ => { task with occurrence := .gone }
  | _ => task

inductive Event where
  | run
  | callBegins
  | callReturns (cont : Bool)
  | callThrows
  | reschedule
  | cancel
  | destroy
  | destroyLocked
  | stop
  deriving DecidableEq, Repr

def step (dt : Int) (task : RepeatedTask) : Event → RepeatedTask
  | .run => task.run
  | .callBegins => task.callBegins
  | .callReturns cont => task.callReturns cont
  | .callThrows => task.callThrows
  | .reschedule => task.reschedule dt
  | .cancel => task.cancel
  | .destroy => task.destroy
  | .destroyLocked => task.destroyLocked
  | .stop => task.dropped

def Due (start dt : Int) (number : Nat) : Occurrence → Prop
  | .scheduled t | .admitted t => t = start + number * dt
  | .calling t | .returned t => t + dt = start + number * dt
  | .gone => True

structure Sound (start dt : Int) (task : RepeatedTask) : Prop where
  rate : task.calls = (List.range task.calls.length).map (fun number : Nat => start + number * dt)
  due : Due start dt task.calls.length task.occurrence
  released : task.destroyed = true → task.fn = false
  owned : task.isLocked = true → task.fn = true

variable {start dt : Int} {task : RepeatedTask}

private theorem Sound.finished (sound : task.Sound start dt) : task.finished.Sound start dt :=
  ⟨sound.rate, trivial, fun _ => rfl, nofun⟩

private theorem Sound.callBegins (sound : task.Sound start dt) :
    task.callBegins.Sound start dt := by
  unfold RepeatedTask.callBegins
  split
  · rename_i t admitted
    have due : t = start + task.calls.length * dt := by
      have due := sound.due
      rw [admitted] at due
      exact due
    have owned : task.fn = true := sound.owned (by unfold isLocked; rw [admitted])
    refine ⟨?_, ?_, sound.released, fun _ => owned⟩
    · rw [List.length_append, List.length_singleton, List.range_succ, List.map_append,
        ← sound.rate, due]
      rfl
    · change t + dt = start + ((task.calls ++ [t]).length : Nat) * dt
      rw [due, List.length_append, List.length_singleton]
      simp [Int.add_mul, Int.add_assoc]
  · exact sound

private theorem Sound.step (sound : task.Sound start dt) (event : Event) :
    (task.step dt event).Sound start dt := by
  have ⟨rate, due, released, owned⟩ := sound
  cases event with
  | run =>
    change task.run.Sound start dt
    unfold run
    split
    · rename_i t scheduled
      rw [scheduled] at due
      split
      · rename_i free
        exact ⟨rate, due, released, fun _ => (Bool.and_eq_true _ _ ▸ free).2⟩
      · exact sound.finished
    · exact sound
  | callBegins => exact sound.callBegins
  | callReturns cont =>
    change (task.callReturns cont).Sound start dt
    unfold callReturns
    split
    · rename_i t calling
      have fn : task.fn = true := owned (by unfold isLocked; rw [calling])
      rw [calling] at due
      split
      · refine ⟨rate, ?_, released, fun _ => fn⟩
        rw [fn]
        exact due
      · exact sound.finished
    · exact sound
  | callThrows =>
    change task.callThrows.Sound start dt
    unfold callThrows
    split
    · exact ⟨rate, trivial, released, nofun⟩
    · exact sound
  | reschedule =>
    change (task.reschedule dt).Sound start dt
    unfold reschedule
    split
    · rename_i t returned
      rw [returned] at due
      exact ⟨rate, due, released, nofun⟩
    · exact sound
  | cancel => exact ⟨rate, due, released, owned⟩
  | destroy => exact ⟨rate, due, released, owned⟩
  | destroyLocked =>
    change task.destroyLocked.Sound start dt
    unfold destroyLocked
    split
    · exact sound
    · rename_i free
      rw [Bool.or_eq_true, not_or] at free
      exact ⟨rate, due, fun _ => rfl, fun locked => absurd locked free.2⟩
  | stop =>
    change task.dropped.Sound start dt
    unfold dropped
    split
    · exact ⟨rate, trivial, released, nofun⟩
    · exact sound

private theorem sound_along_every_run (start dt : Int) (events : List Event) :
    Run.Always (step dt) (Sound start dt) (scheduleAtFixedRate start) events := by
  refine Run.always_of_preserved (fun _ event sound => sound.step event) ?_ events
  refine ⟨rfl, ?_, nofun, nofun⟩
  change start = start + 0 * dt
  rw [Int.zero_mul, Int.add_zero]

/-- The calls are due at the fixed rate, whenever the worker gets to them. -/
theorem calls_at_fixed_rate (start dt : Int) (events : List Event) :
    Run.Always (step dt) (fun task => task.calls =
        (List.range task.calls.length).map (fun number : Nat => start + number * dt))
      (scheduleAtFixedRate start) events :=
  (sound_along_every_run start dt events).imp (fun _ sound => sound.rate)

def admittedCall (task : RepeatedTask) : List Int :=
  match task.occurrence with
  | .admitted t => [t]
  | _ => []

def Ended (calls : List Int) (task : RepeatedTask) : Prop :=
  task.cancelled = true ∧ task.calls ++ task.admittedCall = calls

private theorem Ended.step {calls : List Int} (ended : task.Ended calls) (event : Event) :
    (task.step dt event).Ended calls := by
  obtain ⟨cancelled, same⟩ := ended
  have idle : task.admittedCall = [] → task.calls ++ [] = calls := fun none => none ▸ same
  cases event with
  | run =>
    change task.run.Ended calls
    unfold run
    rw [cancelled]
    split
    · rename_i t here
      exact ⟨rfl, idle (by unfold admittedCall; rw [here])⟩
    · exact ⟨cancelled, same⟩
  | callBegins =>
    change task.callBegins.Ended calls
    unfold callBegins
    split
    · rename_i t admitted
      unfold admittedCall at same
      rw [admitted] at same
      exact ⟨cancelled, (List.append_nil _).trans same⟩
    · exact ⟨cancelled, same⟩
  | callReturns cont =>
    change (task.callReturns cont).Ended calls
    unfold callReturns
    split
    · rename_i t here
      have none := idle (by unfold admittedCall; rw [here])
      split
      · cases fn : task.fn <;> exact ⟨cancelled, none⟩
      · exact ⟨rfl, none⟩
    · exact ⟨cancelled, same⟩
  | callThrows =>
    change task.callThrows.Ended calls
    unfold callThrows
    split
    · rename_i t here
      exact ⟨cancelled, idle (by unfold admittedCall; rw [here])⟩
    · exact ⟨cancelled, same⟩
  | reschedule =>
    change (task.reschedule dt).Ended calls
    unfold reschedule
    split
    · rename_i t here
      exact ⟨cancelled, idle (by unfold admittedCall; rw [here])⟩
    · exact ⟨cancelled, same⟩
  | cancel => exact ⟨rfl, same⟩
  | destroy => exact ⟨rfl, same⟩
  | destroyLocked =>
    change task.destroyLocked.Ended calls
    unfold destroyLocked
    split <;> exact ⟨cancelled, same⟩
  | stop =>
    change task.dropped.Ended calls
    unfold dropped
    split
    · rename_i t here
      exact ⟨cancelled, idle (by unfold admittedCall; rw [here])⟩
    · exact ⟨cancelled, same⟩

/-- Once the task is cancelled no call begins but the one that had passed the test, and once
a `destroy` has returned none is in progress or about to begin. -/
theorem calls_end_once_cancelled (start dt : Int) (events later : List Event)
    (cancelled : (Run.after (step dt) (scheduleAtFixedRate start) events).cancelled = true) :
    Run.Always (step dt) (fun task =>
        task.calls ++ task.admittedCall =
          (Run.after (step dt) (scheduleAtFixedRate start) events).calls ++
            (Run.after (step dt) (scheduleAtFixedRate start) events).admittedCall ∧
          (task.destroyed = true → task.isLocked = false))
      (Run.after (step dt) (scheduleAtFixedRate start) events) later := by
  have sound := (sound_along_every_run start dt events).last
  generalize Run.after (step dt) (scheduleAtFixedRate start) events = reached at cancelled sound ⊢
  have always : Run.Always (step dt) (fun task =>
      task.Ended (reached.calls ++ reached.admittedCall) ∧ task.Sound start dt) reached later :=
    Run.always_of_preserved (fun _ event holds => ⟨holds.1.step event, holds.2.step event⟩)
      ⟨⟨cancelled, rfl⟩, sound⟩ later
  apply always.imp
  intro task holds
  refine ⟨holds.1.2, ?_⟩
  intro destroyed
  cases locked : task.isLocked with
  | false => rfl
  | true => exact absurd ((holds.2.released destroyed).symm.trans (holds.2.owned locked)) nofun

/-- Cancelled between the test and the second call, which begins, and destroyed in it. -/
theorem calls_end_once_cancelled_midway :
    Run.Always (step 20) (fun task =>
        task.calls ++ task.admittedCall = [100, 120] ∧
          (task.destroyed = true → task.isLocked = false))
      (Run.after (step 20) (scheduleAtFixedRate 100)
        [.run, .callBegins, .callReturns true, .reschedule, .run, .cancel])
      [.callBegins, .destroy, .destroyLocked, .callReturns true, .destroyLocked, .reschedule,
        .run, .callBegins] :=
  calls_end_once_cancelled 100 20 [.run, .callBegins, .callReturns true, .reschedule, .run, .cancel]
    [.callBegins, .destroy, .destroyLocked, .callReturns true, .destroyLocked, .reschedule,
      .run, .callBegins] rfl

end RepeatedTask

end SipCore
