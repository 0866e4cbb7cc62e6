/-
How often a conference tells its participants who is speaking. The first change is sent
at once, a change that follows too soon is left to a flush. The calls come from any
thread, and each reads the clock before it takes the mutex. The steps are the sections
between which threads can be interrupted; the scheduler is never early.
-/

import Mathlib.Algebra.Order.Group.Int
import SipCore.Library.GuardedRun

namespace SipCore

def voiceActivityMinInterval : Int := 250 * 1000000

inductive VoiceRecord where
  | requested
  | sent
  deriving DecidableEq, Repr

/-- The fields of the conference, and around them what its threads are at: the clock
readings of the calls that wait for the mutex, when the scheduled flushes are due, how
many threads have to send and how many are sending. The times of the sends and the order
of requests and sends are kept for the record, oldest first. -/
structure VoiceThrottle where
  clock : Int
  lastVoiceActivitySent : Int := 0
  voiceActivitySendPending : Bool := false
  callers : List Int := []
  flushes : List Int := []
  toSend : Nat := 0
  sending : Nat := 0
  sendTimes : List Int := []
  history : List VoiceRecord := []
  deriving DecidableEq, Repr

namespace VoiceThrottle

def sendVoiceActivity (throttle : VoiceThrottle) (now : Int) : VoiceThrottle :=
  if throttle.voiceActivitySendPending then throttle
  else if now - throttle.lastVoiceActivitySent < voiceActivityMinInterval then
    { throttle with
      voiceActivitySendPending := true
      flushes := throttle.flushes ++ [throttle.clock +
        (voiceActivityMinInterval - (now - throttle.lastVoiceActivitySent))] }
  else
    { throttle with
      lastVoiceActivitySent := now
      sendTimes := throttle.sendTimes ++ [now]
      toSend := throttle.toSend + 1 }

def flushVoiceActivity (throttle : VoiceThrottle) : VoiceThrottle :=
  { throttle with
    voiceActivitySendPending := false
    lastVoiceActivitySent := throttle.clock
    sendTimes := throttle.sendTimes ++ [throttle.clock]
    toSend := throttle.toSend + 1 }

def enter (throttle : VoiceThrottle) (caller : Nat) : VoiceThrottle :=
  match throttle.callers[caller]? with
  | none => throttle
  | some now =>
    sendVoiceActivity { throttle with callers := throttle.callers.eraseIdx caller } now

/-- The scheduler runs one of its tasks, at the earliest when it is due. -/
def runTask (throttle : VoiceThrottle) (task : Nat) : VoiceThrottle :=
  match throttle.flushes[task]? with
  | none => throttle
  | some due =>
    if due ≤ throttle.clock then
      flushVoiceActivity { throttle with flushes := throttle.flushes.eraseIdx task }
    else throttle

def doSendVoiceActivity (throttle : VoiceThrottle) : VoiceThrottle :=
  if throttle.toSend = 0 then throttle
  else
    { throttle with
      toSend := throttle.toSend - 1
      sending := throttle.sending + 1
      history := throttle.history ++ [.sent] }

inductive VoiceEvent where
  | tick (elapsed : Nat)
  | request
  | enter (caller : Nat)
  | runTask (task : Nat)
  | doSend
  | finish
  deriving DecidableEq, Repr

def step (throttle : VoiceThrottle) : VoiceEvent → VoiceThrottle
  | .tick elapsed => { throttle with clock := throttle.clock + elapsed }
  | .request =>
    { throttle with
      callers := throttle.callers ++ [throttle.clock]
      history := throttle.history ++ [.requested] }
  | .enter caller => throttle.enter caller
  | .runTask task => throttle.runTask task
  | .doSend => throttle.doSendVoiceActivity
  | .finish => { throttle with sending := throttle.sending - 1 }

def Spaced (times : List Int) : Prop :=
  times.Pairwise (fun earlier later => earlier + voiceActivityMinInterval ≤ later)

def NothingUnsent (history : List VoiceRecord) : Prop :=
  ∀ before later, history = before ++ .requested :: later → .sent ∈ later

def NoSendInProgress (throttle : VoiceThrottle) : Prop :=
  throttle.callers = [] ∧ throttle.toSend = 0 ∧ throttle.sending = 0

structure Promised (throttle : VoiceThrottle) : Prop where
  spaced : Spaced throttle.sendTimes
  oneFlush : throttle.flushes.length ≤ 1
  latestSent : throttle.flushes = [] → throttle.NoSendInProgress → NothingUnsent throttle.history

/-! ### The invariant -/

/-- The flag stands for the one scheduled flush, which is due an interval after the last
recorded time. A request that is not followed by a send has a call, a flush or a sender
that will see to it. -/
structure Sound (throttle : VoiceThrottle) : Prop where
  spaced : Spaced throttle.sendTimes
  recorded : ∀ time ∈ throttle.sendTimes, time ≤ throttle.lastVoiceActivitySent
  read : ∀ now ∈ throttle.callers, now ≤ throttle.clock
  scheduled : throttle.flushes.length = if throttle.voiceActivitySendPending then 1 else 0
  due : ∀ due ∈ throttle.flushes,
    throttle.lastVoiceActivitySent + voiceActivityMinInterval ≤ due
  answered : NothingUnsent throttle.history ∨ throttle.callers ≠ [] ∨ throttle.flushes ≠ [] ∨
    throttle.toSend ≠ 0

private theorem nothingUnsent_concat_sent (history : List VoiceRecord) :
    NothingUnsent (history ++ [.sent]) := by
  intro before later split
  -- the last record is the send, so it is among the later ones
  rcases List.eq_nil_or_concat later with rfl | ⟨front, last, rfl⟩
  · have same := List.append_inj_right' split rfl
    cases same
  · rw [List.concat_eq_append, ← List.cons_append, ← List.append_assoc] at split
    have same := List.append_inj_right' split rfl
    rw [List.concat_eq_append, ← same]
    exact List.mem_append_right front (List.mem_singleton_self _)

theorem spaced_concat {times : List Int} {last time : Int} (spaced : Spaced times)
    (recorded : ∀ earlier ∈ times, earlier ≤ last)
    (later : last + voiceActivityMinInterval ≤ time) : Spaced (times ++ [time]) := by
  refine List.pairwise_append.mpr ⟨spaced, List.pairwise_singleton _ _, ?_⟩
  intro earlier member newest newestMember
  rw [List.mem_singleton.mp newestMember]
  have bound := recorded earlier member
  omega

theorem recorded_concat {times : List Int} {last time : Int}
    (recorded : ∀ earlier ∈ times, earlier ≤ last)
    (later : last + voiceActivityMinInterval ≤ time) :
    ∀ earlier ∈ times ++ [time], earlier ≤ time := by
  intro earlier member
  rcases List.mem_append.mp member with before | newest
  · have bound := recorded earlier before
    unfold voiceActivityMinInterval at later
    omega
  · exact Int.le_of_eq (List.mem_singleton.mp newest)

section Steps

variable {throttle : VoiceThrottle}

private theorem sendVoiceActivity_cases (throttle : VoiceThrottle) (now : Int) :
    (throttle.voiceActivitySendPending = true ∧ throttle.sendVoiceActivity now = throttle) ∨
    (throttle.voiceActivitySendPending = false ∧
      now < throttle.lastVoiceActivitySent + voiceActivityMinInterval ∧
      throttle.sendVoiceActivity now =
        { throttle with
          voiceActivitySendPending := true
          flushes := throttle.flushes ++ [throttle.clock +
            (voiceActivityMinInterval - (now - throttle.lastVoiceActivitySent))] }) ∨
    (throttle.voiceActivitySendPending = false ∧
      throttle.lastVoiceActivitySent + voiceActivityMinInterval ≤ now ∧
      throttle.sendVoiceActivity now =
        { throttle with
          lastVoiceActivitySent := now
          sendTimes := throttle.sendTimes ++ [now]
          toSend := throttle.toSend + 1 }) := by
  unfold sendVoiceActivity
  cases pending : throttle.voiceActivitySendPending with
  | true => exact .inl ⟨rfl, if_pos rfl⟩
  | false =>
    right
    by_cases soon : now - throttle.lastVoiceActivitySent < voiceActivityMinInterval
    · left
      exact ⟨rfl, by omega, if_pos soon⟩
    · right
      exact ⟨rfl, by omega, if_neg soon⟩

theorem Sound.no_flush (sound : throttle.Sound)
    (idle : throttle.voiceActivitySendPending = false) : throttle.flushes = [] := by
  have scheduled := sound.scheduled
  rw [idle] at scheduled
  exact List.eq_nil_of_length_eq_zero scheduled

private theorem sound_enter (sound : throttle.Sound) {caller : Nat} {now : Int}
    (waiting : throttle.callers[caller]? = some now) :
    (sendVoiceActivity { throttle with callers := throttle.callers.eraseIdx caller } now).Sound := by
  have fresh : now ≤ throttle.clock := sound.read now (List.mem_of_getElem? waiting)
  have read : ∀ other ∈ throttle.callers.eraseIdx caller, other ≤ throttle.clock :=
    fun other member => sound.read other (List.mem_of_mem_eraseIdx member)
  rcases sendVoiceActivity_cases { throttle with callers := throttle.callers.eraseIdx caller } now
    with ⟨pending, left⟩ | ⟨idle, soon, left⟩ | ⟨idle, late, left⟩
  · rw [left]
    have scheduled := sound.scheduled
    rw [show throttle.voiceActivitySendPending = true from pending] at scheduled
    have flush : throttle.flushes ≠ [] := by
      intro empty
      rw [empty] at scheduled
      cases scheduled
    exact { sound with read := read, answered := .inr (.inr (.inl flush)) }
  · rw [left]
    have empty := sound.no_flush idle
    exact
      { spaced := sound.spaced
        recorded := sound.recorded
        read := read
        scheduled := by rw [empty]; rfl
        due := by
          intro due member
          rw [empty, List.nil_append, List.mem_singleton] at member
          dsimp only at member soon ⊢
          omega
        answered := by
          right; right; left
          exact List.append_ne_nil_of_right_ne_nil _ (List.cons_ne_nil _ _) }
  · rw [left]
    have empty := sound.no_flush idle
    exact
      { spaced := spaced_concat sound.spaced sound.recorded late
        recorded := recorded_concat sound.recorded late
        read := read
        scheduled := sound.scheduled
        due := by
          intro due member
          rw [empty] at member
          cases member
        answered := Or.inr (Or.inr (Or.inr (Nat.succ_ne_zero _))) }

theorem sound_flush (sound : throttle.Sound) {task : Nat} {due : Int}
    (scheduled : throttle.flushes[task]? = some due) (reached : due ≤ throttle.clock) :
    (flushVoiceActivity { throttle with flushes := throttle.flushes.eraseIdx task }).Sound := by
  have late : throttle.lastVoiceActivitySent + voiceActivityMinInterval ≤ throttle.clock :=
    Int.le_trans (sound.due due (List.mem_of_getElem? scheduled)) reached
  obtain ⟨within, _⟩ := List.getElem?_eq_some_iff.mp scheduled
  -- there was one flush, and it is this one
  have one : throttle.flushes.length = 1 := by
    have count := sound.scheduled
    split at count <;> omega
  have empty : throttle.flushes.eraseIdx task = [] := by
    apply List.eq_nil_of_length_eq_zero
    rw [List.length_eraseIdx_of_lt within, one]
  exact
    { spaced := spaced_concat sound.spaced sound.recorded late
      recorded := recorded_concat sound.recorded late
      read := sound.read
      scheduled := by
        rw [empty]
        rfl
      due := by
        intro other member
        rw [empty] at member
        cases member
      answered := Or.inr (Or.inr (Or.inr (Nat.succ_ne_zero _))) }

theorem sound_step (throttle : VoiceThrottle) (event : VoiceEvent) (sound : throttle.Sound) :
    (throttle.step event).Sound := by
  cases event with
  | tick elapsed =>
    refine { sound with read := ?_ }
    intro now member
    have bound := sound.read now member
    change now ≤ throttle.clock + elapsed
    omega
  | request =>
    refine { sound with read := ?_, answered := ?_ }
    · intro now member
      rcases List.mem_append.mp member with before | newest
      · exact sound.read now before
      · exact Int.le_of_eq (List.mem_singleton.mp newest)
    · right; left
      exact List.append_ne_nil_of_right_ne_nil _ (List.cons_ne_nil _ _)
  | enter caller =>
    change (throttle.enter caller).Sound
    unfold VoiceThrottle.enter
    cases waiting : throttle.callers[caller]? with
    | none => exact sound
    | some now => exact sound_enter sound waiting
  | runTask task =>
    change (throttle.runTask task).Sound
    unfold VoiceThrottle.runTask
    cases scheduled : throttle.flushes[task]? with
    | none => exact sound
    | some due =>
      dsimp only
      split
      · rename_i reached
        exact sound_flush sound scheduled reached
      · exact sound
  | doSend =>
    change (throttle.doSendVoiceActivity).Sound
    unfold doSendVoiceActivity
    split
    · exact sound
    · exact { sound with answered := .inl (nothingUnsent_concat_sent throttle.history) }
  | finish => exact { sound with }

theorem Sound.promised (sound : throttle.Sound) : throttle.Promised := by
  refine ⟨sound.spaced, ?_, ?_⟩
  · rw [sound.scheduled]
    split
    · exact Nat.le_refl 1
    · exact Nat.zero_le 1
  · intro noFlush quiet
    obtain ⟨noCaller, noSender, _⟩ := quiet
    rcases sound.answered with sent | caller | flush | sender
    · exact sent
    · exact absurd noCaller caller
    · exact absurd noFlush flush
    · exact absurd noSender sender

end Steps

theorem sound_initially (clock : Int) : Sound { clock := clock } where
  spaced := List.Pairwise.nil
  recorded := nofun
  read := nofun
  scheduled := rfl
  due := nofun
  answered := by
    left
    intro before later split
    exact absurd split (List.append_ne_nil_of_right_ne_nil _ (List.cons_ne_nil _ _)).symm

/-- In every state that a new conference reaches, in whatever order its threads go on:
the recorded times of the sends are an interval apart, at most one flush is scheduled,
and once no flush is scheduled and no send in progress, every request has been followed
by a send. -/
theorem promised_along_every_run (clock : Int) (events : List VoiceEvent) :
    Run.Always step Promised { clock := clock } events :=
  (Run.always_of_preserved sound_step (sound_initially clock) events).imp
    fun _ sound => sound.promised

/-- Three requests in a row: the first is sent at once, the others by one flush. -/
example :
    let throttle := Run.after step { clock := 1000000000 }
      [.request, .enter 0, .doSend, .finish, .tick 7, .request, .enter 0, .request, .enter 0,
        .tick 249999993, .runTask 0, .doSend, .finish]
    throttle.sendTimes = [1000000000, 1250000000] ∧ throttle.flushes = [] ∧
      throttle.history = [.requested, .sent, .requested, .requested, .sent] := by
  decide +kernel

end VoiceThrottle

end SipCore
