/-
The speaker indicators of the video mixer. What the participants report is kept raw;
what is displayed follows it at once when somebody begins to speak and after a hold
time when they stop. One stream on its own is a small machine, and every operation of
the mixer comes to one step of that machine in each stream.
-/

import SipCore.Library.AssocMap
import SipCore.Library.GuardedRun

namespace SipCore

abbrev SteadyTime := Int

structure VoiceStates where
  voiceActivityRaw : AssocMap String Bool := .empty
  voiceActivityDisplay : AssocMap String Bool := .empty
  voiceInactiveDeadlines : AssocMap String SteadyTime := .empty
  voiceInactiveHoldMs : Int := 500
  layoutUpdated : Nat := 0

namespace VoiceStates

def milliseconds (count : Int) : Int := count * 1000000

def clampVoiceInactiveHoldMs (holdMs : Int) : Int := if holdMs < 0 then 0 else holdMs

def updateLayout (mixer : VoiceStates) : VoiceStates :=
  { mixer with layoutUpdated := mixer.layoutUpdated + 1 }

/-- The layout is updated if an operation found that it changed. -/
def conclude (outcome : VoiceStates × Bool) : VoiceStates :=
  if outcome.2 then outcome.1.updateLayout else outcome.1

def previousRaw (mixer : VoiceStates) (streamId : String) : Bool :=
  (mixer.voiceActivityRaw.find? streamId).getD false

def previousDisplay (mixer : VoiceStates) (streamId : String) : Bool :=
  (mixer.voiceActivityDisplay.find? streamId).getD false

def holdUntil (mixer : VoiceStates) (now : SteadyTime) : SteadyTime :=
  now + milliseconds mixer.voiceInactiveHoldMs

/-- With the flag `layoutChanged`, which is only ever raised. -/
def applyVoiceActivityStateLocked (streamId : String) (state : Bool) (now : SteadyTime)
    (mixer : VoiceStates) (layoutChanged : Bool) : VoiceStates × Bool :=
  if mixer.voiceActivityRaw.find? streamId = none ∧ state = false then (mixer, layoutChanged)
  else if mixer.previousRaw streamId = state then (mixer, layoutChanged)
  else if state then
    ({ mixer with
        voiceActivityRaw := mixer.voiceActivityRaw.assign streamId state
        voiceInactiveDeadlines := mixer.voiceInactiveDeadlines.erase streamId
        voiceActivityDisplay := mixer.voiceActivityDisplay.assign streamId true },
      layoutChanged || !mixer.previousDisplay streamId)
  else if mixer.voiceInactiveHoldMs = 0 then
    ({ mixer with
        voiceActivityRaw := mixer.voiceActivityRaw.assign streamId state
        voiceInactiveDeadlines := mixer.voiceInactiveDeadlines.erase streamId
        voiceActivityDisplay := mixer.voiceActivityDisplay.assign streamId false },
      layoutChanged || mixer.previousDisplay streamId)
  else if mixer.previousDisplay streamId then
    ({ mixer with
        voiceActivityRaw := mixer.voiceActivityRaw.assign streamId state
        voiceInactiveDeadlines :=
          mixer.voiceInactiveDeadlines.assign streamId (mixer.holdUntil now) },
      layoutChanged)
  else
    ({ mixer with
        voiceActivityRaw := mixer.voiceActivityRaw.assign streamId state
        voiceInactiveDeadlines := mixer.voiceInactiveDeadlines.erase streamId },
      layoutChanged)

def removeStaleVoiceState (states : AssocMap String Bool) (outcome : VoiceStates × Bool)
    (entry : String × Bool) : VoiceStates × Bool :=
  if states.contains entry.1 then outcome
  else
    ({ outcome.1 with
        voiceActivityRaw := outcome.1.voiceActivityRaw.erase entry.1
        voiceActivityDisplay := outcome.1.voiceActivityDisplay.erase entry.1
        voiceInactiveDeadlines := outcome.1.voiceInactiveDeadlines.erase entry.1 },
      outcome.2 || outcome.1.previousDisplay entry.1)

def removeStaleVoiceStatesLocked (states : AssocMap String Bool)
    (outcome : VoiceStates × Bool) : VoiceStates × Bool :=
  outcome.1.voiceActivityRaw.entries.foldl (removeStaleVoiceState states) outcome

def expireVoiceHold (now : SteadyTime) (outcome : VoiceStates × Bool)
    (entry : String × SteadyTime) : VoiceStates × Bool :=
  match outcome.1.voiceActivityRaw.find? entry.1 with
  | none =>
    ({ outcome.1 with
        voiceActivityDisplay := outcome.1.voiceActivityDisplay.erase entry.1
        voiceInactiveDeadlines := outcome.1.voiceInactiveDeadlines.erase entry.1 },
      outcome.2)
  | some true =>
    ({ outcome.1 with
        voiceInactiveDeadlines := outcome.1.voiceInactiveDeadlines.erase entry.1 },
      outcome.2)
  | some false =>
    if entry.2 > now then outcome
    else
      ({ outcome.1 with
          voiceActivityDisplay :=
            outcome.1.voiceActivityDisplay.modify entry.1 (fun _ => false)
          voiceInactiveDeadlines := outcome.1.voiceInactiveDeadlines.erase entry.1 },
        outcome.2 || outcome.1.previousDisplay entry.1)

def expireVoiceHoldsLocked (now : SteadyTime) (mixer : VoiceStates) : VoiceStates × Bool :=
  mixer.voiceInactiveDeadlines.entries.foldl (expireVoiceHold now) (mixer, false)

/-- The body of the loop over the raw states after the hold time has changed. -/
def adjustVoiceHold (now : SteadyTime) (outcome : VoiceStates × Bool)
    (entry : String × Bool) : VoiceStates × Bool :=
  if entry.2 || !outcome.1.previousDisplay entry.1 then
    ({ outcome.1 with
        voiceInactiveDeadlines := outcome.1.voiceInactiveDeadlines.erase entry.1 },
      outcome.2)
  else if outcome.1.voiceInactiveHoldMs = 0 then
    ({ outcome.1 with
        voiceActivityDisplay := outcome.1.voiceActivityDisplay.assign entry.1 false
        voiceInactiveDeadlines := outcome.1.voiceInactiveDeadlines.erase entry.1 },
      true)
  else
    ({ outcome.1 with
        voiceInactiveDeadlines :=
          outcome.1.voiceInactiveDeadlines.assign entry.1 (outcome.1.holdUntil now) },
      outcome.2)

def setVoiceActivity (streamId : String) (state : Bool) (now : SteadyTime)
    (mixer : VoiceStates) : VoiceStates :=
  conclude (mixer.applyVoiceActivityStateLocked streamId state now false)

def setVoiceActivities (states : AssocMap String Bool) (now : SteadyTime)
    (mixer : VoiceStates) : VoiceStates :=
  conclude (removeStaleVoiceStatesLocked states
    (states.entries.foldl (fun outcome entry =>
      outcome.1.applyVoiceActivityStateLocked entry.1 entry.2 now outcome.2) (mixer, false)))

def setVoiceInactiveHoldMs (holdMs : Int) (now : SteadyTime) (mixer : VoiceStates) :
    VoiceStates :=
  if mixer.voiceInactiveHoldMs = clampVoiceInactiveHoldMs holdMs then mixer
  else
    conclude (mixer.voiceActivityRaw.entries.foldl (adjustVoiceHold now)
      ({ mixer with voiceInactiveHoldMs := clampVoiceInactiveHoldMs holdMs }, false))

/-- Pending deadlines are left as they are. -/
def setParameters (holdMs : Int) (mixer : VoiceStates) : VoiceStates :=
  updateLayout { mixer with voiceInactiveHoldMs := clampVoiceInactiveHoldMs holdMs }

def expireVoiceHolds (now : SteadyTime) (mixer : VoiceStates) : VoiceStates :=
  conclude (mixer.expireVoiceHoldsLocked now)

inductive Event where
  | setVoiceActivity (streamId : String) (state : Bool) (now : SteadyTime)
  | setVoiceActivities (states : AssocMap String Bool) (now : SteadyTime)
  | setVoiceInactiveHoldMs (holdMs : Int) (now : SteadyTime)
  | setParameters (holdMs : Int)
  | expireVoiceHolds (now : SteadyTime)

def step (mixer : VoiceStates) : Event → VoiceStates
  | .setVoiceActivity streamId state now => mixer.setVoiceActivity streamId state now
  | .setVoiceActivities states now => mixer.setVoiceActivities states now
  | .setVoiceInactiveHoldMs holdMs now => mixer.setVoiceInactiveHoldMs holdMs now
  | .setParameters holdMs => mixer.setParameters holdMs
  | .expireVoiceHolds now => mixer.expireVoiceHolds now

end VoiceStates

variable (now : SteadyTime) (states : AssocMap String Bool)

variable (holdMs : Int) (outcome : VoiceStates × Bool)

structure StreamVoice where
  raw : Option Bool
  display : Option Bool
  deadline : Option SteadyTime
  holdMs : Int
  deriving DecidableEq, Repr

namespace StreamVoice

variable (voice : StreamVoice)

def displayed : Bool := voice.display.getD false

def holdUntil (now : SteadyTime) : SteadyTime := now + VoiceStates.milliseconds voice.holdMs

def report (state : Bool) (now : SteadyTime) : StreamVoice :=
  if voice.raw.getD false = state then voice
  else if state then { voice with raw := some true, display := some true, deadline := none }
  else if voice.holdMs = 0 then
    { voice with raw := some false, display := some false, deadline := none }
  else if voice.displayed then
    { voice with raw := some false, deadline := some (voice.holdUntil now) }
  else { voice with raw := some false, deadline := none }

def forget : StreamVoice := { voice with raw := none, display := none, deadline := none }

/-- A report in which every stream that is not named is forgotten. -/
def reportAll (state : Option Bool) (now : SteadyTime) : StreamVoice :=
  match state with
  | some state => voice.report state now
  | none => voice.raw.elim voice (fun _ => voice.forget)

def adjustAt (raw : Bool) (now : SteadyTime) : StreamVoice :=
  if raw || !voice.displayed then { voice with deadline := none }
  else if voice.holdMs = 0 then { voice with display := some false, deadline := none }
  else { voice with deadline := some (voice.holdUntil now) }

def adjust (now : SteadyTime) : StreamVoice :=
  voice.raw.elim voice (fun raw => voice.adjustAt raw now)

def setHold (holdMs : Int) (now : SteadyTime) : StreamVoice :=
  if voice.holdMs = VoiceStates.clampVoiceInactiveHoldMs holdMs then voice
  else adjust { voice with holdMs := VoiceStates.clampVoiceInactiveHoldMs holdMs } now

def expireAt (deadline now : SteadyTime) : StreamVoice :=
  match voice.raw with
  | none => { voice with display := none, deadline := none }
  | some true => { voice with deadline := none }
  | some false =>
    if deadline > now then voice
    else { voice with display := voice.display.map (fun _ => false), deadline := none }

def expire (now : SteadyTime) : StreamVoice :=
  voice.deadline.elim voice (fun deadline => voice.expireAt deadline now)

def step (streamId : String) (voice : StreamVoice) : VoiceStates.Event → StreamVoice
  | .setVoiceActivity reported state now =>
    if streamId = reported then voice.report state now else voice
  | .setVoiceActivities states now => voice.reportAll (states.find? streamId) now
  | .setVoiceInactiveHoldMs holdMs now => voice.setHold holdMs now
  | .setParameters holdMs =>
    { voice with holdMs := VoiceStates.clampVoiceInactiveHoldMs holdMs }
  | .expireVoiceHolds now => voice.expire now

structure Agrees : Prop where
  active_displayed : voice.raw = some true → voice.display = some true
  held_pending : voice.display = some true → voice.raw ≠ some true → voice.deadline ≠ none
  pending_inactive : voice.deadline ≠ none → voice.raw = some false

variable {voice}

theorem Agrees.of_active (active : voice.raw = some true) (shown : voice.display = some true)
    (cleared : voice.deadline = none) : voice.Agrees := by
  constructor
  · intro _
    exact shown
  · intro _ inactive
    exact absurd active inactive
  · intro pending
    exact absurd cleared pending

theorem Agrees.of_hidden (inactive : voice.raw ≠ some true) (hidden : voice.display ≠ some true)
    (cleared : voice.deadline = none) : voice.Agrees := by
  constructor
  · intro active
    exact absurd active inactive
  · intro shown _
    exact absurd shown hidden
  · intro pending
    exact absurd cleared pending

theorem Agrees.of_held (inactive : voice.raw = some false) (pending : voice.deadline ≠ none) :
    voice.Agrees := by
  constructor
  · intro active
    rw [inactive] at active
    cases active
  · intro _ _
    exact pending
  · intro _
    exact inactive

private theorem displayed_iff : voice.displayed = true ↔ voice.display = some true := by
  unfold displayed
  cases voice.display with
  | none => decide
  | some state => cases state <;> decide

theorem not_displayed (voice : StreamVoice) (hidden : voice.displayed = false) :
    voice.display ≠ some true := by
  intro shown
  rw [displayed_iff.mpr shown] at hidden
  cases hidden

section

variable (agrees : voice.Agrees)
include agrees

theorem Agrees.report (state : Bool) (now : SteadyTime) : (voice.report state now).Agrees := by
  unfold StreamVoice.report
  split
  · exact agrees
  · split
    · exact .of_active rfl rfl rfl
    · split
      · exact .of_hidden (by simp) (by simp) rfl
      · split
        · exact .of_held rfl (Option.some_ne_none _)
        · rename_i hidden
          exact .of_hidden (by simp) (not_displayed voice (by simpa using hidden)) rfl

theorem Agrees.reportAll (state : Option Bool) (now : SteadyTime) :
    (voice.reportAll state now).Agrees := by
  cases state with
  | some state => exact agrees.report state now
  | none =>
    change (voice.raw.elim voice (fun _ => voice.forget)).Agrees
    cases voice.raw with
    | none => exact agrees
    | some raw => exact .of_hidden (by simp [forget]) (by simp [forget]) rfl

theorem Agrees.with_hold : Agrees { voice with holdMs := holdMs } :=
  ⟨agrees.active_displayed, agrees.held_pending, agrees.pending_inactive⟩

theorem Agrees.adjust : (voice.adjust now).Agrees := by
  unfold StreamVoice.adjust
  cases raw : voice.raw with
  | none => exact agrees
  | some state =>
    change (voice.adjustAt state now).Agrees
    unfold adjustAt
    cases state with
    | true =>
      exact .of_active raw (agrees.active_displayed raw) rfl
    | false =>
      have inactive : voice.raw ≠ some true := by simp [raw]
      split_ifs with hidden immediate
      · exact .of_hidden inactive (not_displayed voice (by simpa using hidden)) rfl
      · exact .of_hidden inactive (by simp) rfl
      · exact .of_held raw (Option.some_ne_none _)

theorem Agrees.setHold (now : SteadyTime) : (voice.setHold holdMs now).Agrees := by
  unfold StreamVoice.setHold
  split
  · exact agrees
  · exact (agrees.with_hold _).adjust now

theorem Agrees.expire : (voice.expire now).Agrees := by
  unfold StreamVoice.expire
  cases pending : voice.deadline with
  | none => exact agrees
  | some deadline =>
    change (voice.expireAt deadline now).Agrees
    unfold expireAt
    split
    · rename_i absent
      exact .of_hidden (by simp [absent]) (by simp) rfl
    · rename_i active
      exact .of_active active (agrees.active_displayed active) rfl
    · rename_i inactive
      split
      · exact agrees
      · apply Agrees.of_hidden
        · simp [inactive]
        · cases voice.display <;> simp
        · rfl

theorem Agrees.step (streamId : String) (event : VoiceStates.Event) :
    (voice.step streamId event).Agrees := by
  cases event with
  | setVoiceActivity reported state now =>
    unfold StreamVoice.step
    dsimp only
    split
    · exact agrees.report state now
    · exact agrees
  | setVoiceActivities states now => exact agrees.reportAll _ now
  | setVoiceInactiveHoldMs holdMs now => exact agrees.setHold holdMs now
  | setParameters holdMs => exact agrees.with_hold _
  | expireVoiceHolds now => exact agrees.expire now

end

end StreamVoice

namespace VoiceStates

def voice (mixer : VoiceStates) (streamId : String) : StreamVoice :=
  { raw := mixer.voiceActivityRaw.find? streamId
    display := mixer.voiceActivityDisplay.find? streamId
    deadline := mixer.voiceInactiveDeadlines.find? streamId
    holdMs := mixer.voiceInactiveHoldMs }

def outcomeVoice (outcome : VoiceStates × Bool) (streamId : String) : StreamVoice :=
  outcome.1.voice streamId

theorem voice_conclude (streamId : String) :
    (conclude outcome).voice streamId = outcomeVoice outcome streamId := by
  unfold conclude
  split <;> rfl

theorem voice_applyVoiceActivityStateLocked (reported : String) (state : Bool) (now : SteadyTime)
    (mixer : VoiceStates) (layoutChanged : Bool) (streamId : String) :
    outcomeVoice (mixer.applyVoiceActivityStateLocked reported state now layoutChanged) streamId =
      if streamId = reported then (mixer.voice streamId).report state now
      else mixer.voice streamId := by
  unfold applyVoiceActivityStateLocked outcomeVoice
  by_cases same : streamId = reported
  · subst same
    rw [if_pos rfl]
    unfold StreamVoice.report voice previousRaw previousDisplay StreamVoice.displayed holdUntil
      StreamVoice.holdUntil
    by_cases absent : mixer.voiceActivityRaw.find? streamId = none ∧ state = false
    · rw [if_pos absent, absent.1, absent.2]
      rfl
    · cases state <;> split_ifs <;> simp [AssocMap.find?_assign, AssocMap.find?_erase, *]
  · split_ifs <;> simp [voice, AssocMap.find?_assign, AssocMap.find?_erase, same]

private theorem voice_removeStaleVoiceState (entry : String × Bool) (streamId : String) :
    outcomeVoice (removeStaleVoiceState states outcome entry) streamId =
      if streamId = entry.1 then
        if states.contains streamId then outcomeVoice outcome streamId
        else (outcomeVoice outcome streamId).forget
      else outcomeVoice outcome streamId := by
  unfold removeStaleVoiceState outcomeVoice
  by_cases same : streamId = entry.1
  · subst same
    rw [if_pos rfl]
    split_ifs <;> simp [voice, StreamVoice.forget, AssocMap.find?_erase]
  · split_ifs <;> simp [voice, AssocMap.find?_erase, same]

private theorem voice_removeStaleVoiceStatesLocked (streamId : String) :
    outcomeVoice (removeStaleVoiceStatesLocked states outcome) streamId =
      (outcomeVoice outcome streamId).raw.elim (outcomeVoice outcome streamId) (fun _ =>
        if states.contains streamId then outcomeVoice outcome streamId
        else (outcomeVoice outcome streamId).forget) :=
  AssocMap.view_foldl_entries outcomeVoice (removeStaleVoiceState states)
    (fun visited _ voice => if states.contains visited then voice else voice.forget)
    (voice_removeStaleVoiceState states) outcome.1.voiceActivityRaw outcome streamId

private theorem voice_expireVoiceHold (entry : String × SteadyTime) (streamId : String) :
    outcomeVoice (expireVoiceHold now outcome entry) streamId =
      if streamId = entry.1 then
        (outcomeVoice outcome streamId).expireAt entry.2 now
      else outcomeVoice outcome streamId := by
  unfold expireVoiceHold outcomeVoice
  by_cases same : streamId = entry.1
  · subst same
    rw [if_pos rfl]
    unfold StreamVoice.expireAt voice
    split
    · simp [AssocMap.find?_erase, *]
    · simp [AssocMap.find?_erase, *]
    · split_ifs <;> simp [AssocMap.find?_erase, AssocMap.find?_modify, *]
  · split
    · simp [voice, AssocMap.find?_erase, same]
    · simp [voice, AssocMap.find?_erase, same]
    · split_ifs <;> simp [voice, AssocMap.find?_erase, AssocMap.find?_modify, same]

private theorem voice_expireVoiceHolds (mixer : VoiceStates) (streamId : String) :
    (mixer.expireVoiceHolds now).voice streamId = (mixer.voice streamId).expire now := by
  have loop := AssocMap.view_foldl_entries outcomeVoice (expireVoiceHold now)
    (fun _ deadline voice => voice.expireAt deadline now)
    (voice_expireVoiceHold now) mixer.voiceInactiveDeadlines (mixer, false) streamId
  unfold expireVoiceHolds expireVoiceHoldsLocked
  rw [voice_conclude, loop]
  rfl

private theorem voice_adjustVoiceHold (entry : String × Bool) (streamId : String) :
    outcomeVoice (adjustVoiceHold now outcome entry) streamId =
      if streamId = entry.1 then
        (outcomeVoice outcome streamId).adjustAt entry.2 now
      else outcomeVoice outcome streamId := by
  unfold adjustVoiceHold outcomeVoice
  by_cases same : streamId = entry.1
  · subst same
    rw [if_pos rfl]
    unfold StreamVoice.adjustAt voice previousDisplay StreamVoice.displayed holdUntil
      StreamVoice.holdUntil
    split_ifs <;> simp [AssocMap.find?_erase, AssocMap.find?_assign, *]
  · split_ifs <;> simp [voice, AssocMap.find?_erase, AssocMap.find?_assign, same]

theorem voice_setVoiceInactiveHoldMs (now : SteadyTime) (mixer : VoiceStates) (streamId : String) :
    (mixer.setVoiceInactiveHoldMs holdMs now).voice streamId =
      (mixer.voice streamId).setHold holdMs now := by
  have loop := AssocMap.view_foldl_entries outcomeVoice (adjustVoiceHold now)
    (fun _ raw voice => voice.adjustAt raw now)
    (voice_adjustVoiceHold now) mixer.voiceActivityRaw
    ({ mixer with voiceInactiveHoldMs := clampVoiceInactiveHoldMs holdMs }, false) streamId
  unfold setVoiceInactiveHoldMs StreamVoice.setHold
  by_cases unchanged : mixer.voiceInactiveHoldMs = clampVoiceInactiveHoldMs holdMs
  · rw [if_pos unchanged]
    exact (if_pos unchanged).symm
  · rw [if_neg unchanged, voice_conclude, loop]
    exact (if_neg unchanged).symm

theorem voice_setVoiceActivities (now : SteadyTime) (mixer : VoiceStates) (streamId : String) :
    (mixer.setVoiceActivities states now).voice streamId =
      (mixer.voice streamId).reportAll (states.find? streamId) now := by
  have loop := AssocMap.view_foldl_entries outcomeVoice
    (fun outcome entry => outcome.1.applyVoiceActivityStateLocked entry.1 entry.2 now outcome.2)
    (fun _ state voice => voice.report state now)
    (fun outcome entry => voice_applyVoiceActivityStateLocked entry.1 entry.2 now outcome.1 outcome.2)
    states (mixer, false) streamId
  unfold setVoiceActivities
  rw [voice_conclude, voice_removeStaleVoiceStatesLocked, loop, AssocMap.contains]
  cases named : states.find? streamId with
  | none => simp [StreamVoice.reportAll, outcomeVoice]
  | some state =>
    simp only [StreamVoice.reportAll, outcomeVoice, Option.elim_some, Option.isSome_some, if_true]
    cases ((mixer.voice streamId).report state now).raw <;> rfl

private theorem voice_step (mixer : VoiceStates) (event : Event) (streamId : String) :
    (mixer.step event).voice streamId = (mixer.voice streamId).step streamId event := by
  cases event with
  | setVoiceActivity reported state now =>
    change (mixer.setVoiceActivity reported state now).voice streamId = _
    unfold setVoiceActivity
    rw [voice_conclude, voice_applyVoiceActivityStateLocked]
    rfl
  | setVoiceActivities states now => exact voice_setVoiceActivities states now mixer streamId
  | setVoiceInactiveHoldMs holdMs now =>
    exact voice_setVoiceInactiveHoldMs holdMs now mixer streamId
  | setParameters holdMs => rfl
  | expireVoiceHolds now => exact voice_expireVoiceHolds now mixer streamId

/-! ### The indicators along every run -/

def Consistent (mixer : VoiceStates) : Prop :=
  ∀ streamId, (mixer.voice streamId).Agrees

private theorem consistent_initially (holdMs : Int) :
    Consistent { voiceInactiveHoldMs := holdMs } := by
  intro streamId
  exact StreamVoice.Agrees.of_hidden nofun nofun rfl

theorem Consistent.step {mixer : VoiceStates} (consistent : mixer.Consistent) (event : Event) :
    (mixer.step event).Consistent := by
  intro streamId
  rw [voice_step]
  exact (consistent streamId).step streamId event

/-- No order of the times is needed. -/
theorem indicators_agree_along_every_run (events : List Event) :
    Run.Always step (fun mixer => ∀ streamId,
      (mixer.voiceActivityRaw.find? streamId = some true →
        mixer.voiceActivityDisplay.find? streamId = some true) ∧
      (mixer.voiceActivityDisplay.find? streamId = some true →
        mixer.voiceActivityRaw.find? streamId ≠ some true →
        mixer.voiceInactiveDeadlines.contains streamId) ∧
      (mixer.voiceInactiveDeadlines.contains streamId →
        mixer.voiceActivityRaw.find? streamId = some false)) {} events := by
  have always : Run.Always step Consistent {} events :=
    Run.always_of_preserved (fun mixer event consistent => consistent.step event)
      (consistent_initially 500) events
  apply always.imp
  intro mixer consistent streamId
  have agrees := consistent streamId
  have pending : mixer.voiceInactiveDeadlines.contains streamId = true ↔
      mixer.voiceInactiveDeadlines.find? streamId ≠ none := Option.isSome_iff_ne_none
  rw [pending]
  exact ⟨agrees.active_displayed, agrees.held_pending, agrees.pending_inactive⟩

-- Somebody who stops to speak is displayed for the hold time.
example :
    (Run.after step {} [.setVoiceActivity "a_video_0" true 7,
      .setVoiceActivity "a_video_0" false 10]).voice "a_video_0" =
      ⟨some false, some true, some 500000010, 500⟩ := by decide +kernel

end VoiceStates
end SipCore
