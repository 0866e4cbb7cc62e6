/-
The state of a call as the client is told it. All changes go through `setState`, which
refuses what is no transition and emits a signal where the client's view changes. The
listeners are left out: none sets the state of its own call.
-/

import SipCore.Call.Hold
import SipCore.Library.GuardedRun
import Mathlib.Data.List.Chain

namespace SipCore

inductive StateEvent where
  | incoming
  | connecting
  | ringing
  | current
  | hungup
  | busy
  | peerBusy
  | failure
  | hold
  | inactive
  | over
  deriving DecidableEq, Repr

structure ClientCall where
  callState : CallState := .inactive
  connectionState : ConnectionState := .disconnected
  isIncoming : Bool
  isSubcall : Bool := false
  signals : List (StateEvent × Int) := []
  deriving DecidableEq, Repr

namespace ClientCall

variable (call : ClientCall)

def getStateStr : StateEvent :=
  match call.callState, call.connectionState with
  | .active, .progressing => .connecting
  | .active, .ringing => if call.isIncoming then .incoming else .ringing
  | .active, .disconnected => .hungup
  | .active, _ => .current
  | .hold, .disconnected => .hungup
  | .hold, _ => .hold
  | .busy, _ => .busy
  | .peerBusy, _ => .peerBusy
  | .inactive, .progressing => .connecting
  | .inactive, .trying => .connecting
  | .inactive, .ringing => if call.isIncoming then .incoming else .ringing
  | .inactive, .connected => .current
  | .inactive, .disconnected => .inactive
  | .over, _ => .over
  | .merror, _ => .failure

def withStates (state : CallState) (connection : ConnectionState) : ClientCall :=
  { call with callState := state, connectionState := connection }

def told (event : StateEvent) (code : Int) : ClientCall :=
  { call with signals := call.signals ++ [(event, code)] }

/-- Behind the checks of `setState`. The client is told of the call itself only. -/
def enters (next : ClientCall) (code : Int) : ClientCall :=
  if call.getStateStr ≠ next.getStateStr ∧ call.isSubcall = false then
    next.told next.getStateStr code
  else next

def setStates (state : CallState) (connection : ConnectionState) (code : Int) :
    Bool × ClientCall :=
  if call.callState ≠ state then
    if call.callState.validTransition state then
      (true, call.enters (call.withStates state connection) code)
    else (false, call)
  else if call.connectionState = connection then (true, call)
  else (true, call.enters (call.withStates state connection) code)

/-- The overloads of `setState`: what is not given stays as it is. -/
structure Request where
  state : Option CallState
  connection : Option ConnectionState
  code : Int
  deriving DecidableEq, Repr

def step (request : Request) : ClientCall :=
  (call.setStates (request.state.getD call.callState)
    (request.connection.getD call.connectionState) request.code).2

def history : List StateEvent := .inactive :: call.signals.map Prod.fst

/-- The client knows the state of the call, and was told nothing twice in a row. -/
structure Informed : Prop where
  master : call.isSubcall = false
  latest : call.history.getLast? = some call.getStateStr
  changes : call.history.IsChain (· ≠ ·)

variable {call}

theorem Informed.enters (informed : call.Informed) (state : CallState)
    (connection : ConnectionState) (code : Int) :
    (call.enters (call.withStates state connection) code).Informed := by
  obtain ⟨master, latest, changes⟩ := informed
  unfold ClientCall.enters
  split
  · rename_i changed
    have longer : ((call.withStates state connection).told
        (call.withStates state connection).getStateStr code).history =
          call.history ++ [(call.withStates state connection).getStateStr] := by
      unfold history told
      rw [List.map_append]
      rfl
    refine ⟨master, ?_, ?_⟩
    · rw [longer, List.getLast?_concat]
      rfl
    · rw [longer, List.isChain_append]
      refine ⟨changes, List.isChain_singleton _, ?_⟩
      intro last isLast next isNext
      rw [latest] at isLast
      cases isLast
      cases isNext
      exact changed.1
  · rename_i unchanged
    have same : call.getStateStr = (call.withStates state connection).getStateStr := by
      by_contra changed
      exact unchanged ⟨changed, master⟩
    exact ⟨master, same ▸ latest, changes⟩

theorem Informed.step (informed : call.Informed) (request : Request) :
    (call.step request).Informed := by
  unfold ClientCall.step setStates
  split
  · split
    · exact informed.enters _ _ _
    · exact informed
  · split
    · exact informed
    · exact informed.enters _ _ _

private theorem validTransition_over {state : CallState} (other : state ≠ .over) :
    CallState.validTransition .over state = false := by
  cases state <;> first | rfl | exact absurd rfl other

theorem step_of_over (ended : call.callState = .over) (request : Request) :
    (call.step request).callState = .over ∧ (call.step request).signals = call.signals := by
  unfold step setStates
  rw [ended]
  by_cases same : request.state.getD .over = .over
  · rw [same, if_neg (fun other => other rfl)]
    split
    · exact ⟨ended, rfl⟩
    · unfold enters
      rw [if_neg (fun changed => changed.1 (by unfold getStateStr withStates; rw [ended]))]
      exact ⟨rfl, rfl⟩
  · rw [if_pos (Ne.symm same), validTransition_over same]
    exact ⟨ended, rfl⟩

/-- Whatever is asked of a call that is not part of another: the client always knows its
state and hears of changes only, and once it is over nothing more comes of it. -/
theorem client_told_of_every_change (isIncoming : Bool) (requests : List Request) :
    Run.Always step Informed { isIncoming := isIncoming } requests ∧
      ∀ first later, requests = first ++ later →
        (Run.after step { isIncoming := isIncoming } first).callState = .over →
          (Run.after step { isIncoming := isIncoming } requests).callState = .over ∧
            (Run.after step { isIncoming := isIncoming } requests).signals =
              (Run.after step { isIncoming := isIncoming } first).signals := by
  constructor
  · exact Run.always_of_preserved (fun _ request informed => informed.step request)
      ⟨rfl, rfl, List.isChain_singleton _⟩ requests
  · intro first later split ended
    rw [split, Run.after_append]
    generalize Run.after step { isIncoming := isIncoming } first = reached at ended ⊢
    have always : Run.Always step
        (fun call => call.callState = .over ∧ call.signals = reached.signals) reached later := by
      refine Run.always_of_preserved ?_ ⟨ended, rfl⟩ later
      intro call request holds
      obtain ⟨stays, same⟩ := step_of_over holds.1 request
      exact ⟨stays, same.trans holds.2⟩
    exact always.last

end ClientCall

end SipCore
