/-
Holding and resuming a call. Both change the state of the call and the hold flags of its
streams first and send a re-INVITE then. Whether a re-INVITE is sent is up to the
surroundings, attempt by attempt.
-/

import SipCore.Sdp.Session

namespace SipCore

inductive CallState where
  | inactive
  | active
  | hold
  | busy
  | peerBusy
  | merror
  | over
  deriving DecidableEq, Repr

inductive ConnectionState where
  | disconnected
  | trying
  | progressing
  | ringing
  | connected
  deriving DecidableEq, Repr

def CallState.validTransition (current next : CallState) : Bool :=
  match next with
  | .over => true
  | _ =>
    match current, next with
    | .inactive, .active | .inactive, .busy | .inactive, .peerBusy | .inactive, .merror => true
    | .active, .busy | .active, .peerBusy | .active, .hold | .active, .merror => true
    | .hold, .active | .hold, .merror => true
    | .busy, .merror => true
    | _, _ => false

inductive Direction where
  | send
  | recv
  deriving DecidableEq, Repr

inductive SessionCommand where
  | setMuted (muted : Bool) (direction : Direction)
  | startHoldKeepalive
  | stopHoldKeepalive (startSessionsIfNeeded : Bool)
  | enterLocalHoldBlackout (startSessionsIfNeeded : Bool)
  | leaveLocalHoldBlackout
  deriving DecidableEq, Repr

structure HoldStream where
  mediaAttribute : MediaAttribute
  remoteMuted : Bool := false
  hasSession : Bool := true
  commands : List SessionCommand := []
  deriving DecidableEq, Repr

variable {state : CallState}

/-- A call as far as holding goes. `attempts` counts the re-INVITEs tried so far. -/
structure HoldableCall where
  callState : CallState
  connectionState : ConnectionState
  hasAccount : Bool := true
  peerMuted : Bool := false
  rtpStreams : List HoldStream
  attempts : Nat := 0
  deriving DecidableEq, Repr

namespace HoldableCall

variable (call : HoldableCall)

/-- `Call::setState`; true if the call is in the state afterwards. -/
def setStates (state : CallState) (connection : ConnectionState) : Bool × HoldableCall :=
  if call.callState ≠ state then
    if call.callState.validTransition state then
      (true, { call with callState := state, connectionState := connection })
    else (false, call)
  else if call.connectionState = connection then (true, call)
  else (true, { call with callState := state, connectionState := connection })

def setState (state : CallState) : Bool × HoldableCall :=
  call.setStates state call.connectionState

def overStreams (change : HoldStream → HoldStream) : HoldableCall :=
  { call with rtpStreams := call.rtpStreams.map change }

def setOnHold (onHold : Bool) : HoldableCall :=
  call.overStreams (fun stream =>
    { stream with mediaAttribute := { stream.mediaAttribute with onHold := onHold } })

def command (type : MediaType) (commands : HoldStream → List SessionCommand) : HoldableCall :=
  call.overStreams (fun stream =>
    if stream.hasSession ∧ stream.mediaAttribute.type = type then
      { stream with commands := stream.commands ++ commands stream }
    else stream)

def applyLocalHoldAudioKeepalive (enable startSessionsIfNeeded : Bool) : HoldableCall :=
  call.command .audio (fun _ =>
    if enable then [.setMuted true .recv, .startHoldKeepalive]
    else [.stopHoldKeepalive startSessionsIfNeeded, .setMuted call.peerMuted .recv])

def applyLocalHoldVideoBlackout (enable startSessionsIfNeeded : Bool) : HoldableCall :=
  call.command .video (fun stream =>
    if enable then [.setMuted true .recv, .enterLocalHoldBlackout startSessionsIfNeeded]
    else
      [.leaveLocalHoldBlackout, .setMuted stream.mediaAttribute.muted .send,
        .setMuted stream.remoteMuted .recv])

def putOnHold : HoldableCall :=
  ((call.setOnHold true).applyLocalHoldAudioKeepalive true false).applyLocalHoldVideoBlackout
    true false

def takeOffHold : HoldableCall :=
  ((call.setOnHold false).applyLocalHoldAudioKeepalive false true).applyLocalHoldVideoBlackout
    false false

/-- `sends n` says whether the attempt number `n` succeeds. -/
def sipSessionReinvite (sends : Nat → Bool) : Bool × HoldableCall :=
  (sends call.attempts, { call with attempts := call.attempts + 1 })

variable (sends : Nat → Bool)

def hold : Bool × HoldableCall :=
  if call.connectionState ≠ .connected then (false, call)
  else
    match call.setState .hold with
    | (false, same) => (false, same)
    | (true, held) =>
      match held.putOnHold.sipSessionReinvite sends with
      | (true, sent) => (true, sent)
      | (false, unsent) => (false, (unsent.takeOffHold.setState .active).2)

/-- A call that is not connected is warned about and resumed all the same. -/
def internalOffHold : Bool × HoldableCall :=
  match call.setState .active with
  | (false, same) => (false, same)
  | (true, resumed) =>
    match resumed.takeOffHold.sipSessionReinvite sends with
    | (true, sent) => (true, sent)
    | (false, unsent) => (false, (unsent.hold sends).2)

def unhold : Bool × HoldableCall :=
  if call.hasAccount then call.internalOffHold sends else (false, call)

def holdFlags : List Bool := call.rtpStreams.map (fun stream => stream.mediaAttribute.onHold)

variable {call sends}

theorem holdFlags_setOnHold (onHold : Bool) :
    (call.setOnHold onHold).holdFlags = call.holdFlags.map (fun _ => onHold) := by
  unfold holdFlags setOnHold overStreams
  rw [List.map_map, List.map_map]
  rfl

theorem holdFlags_command (type : MediaType) (commands : HoldStream → List SessionCommand) :
    (call.command type commands).holdFlags = call.holdFlags := by
  unfold holdFlags command overStreams
  rw [List.map_map]
  apply List.map_congr_left
  intro stream _
  rw [Function.comp_apply]
  split <;> rfl

theorem holdFlags_putOnHold : call.putOnHold.holdFlags = call.holdFlags.map (fun _ => true) := by
  unfold putOnHold applyLocalHoldAudioKeepalive applyLocalHoldVideoBlackout
  rw [holdFlags_command, holdFlags_command, holdFlags_setOnHold]

theorem holdFlags_takeOffHold :
    call.takeOffHold.holdFlags = call.holdFlags.map (fun _ => false) := by
  unfold takeOffHold applyLocalHoldAudioKeepalive applyLocalHoldVideoBlackout
  rw [holdFlags_command, holdFlags_command, holdFlags_setOnHold]

theorem setState_of_valid (valid : call.callState.validTransition state = true) :
    call.setState state = (true, { call with callState := state }) := by
  unfold setState setStates
  by_cases same : call.callState = state
  · subst same
    simp only [ne_eq, not_true_eq_false, if_false, if_true]
  · rw [if_pos same, if_pos valid]

theorem setState_of_same : call.setState call.callState = (true, call) := by
  unfold setState setStates
  simp only [ne_eq, not_true_eq_false, if_false, if_true]

theorem setState_of_invalid (different : call.callState ≠ state)
    (invalid : call.callState.validTransition state = false) :
    call.setState state = (false, call) := by
  unfold setState setStates
  rw [if_pos different, invalid]
  rfl

def Holdable (call : HoldableCall) : Prop :=
  call.connectionState = .connected ∧ (call.callState = .active ∨ call.callState = .hold)

def Resumable (call : HoldableCall) : Prop :=
  call.hasAccount = true ∧
    (call.callState = .inactive ∨ call.callState = .active ∨ call.callState = .hold)

structure Stands (state : CallState) (onHold : Bool) (origin call : HoldableCall) : Prop where
  callState : call.callState = state
  holdFlags : call.holdFlags = origin.holdFlags.map (fun _ => onHold)

private theorem setState_hold_of_holdable (holdable : call.Holdable) :
    call.setState .hold = (true, { call with callState := .hold }) := by
  rcases holdable.2 with active | held
  · apply setState_of_valid
    rw [active]
    rfl
  · rw [← held]
    exact setState_of_same

theorem hold_of_not_holdable (not : ¬ call.Holdable) : call.hold sends = (false, call) := by
  unfold hold
  by_cases connected : call.connectionState = .connected
  · have invalid : call.setState .hold = (false, call) := by
      apply setState_of_invalid
      · intro held
        exact not ⟨connected, .inr held⟩
      · cases state : call.callState with
        | active => exact absurd ⟨connected, .inl state⟩ not
        | _ => rfl
    rw [if_neg (not_not.mpr connected), invalid]
  · rw [if_pos connected]

theorem hold_eq_of_holdable (holdable : call.Holdable) :
    call.hold sends =
      match ({ call with callState := .hold }).putOnHold.sipSessionReinvite sends with
      | (true, sent) => (true, sent)
      | (false, unsent) => (false, (unsent.takeOffHold.setState .active).2) := by
  unfold hold
  rw [if_neg (not_not.mpr holdable.1), setState_hold_of_holdable holdable]

theorem hold_of_sent (holdable : call.Holdable) (sent : sends call.attempts = true) :
    (call.hold sends).1 = true ∧ Stands .hold true call (call.hold sends).2 := by
  have attempt : ({ call with callState := .hold }).putOnHold.sipSessionReinvite sends =
      (true, { ({ call with callState := .hold }).putOnHold with attempts := call.attempts + 1 }) :=
    Prod.ext sent rfl
  rw [hold_eq_of_holdable holdable, attempt]
  exact ⟨rfl, rfl, holdFlags_putOnHold⟩

theorem hold_of_unsent (holdable : call.Holdable) (unsent : sends call.attempts = false) :
    (call.hold sends).1 = false ∧ Stands .active false call (call.hold sends).2 := by
  have attempt : ({ call with callState := .hold }).putOnHold.sipSessionReinvite sends =
      (false, { ({ call with callState := .hold }).putOnHold with attempts := call.attempts + 1 }) :=
    Prod.ext unsent rfl
  rw [hold_eq_of_holdable holdable, attempt]
  refine ⟨rfl, rfl, ?_⟩
  change (takeOffHold _).holdFlags = _
  rw [holdFlags_takeOffHold]
  change (putOnHold _).holdFlags.map _ = _
  rw [holdFlags_putOnHold, List.map_map]
  rfl

private theorem setState_active_of_resumable (resumable : call.Resumable) :
    call.setState .active = (true, { call with callState := .active }) := by
  rcases resumable.2 with inactive | active | held
  · apply setState_of_valid
    rw [inactive]
    rfl
  · rw [← active]
    exact setState_of_same
  · apply setState_of_valid
    rw [held]
    rfl

theorem unhold_of_not_resumable (not : ¬ call.Resumable) : call.unhold sends = (false, call) := by
  unfold unhold
  cases account : call.hasAccount with
  | false => rfl
  | true =>
    have invalid : call.setState .active = (false, call) := by
      apply setState_of_invalid
      · intro active
        exact not ⟨account, .inr (.inl active)⟩
      · cases state : call.callState with
        | inactive => exact absurd ⟨account, .inl state⟩ not
        | hold => exact absurd ⟨account, .inr (.inr state)⟩ not
        | _ => rfl
    change call.internalOffHold sends = _
    unfold internalOffHold
    rw [invalid]

def resuming (call : HoldableCall) : HoldableCall :=
  { ({ call with callState := .active }).takeOffHold with attempts := call.attempts + 1 }

theorem holdFlags_resuming : call.resuming.holdFlags = call.holdFlags.map (fun _ => false) := by
  change (takeOffHold _).holdFlags = _
  rw [holdFlags_takeOffHold]
  rfl

theorem unhold_of_resumable (resumable : call.Resumable) :
    call.unhold sends =
      if sends call.attempts then (true, call.resuming) else (false, (call.resuming.hold sends).2) := by
  unfold unhold internalOffHold
  rw [resumable.1, setState_active_of_resumable resumable]
  have attempt : ({ call with callState := .active }).takeOffHold.sipSessionReinvite sends =
      (sends call.attempts, call.resuming) := rfl
  simp only [if_true, attempt]
  cases sends call.attempts <;> rfl

theorem unhold_of_unsent (resumable : call.Resumable) (unsent : sends call.attempts = false) :
    (call.unhold sends).1 = false ∧
    (call.connectionState = .connected ∧ sends (call.attempts + 1) = true →
      Stands .hold true call (call.unhold sends).2) ∧
    (¬ (call.connectionState = .connected ∧ sends (call.attempts + 1) = true) →
      Stands .active false call (call.unhold sends).2) := by
  have whole : call.unhold sends = (false, (call.resuming.hold sends).2) := by
    rw [unhold_of_resumable resumable, unsent]
    rfl
  rw [whole]
  refine ⟨rfl, ?_, ?_⟩
  · rintro ⟨connected, again⟩
    have holdable : call.resuming.Holdable := ⟨connected, Or.inl rfl⟩
    obtain ⟨_, state, flags⟩ := hold_of_sent holdable again
    refine ⟨state, flags.trans ?_⟩
    rw [holdFlags_resuming, List.map_map]
    rfl
  · intro stuck
    by_cases connected : call.connectionState = .connected
    · have holdable : call.resuming.Holdable := ⟨connected, Or.inl rfl⟩
      have again : sends (call.attempts + 1) = false :=
        Bool.eq_false_iff.mpr (fun sent => stuck ⟨connected, sent⟩)
      obtain ⟨_, state, flags⟩ := hold_of_unsent holdable again
      refine ⟨state, flags.trans ?_⟩
      rw [holdFlags_resuming, List.map_map]
      rfl
    · have not : ¬ call.resuming.Holdable := fun holdable => connected holdable.1
      rw [hold_of_not_holdable not]
      exact ⟨rfl, holdFlags_resuming⟩

/-! ### Failures that leave no trace -/

inductive HoldRequest where
  | hold
  | unhold
  deriving DecidableEq, Repr

def serve (call : HoldableCall) (sends : Nat → Bool) : HoldRequest → Bool × HoldableCall
  | .hold => call.hold sends
  | .unhold => call.unhold sends

def Unchanged (before after : HoldableCall) : Prop :=
  after.callState = before.callState ∧ after.holdFlags = before.holdFlags

def AllAt (call : HoldableCall) (state : CallState) (onHold : Bool) : Prop :=
  call.callState = state ∧ ∀ flag ∈ call.holdFlags, flag = onHold

/-- A failing request ends in the state the call was in. -/
def Recovers (call : HoldableCall) (sends : Nat → Bool) : HoldRequest → Prop
  | .hold => call.Holdable → sends call.attempts = false → call.AllAt .active false
  | .unhold => call.Resumable → sends call.attempts = false →
      (call.connectionState = .connected ∧ sends (call.attempts + 1) = true →
        call.AllAt .hold true) ∧
      (¬ (call.connectionState = .connected ∧ sends (call.attempts + 1) = true) →
        call.AllAt .active false)

private theorem map_const_eq_self_iff {flags : List Bool} {onHold : Bool} :
    flags.map (fun _ => onHold) = flags ↔ ∀ flag ∈ flags, flag = onHold := by
  induction flags with
  | nil => simp
  | cons flag rest ih =>
    rw [List.map_cons, List.cons.injEq, ih, List.forall_mem_cons]
    exact and_congr_left (fun _ => eq_comm)

theorem Stands.unchanged_iff {onHold : Bool} {origin after : HoldableCall}
    (stands : Stands state onHold origin after) :
    Unchanged origin after ↔ origin.AllAt state onHold := by
  unfold Unchanged AllAt
  rw [stands.callState, stands.holdFlags, map_const_eq_self_iff]
  exact and_congr_left (fun _ => eq_comm)

private theorem hold_unchanged_iff (call : HoldableCall) (sends : Nat → Bool) :
    ((call.hold sends).1 = false → Unchanged call (call.hold sends).2) ↔
      call.Recovers sends .hold := by
  unfold Recovers
  by_cases holdable : call.Holdable
  · cases sent : sends call.attempts with
    | true =>
      rw [(hold_of_sent holdable sent).1]
      exact ⟨nofun, nofun⟩
    | false =>
      obtain ⟨refused, stands⟩ := hold_of_unsent holdable sent
      rw [refused, stands.unchanged_iff]
      exact ⟨fun back _ _ => back rfl, fun back _ => back holdable rfl⟩
  · rw [hold_of_not_holdable holdable]
    exact ⟨fun _ may => absurd may holdable, fun _ _ => ⟨rfl, rfl⟩⟩

private theorem unhold_unchanged_iff (call : HoldableCall) (sends : Nat → Bool) :
    ((call.unhold sends).1 = false → Unchanged call (call.unhold sends).2) ↔
      call.Recovers sends .unhold := by
  unfold Recovers
  by_cases resumable : call.Resumable
  · cases sent : sends call.attempts with
    | true =>
      rw [unhold_of_resumable resumable, sent]
      exact ⟨nofun, nofun⟩
    | false =>
      obtain ⟨refused, again, stuck⟩ := unhold_of_unsent resumable sent
      rw [refused]
      by_cases rolledBack : call.connectionState = .connected ∧ sends (call.attempts + 1) = true
      · rw [(again rolledBack).unchanged_iff]
        exact ⟨fun back _ _ => ⟨fun _ => back rfl, fun not => absurd rolledBack not⟩,
          fun back _ => (back resumable rfl).1 rolledBack⟩
      · rw [(stuck rolledBack).unchanged_iff]
        exact ⟨fun back _ _ => ⟨fun may => absurd may rolledBack, fun _ => back rfl⟩,
          fun back _ => (back resumable rfl).2 rolledBack⟩
  · rw [unhold_of_not_resumable resumable]
    exact ⟨fun _ may => absurd may resumable, fun _ _ => ⟨rfl, rfl⟩⟩

/-- A request that returns false leaves state and flags alone exactly if the call
was where the request goes back to. -/
theorem failed_request_unchanged_iff (call : HoldableCall) (sends : Nat → Bool)
    (request : HoldRequest) :
    ((call.serve sends request).1 = false → Unchanged call (call.serve sends request).2) ↔
      call.Recovers sends request := by
  cases request with
  | hold => exact hold_unchanged_iff call sends
  | unhold => exact unhold_unchanged_iff call sends

def heldCall : HoldableCall :=
  { callState := .hold
    connectionState := .connected
    rtpStreams := [{ mediaAttribute := { type := .audio, enabled := true, onHold := true } }] }

/-- With a transaction pending, resuming fails and so does holding again: the call
is active with no stream on hold, although the request returned false. -/
theorem failed_unhold_leaves_active :
    (heldCall.serve (fun _ => false) .unhold).1 = false ∧
    (heldCall.serve (fun _ => false) .unhold).2.callState = .active ∧
    ¬ Unchanged heldCall (heldCall.serve (fun _ => false) .unhold).2 := by
  refine ⟨by decide, by decide, ?_⟩
  intro unchanged
  exact absurd unchanged.1 (by decide)

end HoldableCall

end SipCore
