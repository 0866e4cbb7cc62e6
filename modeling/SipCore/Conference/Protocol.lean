/-
The orders a participant of a conference may send to its host. The parser walks over a
JSON value and makes calls to the handlers that were registered. A handler is a flag
that says whether it is set; a call of it is recorded with its arguments.
-/

import SipCore.Library.Emission
import SipCore.Library.JsonValue

namespace SipCore

open JsonValue Emission

variable (isPeerModerator : Bool)

namespace ConfProtocolParser

inductive Callback where
  | version (version : Int)
  | hangupParticipant (accountUri deviceId : String)
  | raiseHand (accountUri deviceId : String) (state : Bool)
  | setActiveStream (streamId : String) (state : Bool)
  | muteStreamAudio (accountUri deviceId streamId : String) (state : Bool)
  | muteStreamVideo (accountUri deviceId streamId : String) (state : Bool)
  | setLayout (layout : Int)
  | kickParticipant (participant : String)
  | setActiveParticipant (participant : String)
  | muteParticipant (participant : String) (state : Bool)
  | raiseHandUri (uri : String) (state : Bool)
  | voiceActivity (streamId : String) (state : Bool)
deriving DecidableEq, Repr

structure Handlers where
  version : Bool
  checkAuthorization : Option (String → Bool)
  hangupParticipant : Bool
  raiseHand : Bool
  setActiveStream : Bool
  muteStreamAudio : Bool
  muteStreamVideo : Bool
  setLayout : Bool
  kickParticipant : Bool
  setActiveParticipant : Bool
  muteParticipant : Bool
  raiseHandUri : Bool
  voiceActivity : Bool

abbrev Parsing := Emission JsonError Callback

def withMember {β : Type} (registered : Bool) (value : JsonValue) (key : String)
    (read : JsonValue → Except JsonError β) (act : β → Parsing Unit) : Parsing Unit :=
  if registered then do
    let present ← lift (value.isMember key)
    if present then do
      let found ← lift (value.index key)
      let converted ← lift (read found)
      act converted
    else pure ()
  else pure ()

def asItIs (value : JsonValue) : Except JsonError JsonValue := .ok value

variable (handlers : Handlers) (peerId : String)

def moveHand (isPeerModerator : Bool) (uri : String) (state : Bool) : Parsing Unit :=
  if handlers.raiseHandUri && (peerId == uri || !state && isPeerModerator) then
    call (.raiseHandUri uri state)
  else pure ()

def parseHandRaised (isPeerModerator : Bool) (data : JsonValue) : Parsing Unit :=
  withMember true data "handRaised" asItIs (fun handRaised => do
    let handState ← lift (data.index "handState")
    let stateText ← lift handState.asString
    let uri ← lift handRaised.asString
    moveHand handlers peerId isPeerModerator uri (stateText == "true"))

def parseV0 (data : JsonValue) : Parsing Unit :=
  match handlers.checkAuthorization with
  | none => pure ()
  | some check => do
      let isPeerModerator := check peerId
      parseHandRaised handlers peerId isPeerModerator data
      if isPeerModerator then do
        withMember handlers.setLayout data "layout" asInt (fun layout => call (.setLayout layout))
        withMember handlers.setActiveParticipant data "activeParticipant" asString
          (fun participant => call (.setActiveParticipant participant))
        withMember handlers.muteParticipant data "muteParticipant" asItIs (fun muted =>
          withMember true data "muteState" asItIs (fun muteState => do
            let participant ← lift muted.asString
            let stateText ← lift muteState.asString
            call (.muteParticipant participant (stateText == "true"))))
        withMember handlers.kickParticipant data "hangupParticipant" asString
          (fun participant => call (.kickParticipant participant))
      else pure ()

def parseMedia (isPeerModerator : Bool) (accountUri deviceId streamId : String)
    (mediaVal : JsonValue) : Parsing Unit :=
  if mediaVal.isObject then do
    withMember handlers.voiceActivity mediaVal "voiceActivity" asBool
      (fun state => call (.voiceActivity streamId state))
    if isPeerModerator then do
      withMember handlers.muteStreamVideo mediaVal "muteVideo" asBool
        (fun state => call (.muteStreamVideo accountUri deviceId streamId state))
      withMember handlers.muteStreamAudio mediaVal "muteAudio" asBool
        (fun state => call (.muteStreamAudio accountUri deviceId streamId state))
      withMember handlers.setActiveStream mediaVal "active" asBool
        (fun state => call (.setActiveStream streamId state))
    else pure ()
  else pure ()

def parseDevice (isPeerModerator : Bool) (accountUri deviceId : String) (deviceValue : JsonValue) :
    Parsing Unit :=
  if deviceValue.isObject then do
    withMember handlers.raiseHand deviceValue "raiseHand" asBool (fun newState =>
      if peerId == accountUri || !newState && isPeerModerator then
        call (.raiseHand accountUri deviceId newState)
      else pure ())
    withMember (handlers.hangupParticipant && isPeerModerator) deviceValue "hangup" asItIs
      (fun _ => call (.hangupParticipant accountUri deviceId))
    withMember true deviceValue "medias" asItIs (fun medias =>
      forEach medias.elements (fun media =>
        parseMedia handlers isPeerModerator accountUri deviceId media.1 media.2))
  else pure ()

/-- One member of the order. The layout of a moderator stands beside the accounts. -/
def parseMember (isPeerModerator : Bool) (key : String) (accValue : JsonValue) : Parsing Unit :=
  if key = "version" then pure ()
  else if isPeerModerator = true ∧ key = "layout" then
    if handlers.setLayout then do
      let layout ← lift accValue.asInt
      call (.setLayout layout)
    else pure ()
  else if accValue.isObject then
    withMember true accValue "devices" asItIs (fun devices =>
      forEach devices.elements (fun device =>
        parseDevice handlers peerId isPeerModerator key device.1 device.2))
  else pure ()

def parseV1 (data : JsonValue) : Parsing Unit :=
  match handlers.checkAuthorization with
  | none => pure ()
  | some check =>
    forEach data.elements (fun entry =>
      parseMember handlers peerId (check peerId) entry.1 entry.2)

def reportVersion (version : Int) : Parsing Unit :=
  if handlers.version then call (.version version) else pure ()

def parseVersion (data version : JsonValue) : Parsing Unit := do
  let version ← lift version.asUInt
  reportVersion handlers version
  if version = 1 then parseV1 handlers peerId data else pure ()

def parse (data : JsonValue) : Parsing Unit := do
  let versioned ← lift (data.isMember "version")
  if versioned then do
    let version ← lift (data.index "version")
    parseVersion handlers peerId data version
  else parseV0 handlers peerId data

/-! ### Who may do what -/

def Handlers.authorizes : Bool :=
  match handlers.checkAuthorization with
  | none => false
  | some check => check peerId

def Callback.hand : Callback → Option (String × Bool)
  | .raiseHand accountUri _ state => some (accountUri, state)
  | .raiseHandUri uri state => some (uri, state)
  | _ => none

def Callback.isOpenTo (peerId : String) : Callback → Prop
  | .version _ => True
  | .voiceActivity _ _ => True
  | .raiseHand accountUri _ _ => accountUri = peerId
  | .raiseHandUri uri _ => uri = peerId
  | _ => False

def Callback.Permitted (peerId : String) (isPeerModerator : Bool) (made : Callback) : Prop :=
  made.isOpenTo peerId ∨ isPeerModerator = true ∧
    ∀ uri state, made.hand = some (uri, state) → uri ≠ peerId → state = false

theorem permitted_of_moderator {made : Callback} (noHand : made.hand = none) :
    made.Permitted peerId true := by
  right
  refine ⟨rfl, ?_⟩
  intro uri state equal
  rw [noHand] at equal
  cases equal

theorem permitted_of_hand {made : Callback} {uri : String} {state isPeerModerator : Bool}
    (hand : made.hand = some (uri, state)) (own : uri = peerId → made.isOpenTo peerId)
    (checked : (peerId == uri || !state && isPeerModerator) = true) :
    made.Permitted peerId isPeerModerator := by
  rcases Bool.or_eq_true _ _ ▸ checked with same | lowered
  · exact .inl (own (beq_iff_eq.mp same).symm)
  · obtain ⟨down, moderator⟩ := Bool.and_eq_true _ _ ▸ lowered
    refine .inr ⟨moderator, ?_⟩
    intro other value equal _
    rw [hand] at equal
    cases equal
    exact Bool.not_eq_true' _ ▸ down

variable {handlers peerId}

theorem emits_withMember {β : Type} {registered : Bool} {value : JsonValue} {key : String}
    {read : JsonValue → Except JsonError β} {act : β → Parsing Unit} {allowed : Callback → Prop}
    (acts : ∀ converted, registered = true → Emits allowed (act converted)) :
    Emits allowed (withMember registered value key read act) := by
  unfold withMember
  split
  · rename_i set
    apply Emits.bind (emits_lift _)
    intro present
    split
    · apply Emits.bind (emits_lift _)
      intro found
      apply Emits.bind (emits_lift _)
      intro converted
      exact acts converted set
    · exact emits_pure ()
  · exact emits_pure ()

private theorem parseHandRaised_permitted (data : JsonValue) :
    Emits (Callback.Permitted peerId isPeerModerator)
      (parseHandRaised handlers peerId isPeerModerator data) := by
  apply emits_withMember
  intro handRaised _
  apply Emits.bind (emits_lift _)
  intro handState
  apply Emits.bind (emits_lift _)
  intro stateText
  apply Emits.bind (emits_lift _)
  intro uri
  unfold moveHand
  split
  · rename_i checked
    apply emits_call
    exact permitted_of_hand peerId rfl id (Bool.and_eq_true _ _ ▸ checked).2
  · exact emits_pure ()

private theorem parseV0_permitted (data : JsonValue) :
    Emits (Callback.Permitted peerId (handlers.authorizes peerId))
      (parseV0 handlers peerId data) := by
  unfold parseV0 Handlers.authorizes
  cases handlers.checkAuthorization with
  | none => exact emits_pure ()
  | some check =>
    apply Emits.bind (parseHandRaised_permitted (check peerId) data)
    intro _
    split
    · rename_i moderator
      rw [moderator]
      apply Emits.bind (emits_withMember fun _ _ => emits_call (permitted_of_moderator peerId rfl))
      intro _
      apply Emits.bind (emits_withMember fun _ _ => emits_call (permitted_of_moderator peerId rfl))
      intro _
      apply Emits.bind
      · apply emits_withMember
        intro muted _
        apply emits_withMember
        intro muteState _
        apply Emits.bind (emits_lift _)
        intro participant
        apply Emits.bind (emits_lift _)
        intro stateText
        exact emits_call (permitted_of_moderator peerId rfl)
      · intro _
        exact emits_withMember fun _ _ => emits_call (permitted_of_moderator peerId rfl)
    · exact emits_pure ()

theorem parseMedia_permitted (accountUri deviceId streamId : String) (mediaVal : JsonValue) :
    Emits (Callback.Permitted peerId isPeerModerator)
      (parseMedia handlers isPeerModerator accountUri deviceId streamId mediaVal) := by
  unfold parseMedia
  split
  · apply Emits.bind (emits_withMember fun _ _ => emits_call (Or.inl trivial))
    intro _
    split
    · rename_i moderator
      rw [moderator]
      apply Emits.bind (emits_withMember fun _ _ => emits_call (permitted_of_moderator peerId rfl))
      intro _
      apply Emits.bind (emits_withMember fun _ _ => emits_call (permitted_of_moderator peerId rfl))
      intro _
      exact emits_withMember fun _ _ => emits_call (permitted_of_moderator peerId rfl)
    · exact emits_pure ()
  · exact emits_pure ()

theorem parseDevice_permitted (accountUri deviceId : String) (deviceValue : JsonValue) :
    Emits (Callback.Permitted peerId isPeerModerator)
      (parseDevice handlers peerId isPeerModerator accountUri deviceId deviceValue) := by
  unfold parseDevice
  split
  · apply Emits.bind
    · apply emits_withMember
      intro newState _
      split
      · rename_i checked
        exact emits_call (permitted_of_hand peerId rfl id checked)
      · exact emits_pure ()
    · intro _
      apply Emits.bind
      · apply emits_withMember
        intro _ set
        have moderator : isPeerModerator = true := (Bool.and_eq_true _ _ ▸ set).2
        rw [moderator]
        exact emits_call (permitted_of_moderator peerId rfl)
      · intro _
        apply emits_withMember
        intro medias _
        apply emits_forEach
        intro media _
        exact parseMedia_permitted isPeerModerator accountUri deviceId media.1 media.2
  · exact emits_pure ()

theorem parseMember_permitted (key : String) (accValue : JsonValue) :
    Emits (Callback.Permitted peerId isPeerModerator)
      (parseMember handlers peerId isPeerModerator key accValue) := by
  unfold parseMember
  split
  · exact emits_pure ()
  · split
    · rename_i layout
      rw [layout.1]
      split
      · apply Emits.bind (emits_lift _)
        intro value
        exact emits_call (permitted_of_moderator peerId rfl)
      · exact emits_pure ()
    · split
      · apply emits_withMember
        intro devices _
        apply emits_forEach
        intro device _
        exact parseDevice_permitted isPeerModerator key device.1 device.2
      · exact emits_pure ()

theorem parseV1_permitted (data : JsonValue) :
    Emits (Callback.Permitted peerId (handlers.authorizes peerId))
      (parseV1 handlers peerId data) := by
  unfold parseV1 Handlers.authorizes
  cases handlers.checkAuthorization with
  | none => exact emits_pure ()
  | some check =>
    apply emits_forEach
    intro entry _
    exact parseMember_permitted (check peerId) entry.1 entry.2

private theorem parse_permitted (data : JsonValue) :
    Emits (Callback.Permitted peerId (handlers.authorizes peerId)) (parse handlers peerId data) := by
  apply Emits.bind (emits_lift _)
  intro versioned
  split
  · apply Emits.bind (emits_lift _)
    intro versionValue
    apply Emits.bind (emits_lift _)
    intro version
    apply Emits.bind
    · unfold reportVersion
      split
      · exact emits_call (.inl trivial)
      · exact emits_pure ()
    · intro _
      split
      · exact parseV1_permitted data
      · exact emits_pure ()
  · exact parseV0_permitted data

/-- A peer the check rejects reaches the version, the voice activity and its own
hand; a peer it accepts raises no hand but its own. -/
theorem parse_calls_authorized (handlers : Handlers) (peerId : String) (data : JsonValue) :
    (handlers.authorizes peerId = false →
      ∀ made ∈ (parse handlers peerId data).calls, made.isOpenTo peerId) ∧
    (handlers.authorizes peerId = true →
      ∀ made ∈ (parse handlers peerId data).calls, ∀ uri state,
        made.hand = some (uri, state) → uri ≠ peerId → state = false) := by
  have permitted := (@parse_permitted handlers peerId data).made
  constructor
  · intro rejected made member
    rcases permitted made member with isOpen | ⟨moderator, _⟩
    · exact isOpen
    · rw [rejected] at moderator
      cases moderator
  · intro _ made member uri state hand other
    rcases permitted made member with isOpen | ⟨_, lowers⟩
    · cases made with
      | raiseHand accountUri deviceId value =>
        cases hand
        exact absurd isOpen other
      | raiseHandUri accountUri value =>
        cases hand
        exact absurd isOpen other
      | _ => cases hand
    · exact lowers uri state hand other

/-- One order, from a guest and from a moderator, about two hands. -/
theorem parse_calls_authorized_for_hands :
    (∀ made ∈ (parse ⟨true, some (· == "host"), true, true, true, true, true, true, true, true, true,
        true, true⟩ "guest" (.object [("version", .int 1),
          ("guest", .object [("devices", .object [("", .object [("raiseHand", .bool true)])])]),
          ("other", .object [("devices", .object [("", .object [("raiseHand", .bool false)])])])])).calls,
      made.isOpenTo "guest") ∧
    (∀ made ∈ (parse ⟨true, some (· == "host"), true, true, true, true, true, true, true, true, true,
        true, true⟩ "host" (.object [("version", .int 1),
          ("guest", .object [("devices", .object [("", .object [("raiseHand", .bool true)])])]),
          ("other", .object [("devices", .object [("", .object [("raiseHand", .bool false)])])])])).calls,
      ∀ uri state, made.hand = some (uri, state) → uri ≠ "host" → state = false) :=
  ⟨(parse_calls_authorized _ _ _).1 (by decide), (parse_calls_authorized _ _ _).2 (by decide)⟩

end ConfProtocolParser

end SipCore
