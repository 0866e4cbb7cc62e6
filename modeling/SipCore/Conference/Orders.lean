/-
The orders a participant builds for the host of its conference. Each names an
account, a device and perhaps a stream in nested objects whose keys are these ids,
next to a member for the version of the protocol.
-/

import SipCore.Conference.Protocol

namespace SipCore

open JsonValue Emission ConfProtocolParser

def setMember (key : String) (value : JsonValue) :
    List (String × JsonValue) → List (String × JsonValue)
  | [] => [(key, value)]
  | (other, found) :: rest =>
    if other = key then (key, value) :: rest
    else if other < key then (other, found) :: setMember key value rest
    else (key, value) :: (other, found) :: rest

namespace ConfOrder

def deviceOrder (accountUri deviceId : String) (deviceVal : JsonValue) : JsonValue :=
  let devices := setMember deviceId deviceVal []
  let account := setMember "devices" (.object devices) []
  let root := setMember accountUri (.object account) []
  .object (setMember "version" (.int 1) root)

def mediaOrder (accountUri deviceId streamId key : String) (state : Bool) : JsonValue :=
  let media := setMember key (.bool state) []
  let medias := setMember streamId (.object media) []
  let deviceVal := setMember "medias" (.object medias) []
  deviceOrder accountUri deviceId (.object deviceVal)

def raiseHand (accountUri deviceId : String) (state : Bool) : JsonValue :=
  deviceOrder accountUri deviceId (.object (setMember "raiseHand" (.bool state) []))

def hangupParticipant (accountUri deviceId : String) : JsonValue :=
  deviceOrder accountUri deviceId (.object (setMember "hangup" (.string "true") []))

def muteAudio (accountUri deviceId streamId : String) (state : Bool) : JsonValue :=
  mediaOrder accountUri deviceId streamId "muteAudio" state

def setActiveStream (accountUri deviceId streamId : String) (state : Bool) : JsonValue :=
  mediaOrder accountUri deviceId streamId "active" state

end ConfOrder

structure Complete (handlers : Handlers) (peerId : String) : Prop where
  version : handlers.version = true
  authorizes : handlers.authorizes peerId = true
  hangupParticipant : handlers.hangupParticipant = true
  raiseHand : handlers.raiseHand = true
  setActiveStream : handlers.setActiveStream = true
  muteStreamAudio : handlers.muteStreamAudio = true
  muteStreamVideo : handlers.muteStreamVideo = true
  setLayout : handlers.setLayout = true
  kickParticipant : handlers.kickParticipant = true
  setActiveParticipant : handlers.setActiveParticipant = true
  muteParticipant : handlers.muteParticipant = true
  raiseHandUri : handlers.raiseHandUri = true
  voiceActivity : handlers.voiceActivity = true

theorem bind_done {ε κ : Type} (computation : Emission ε κ Unit) :
    (computation >>= fun _ => pure ()) = computation := by
  obtain ⟨calls, result⟩ := computation
  cases result with
  | error error => rfl
  | ok value =>
    change (⟨calls ++ [], .ok ()⟩ : Emission ε κ Unit) = ⟨calls, .ok value⟩
    rw [List.append_nil]

theorem skip_bind {ε κ : Type} (next : Emission ε κ Unit) :
    ((pure () : Emission ε κ Unit) >>= fun _ => next) = next := rfl

theorem forEach_single {ε κ α : Type} (item : α) (act : α → Emission ε κ Unit) :
    forEach [item] act = act item := bind_done (act item)

theorem elements_deviceOrder {accountUri : String} (account : accountUri ≠ "version")
    (deviceId : String) (deviceVal : JsonValue) :
    let value := JsonValue.object [("devices", .object [(deviceId, deviceVal)])]
    ConfOrder.deviceOrder accountUri deviceId deviceVal =
        .object [(accountUri, value), ("version", .int 1)] ∨
      ConfOrder.deviceOrder accountUri deviceId deviceVal =
        .object [("version", .int 1), (accountUri, value)] := by
  unfold ConfOrder.deviceOrder setMember
  simp only [setMember]
  rw [if_neg account]
  by_cases before : accountUri < "version"
  · rw [if_pos before]
    exact .inl rfl
  · rw [if_neg before]
    exact .inr rfl

section Members

variable {β : Type} {registered : Bool} {key other : String} {value : JsonValue}
  {read : JsonValue → Except JsonError β}

theorem withMember_read (set : registered = true) {converted : β}
    (converts : read value = .ok converted) (act : β → Parsing Unit) :
    withMember registered (.object [(key, value)]) key read act = act converted := by
  have member : (JsonValue.object [(key, value)]).member? key = some value := by
    change List.lookup key [(key, value)] = some value
    rw [List.lookup_cons, beq_self_eq_true]
  unfold withMember
  rw [if_pos set, isMember_of_isObject rfl, index_of_isObject rfl, member]
  change (lift (read value) >>= act) = act converted
  rw [converts]
  rfl

theorem withMember_other (differ : other ≠ key) (act : β → Parsing Unit) :
    withMember registered (.object [(key, value)]) other read act = pure () := by
  have missing : (JsonValue.object [(key, value)]).member? other = none := by
    change List.lookup other [(key, value)] = none
    rw [List.lookup_cons, beq_eq_false_iff_ne.mpr differ]
    rfl
  unfold withMember
  split
  · rw [isMember_of_isObject rfl, missing]
    rfl
  · rfl

theorem withMember_bool (set : registered = true) (state : Bool) (act : Bool → Parsing Unit) :
    withMember registered (.object [(key, .bool state)]) key asBool act = act state := by
  have converts : asBool (.bool state) = .ok state := rfl
  exact withMember_read set converts act

theorem withMember_asItIs (set : registered = true) (act : JsonValue → Parsing Unit) :
    withMember registered (.object [(key, value)]) key asItIs act = act value := by
  have converts : asItIs value = .ok value := rfl
  exact withMember_read set converts act

end Members

section Parsed

variable {handlers : Handlers} {peerId accountUri : String}

theorem parseMember_account (noVersion : accountUri ≠ "version") (noLayout : accountUri ≠ "layout")
    (deviceId : String) (deviceVal : JsonValue) :
    parseMember handlers peerId true accountUri
        (.object [("devices", .object [(deviceId, deviceVal)])]) =
      parseDevice handlers peerId true accountUri deviceId deviceVal := by
  unfold parseMember
  rw [if_neg noVersion, if_neg fun both => noLayout both.2]
  change withMember true (.object [("devices", .object [(deviceId, deviceVal)])]) "devices" asItIs
    _ = _
  rw [withMember_asItIs rfl]
  exact forEach_single (deviceId, deviceVal) _

private theorem deviceOrder_version (noVersion : accountUri ≠ "version") (deviceId : String)
    (deviceVal : JsonValue) :
    (ConfOrder.deviceOrder accountUri deviceId deviceVal).member? "version" = some (.int 1) := by
  rcases elements_deviceOrder noVersion deviceId deviceVal with first | last
  · rw [first]
    change List.lookup "version" [(accountUri, _), ("version", JsonValue.int 1)] = _
    rw [List.lookup_cons, beq_eq_false_iff_ne.mpr noVersion.symm]
    rfl
  · rw [last]
    rfl

section

variable (complete : Complete handlers peerId)
include complete

theorem parseV1_deviceOrder (noVersion : accountUri ≠ "version") (noLayout : accountUri ≠ "layout")
    (deviceId : String) (deviceVal : JsonValue) :
    parseV1 handlers peerId (ConfOrder.deviceOrder accountUri deviceId deviceVal) =
      parseDevice handlers peerId true accountUri deviceId deviceVal := by
  have authorized := complete.authorizes
  unfold Handlers.authorizes at authorized
  unfold parseV1
  cases registered : handlers.checkAuthorization with
  | none =>
    rw [registered] at authorized
    cases authorized
  | some check =>
    rw [registered] at authorized
    simp only at authorized ⊢
    rw [authorized]
    rcases elements_deviceOrder noVersion deviceId deviceVal with first | last
    · rw [first]
      change (parseMember handlers peerId true accountUri _ >>= fun _ =>
        parseMember handlers peerId true "version" _ >>= fun _ => pure ()) = _
      rw [parseMember_account noVersion noLayout]
      exact bind_done _
    · rw [last]
      change (parseMember handlers peerId true "version" _ >>= fun _ =>
        parseMember handlers peerId true accountUri _ >>= fun _ => pure ()) = _
      rw [parseMember_account noVersion noLayout]
      exact bind_done _

theorem parse_deviceOrder (noVersion : accountUri ≠ "version") (noLayout : accountUri ≠ "layout")
    (deviceId : String) (deviceVal : JsonValue) :
    parse handlers peerId (ConfOrder.deviceOrder accountUri deviceId deviceVal) =
      call (.version 1) >>= fun _ =>
        parseDevice handlers peerId true accountUri deviceId deviceVal := by
  have reported : reportVersion handlers 1 = call (.version 1) := if_pos complete.version
  have object : (ConfOrder.deviceOrder accountUri deviceId deviceVal).isObject = true := rfl
  unfold parse
  rw [isMember_of_isObject object, index_of_isObject object,
    deviceOrder_version noVersion deviceId deviceVal]
  change (reportVersion handlers 1 >>= fun _ => parseV1 handlers peerId
    (ConfOrder.deviceOrder accountUri deviceId deviceVal)) = _
  rw [reported, parseV1_deviceOrder complete noVersion noLayout]

private theorem parseMedia_muteAudio (deviceId streamId : String) (state : Bool) :
    parseMedia handlers true accountUri deviceId streamId (.object [("muteAudio", .bool state)]) =
      call (.muteStreamAudio accountUri deviceId streamId state) := by
  unfold parseMedia
  rw [withMember_other (by decide), withMember_other (by decide),
    withMember_bool complete.muteStreamAudio, withMember_other (by decide), skip_bind, skip_bind]
  exact bind_done _

private theorem parseMedia_active (deviceId streamId : String) (state : Bool) :
    parseMedia handlers true accountUri deviceId streamId (.object [("active", .bool state)]) =
      call (.setActiveStream streamId state) := by
  unfold parseMedia
  rw [withMember_other (by decide), withMember_other (by decide), withMember_other (by decide),
    withMember_bool complete.setActiveStream]
  rfl

end

private theorem parseDevice_medias (deviceId streamId : String) (media : JsonValue) :
    parseDevice handlers peerId true accountUri deviceId
        (.object [("medias", .object [(streamId, media)])]) =
      parseMedia handlers true accountUri deviceId streamId media := by
  unfold parseDevice
  simp only [JsonValue.isObject, if_true]
  rw [withMember_other (by decide), withMember_other (by decide), withMember_asItIs rfl,
    skip_bind, skip_bind]
  exact forEach_single (streamId, media) _

private theorem parseDevice_raiseHand (complete : Complete handlers peerId) (deviceId : String)
    {state : Bool} (allowed : state = false ∨ peerId = accountUri) :
    parseDevice handlers peerId true accountUri deviceId (.object [("raiseHand", .bool state)]) =
      call (.raiseHand accountUri deviceId state) := by
  have permitted : (peerId == accountUri || !state && true) = true := by
    rcases allowed with lowered | own
    · rw [lowered]
      exact Bool.or_true _
    · rw [own, beq_self_eq_true]
      rfl
  unfold parseDevice
  rw [withMember_bool complete.raiseHand, if_pos permitted, withMember_other (by decide)]
  exact bind_done _

private theorem parseDevice_hangup (complete : Complete handlers peerId) (deviceId : String) :
    parseDevice handlers peerId true accountUri deviceId (.object [("hangup", .string "true")]) =
      call (.hangupParticipant accountUri deviceId) := by
  have set : (handlers.hangupParticipant && true) = true := by
    rw [complete.hangupParticipant]
    rfl
  unfold parseDevice
  rw [withMember_other (by decide), withMember_asItIs set, skip_bind]
  exact bind_done _

end Parsed

/-- An order that is built and parsed causes the call of its action, with the same
arguments, behind the report of the version. -/
theorem built_orders_parsed (handlers : Handlers) (peerId accountUri : String)
    (complete : Complete handlers peerId) (noVersion : accountUri ≠ "version")
    (noLayout : accountUri ≠ "layout") (deviceId streamId : String) (state : Bool) :
    (state = false ∨ peerId = accountUri →
      parse handlers peerId (ConfOrder.raiseHand accountUri deviceId state) =
        ⟨[.version 1, .raiseHand accountUri deviceId state], .ok ()⟩) ∧
    parse handlers peerId (ConfOrder.hangupParticipant accountUri deviceId) =
      ⟨[.version 1, .hangupParticipant accountUri deviceId], .ok ()⟩ ∧
    parse handlers peerId (ConfOrder.muteAudio accountUri deviceId streamId state) =
      ⟨[.version 1, .muteStreamAudio accountUri deviceId streamId state], .ok ()⟩ ∧
    parse handlers peerId (ConfOrder.setActiveStream accountUri deviceId streamId state) =
      ⟨[.version 1, .setActiveStream streamId state], .ok ()⟩ := by
  have parsed := parse_deviceOrder complete noVersion noLayout deviceId
  refine ⟨?_, ?_, ?_, ?_⟩
  · intro allowed
    rw [ConfOrder.raiseHand, parsed, setMember, parseDevice_raiseHand complete deviceId allowed]
    rfl
  · rw [ConfOrder.hangupParticipant, parsed, setMember, parseDevice_hangup complete]
    rfl
  · rw [ConfOrder.muteAudio, ConfOrder.mediaOrder, parsed, setMember, setMember, setMember,
      parseDevice_medias, parseMedia_muteAudio complete]
    rfl
  · rw [ConfOrder.setActiveStream, ConfOrder.mediaOrder, parsed, setMember, setMember, setMember,
      parseDevice_medias, parseMedia_active complete]
    rfl

theorem built_orders_parsed_for_own_hand :
    parse ⟨true, some (· == "host"), true, true, true, true, true, true, true, true, true, true,
        true⟩ "host" (ConfOrder.raiseHand "host" "layout" true) =
      ⟨[.version 1, .raiseHand "host" "layout" true], .ok ()⟩ := by
  apply (built_orders_parsed _ "host" "host" ?_ (by decide) (by decide) "layout" "" true).1
  · exact .inr rfl
  · exact ⟨rfl, rfl, rfl, rfl, rfl, rfl, rfl, rfl, rfl, rfl, rfl, rfl, rfl⟩

end SipCore
