/-
Hanging up a participant of a conference by its uri. The conference finds calls in the
table of all calls, the manager looks for the call in the table of the conference's own
account. The loop is run with fuel; that it ends means that some fuel is enough.
-/

import SipCore.Library.AssocMap

namespace SipCore

namespace SipUri

def findAfter (pattern : List Char) : List Char → Option (List Char)
  | [] => none
  | head :: rest =>
    if pattern.isPrefixOf (head :: rest) then some ((head :: rest).drop pattern.length)
    else findAfter pattern rest

def afterFirst (pattern text : List Char) : List Char := (findAfter pattern text).getD text

def upTo (stop : Char) (text : List Char) : List Char := text.takeWhile (· ≠ stop)

def stripSipUriPrefix (sipUri : String) : String :=
  let withoutScheme := afterFirst "sip:".toList sipUri.toList
  let withoutBracket := afterFirst ['<'] withoutScheme
  String.ofList (upTo '>' (upTo '@' withoutBracket))

def removeDomain (uri : String) : String := String.ofList (upTo '@' uri.toList)

end SipUri

open SipUri

structure PeerCall where
  peerNumber : String
  deviceId : String
deriving DecidableEq, Repr

def PeerCall.getRemoteId (call : PeerCall) : String := stripSipUriPrefix call.peerNumber

structure SipAccount where
  accountId : String
  username : String
deriving DecidableEq, Repr

structure RemoteParticipant where
  uri : String
  device : String
deriving DecidableEq, Repr

variable {conference : Attendance}

variable {callId peerId accountId : String}

/-- A conference with the tables it is looked up in: its account if that is a SIP
account and alive, its participants, all calls, the calls of each account. -/
structure Attendance where
  account : Option SipAccount
  participants : List String
  calls : AssocMap String PeerCall
  callSets : AssocMap String (List String)
  remoteHosts : List (String × List RemoteParticipant)

namespace Attendance

def isWith (conference : Attendance) (peerId callId : String) : Bool :=
  match conference.calls.find? callId with
  | none => false
  | some call => call.getRemoteId == peerId

def getCallFromPeerID (conference : Attendance) (peerId : String) : Option String :=
  conference.participants.find? (conference.isWith (stripSipUriPrefix peerId))

def getCallWith (conference : Attendance) (accountUri deviceId : String) : Option String :=
  conference.participants.find? (fun callId =>
    match conference.calls.find? callId with
    | none => false
    | some call => stripSipUriPrefix accountUri == call.getRemoteId && deviceId == call.deviceId)

def findHostforRemoteParticipant (conference : Attendance) (uri deviceId : String) : String :=
  match conference.remoteHosts.find? (fun host => host.2.any (fun participant =>
      uri == removeDomain participant.uri && (deviceId == "" || deviceId == participant.device))) with
  | none => ""
  | some host => host.1

def hangupCall (conference : Attendance) (accountId callId : String) : Bool × Attendance :=
  match conference.callSets.find? accountId with
  | none => (false, conference)
  | some callSet =>
    if callId ∈ callSet then
      (true, { conference with participants := conference.participants.filter (· ≠ callId) })
    else (false, conference)

def hangupAll (accountId accountUri : String) : Nat → Attendance → Option Attendance
  | 0, _ => none
  | fuel + 1, conference =>
    match conference.getCallFromPeerID accountUri with
    | none => some conference
    | some callId => hangupAll accountId accountUri fuel (conference.hangupCall accountId callId).2

inductive Hangup where
  | done (conference : Attendance)
  | detachLocalParticipant
  | forwarded (callId accountUri deviceId : String)
  | notFound

def forwardHangup (conference : Attendance) (accountUri deviceId : String) : Hangup :=
  let remoteHost := conference.findHostforRemoteParticipant accountUri deviceId
  if remoteHost = "" then .notFound
  else
    match conference.getCallFromPeerID (removeDomain remoteHost) with
    | none => .done conference
    | some callId => .forwarded callId accountUri deviceId

def hangupParticipant (fuel : Nat) (conference : Attendance) (participantUri deviceId : String) :
    Option Hangup :=
  match conference.account with
  | none => some (.done conference)
  | some acc =>
    let accountUri := stripSipUriPrefix participantUri
    if deviceId = "" then (hangupAll acc.accountId accountUri fuel conference).map .done
    else if accountUri = acc.username then some .detachLocalParticipant
    else
      match conference.getCallWith accountUri deviceId with
      | some callId => some (.done (conference.hangupCall acc.accountId callId).2)
      | none => some (conference.forwardHangup accountUri deviceId)

def HasPeer (conference : Attendance) (peerId callId : String) : Prop :=
  callId ∈ conference.participants ∧ conference.isWith peerId callId = true

def Holds (conference : Attendance) (accountId callId : String) : Prop :=
  callId ∈ (conference.callSets.find? accountId).getD []

theorem getCallFromPeerID_some (found : conference.getCallFromPeerID peerId = some callId) :
    conference.HasPeer (stripSipUriPrefix peerId) callId :=
  ⟨List.mem_of_find?_eq_some found, List.find?_some found⟩

private theorem getCallFromPeerID_none (nothing : conference.getCallFromPeerID peerId = none)
    (callId : String) : ¬ conference.HasPeer (stripSipUriPrefix peerId) callId := by
  rintro ⟨member, same⟩
  exact (List.find?_eq_none.mp nothing) callId member same

theorem hangupCall_of_holds (holds : conference.Holds accountId callId) :
    (conference.hangupCall accountId callId).2 =
      { conference with participants := conference.participants.filter (· ≠ callId) } := by
  unfold Holds at holds
  unfold hangupCall
  cases found : conference.callSets.find? accountId with
  | none =>
    rw [found] at holds
    cases holds
  | some callSet =>
    rw [found] at holds
    simp only
    rw [if_pos (show callId ∈ callSet from holds)]

private theorem hangupCall_of_not_holds (missing : ¬ conference.Holds accountId callId) :
    (conference.hangupCall accountId callId).2 = conference := by
  unfold Holds at missing
  unfold hangupCall
  cases found : conference.callSets.find? accountId with
  | none => rfl
  | some callSet =>
    rw [found] at missing
    simp only
    rw [if_neg (show ¬ callId ∈ callSet from missing)]

theorem hangupAll_stuck {accountUri : String}
    (found : conference.getCallFromPeerID accountUri = some callId)
    (missing : ¬ conference.Holds accountId callId) (fuel : Nat) :
    hangupAll accountId accountUri fuel conference = none := by
  induction fuel with
  | zero => rfl
  | succ fuel ih =>
    unfold hangupAll
    rw [found]
    simp only
    rw [hangupCall_of_not_holds missing]
    exact ih

theorem hasPeer_without {gone : String} :
    HasPeer { conference with participants := conference.participants.filter (· ≠ gone) }
        peerId callId ↔ conference.HasPeer peerId callId ∧ callId ≠ gone := by
  unfold HasPeer
  rw [List.mem_filter, decide_eq_true_iff]
  constructor
  · rintro ⟨⟨member, other⟩, same⟩
    exact ⟨⟨member, same⟩, other⟩
  · rintro ⟨⟨member, same⟩, other⟩
    exact ⟨⟨member, other⟩, same⟩

/-! ### The whole loop -/

theorem HasPeer.unique {other : String} (first : conference.HasPeer peerId callId)
    (second : conference.HasPeer other callId) : peerId = other := by
  have mine := first.2
  have theirs := second.2
  unfold isWith at mine theirs
  cases call : conference.calls.find? callId with
  | none =>
    rw [call] at mine
    cases mine
  | some participant =>
    rw [call] at mine theirs
    exact (beq_iff_eq.mp mine).symm.trans (beq_iff_eq.mp theirs)

/-- If the manager finds every call of the peer, the loop ends: each turn takes
one participant away. -/
theorem hangupAll_ends {accountUri : String} (fuel : Nat)
    (enough : conference.participants.length < fuel)
    (held : ∀ callId, conference.HasPeer (stripSipUriPrefix accountUri) callId →
      conference.Holds accountId callId) :
    ∃ after, hangupAll accountId accountUri fuel conference = some after := by
  induction fuel generalizing conference with
  | zero => exact absurd enough (Nat.not_lt_zero _)
  | succ fuel ih =>
    unfold hangupAll
    cases found : conference.getCallFromPeerID accountUri with
    | none => exact ⟨conference, rfl⟩
    | some gone =>
      have present := getCallFromPeerID_some found
      simp only
      rw [hangupCall_of_holds (held gone present)]
      have shorter : (conference.participants.filter (· ≠ gone)).length <
          conference.participants.length := by
        apply List.length_filter_lt_length_iff_exists.mpr
        exact ⟨gone, present.1, by simp⟩
      apply ih
      · change (conference.participants.filter (· ≠ gone)).length < fuel
        omega
      · intro callId remaining
        exact held callId (hasPeer_without.mp remaining).1

private theorem hangupAll_effect {accountUri : String} (fuel : Nat) {after : Attendance}
    (ends : hangupAll accountId accountUri fuel conference = some after) :
    (∀ callId, conference.HasPeer (stripSipUriPrefix accountUri) callId →
      conference.Holds accountId callId) ∧
    ∀ peerId callId, after.HasPeer peerId callId ↔
      conference.HasPeer peerId callId ∧ peerId ≠ stripSipUriPrefix accountUri := by
  induction fuel generalizing conference with
  | zero => cases ends
  | succ fuel ih =>
    unfold hangupAll at ends
    cases found : conference.getCallFromPeerID accountUri with
    | none =>
      rw [found] at ends
      cases ends
      have nobody := getCallFromPeerID_none found
      refine ⟨fun callId present => absurd present (nobody callId), ?_⟩
      intro peerId callId
      constructor
      · intro present
        refine ⟨present, ?_⟩
        intro same
        rw [same] at present
        exact nobody callId present
      · exact And.left
    | some gone =>
      have present := getCallFromPeerID_some found
      by_cases holds : conference.Holds accountId gone
      · rw [found] at ends
        simp only at ends
        rw [hangupCall_of_holds holds] at ends
        obtain ⟨held, effect⟩ := ih ends
        constructor
        · intro callId mine
          by_cases same : callId = gone
          · rw [same]
            exact holds
          · exact held callId (hasPeer_without.mpr ⟨mine, same⟩)
        · intro peerId callId
          rw [effect, hasPeer_without]
          constructor
          · rintro ⟨⟨before, _⟩, other⟩
            exact ⟨before, other⟩
          · rintro ⟨before, other⟩
            refine ⟨⟨before, ?_⟩, other⟩
            -- the call that went has the peer's id, so it is not this one
            intro same
            rw [same] at before
            exact other (before.unique present)
      · have stuck := hangupAll_stuck found holds (fuel + 1)
        unfold hangupAll at stuck
        rw [stuck] at ends
        cases ends

def HangsUp (conference : Attendance) (participantUri : String) : Prop :=
  ∃ fuel after, conference.hangupParticipant fuel participantUri "" = some (.done after) ∧
    ∀ callId, ¬ after.HasPeer (stripSipUriPrefix participantUri) callId

/-- Every call to hang up is held by the account of the conference. The id is
stripped once more when calls are looked up, which must not change it. -/
def HeldByOwnAccount (conference : Attendance) (participantUri : String) : Prop :=
  let accountUri := stripSipUriPrefix participantUri
  match conference.account with
  | none => ∀ callId, ¬ conference.HasPeer accountUri callId
  | some acc =>
    (∀ callId, conference.HasPeer (stripSipUriPrefix accountUri) callId →
      conference.Holds acc.accountId callId) ∧
    (stripSipUriPrefix accountUri = accountUri ∨ ∀ callId, ¬ conference.HasPeer accountUri callId)

theorem hangupParticipant_hangs_up_iff (conference : Attendance) (participantUri : String) :
    conference.HangsUp participantUri ↔ conference.HeldByOwnAccount participantUri := by
  unfold HangsUp HeldByOwnAccount hangupParticipant
  cases conference.account with
  | none =>
    constructor
    · rintro ⟨fuel, after, ends, nobody⟩
      cases ends
      exact nobody
    · intro nobody
      exact ⟨0, conference, rfl, nobody⟩
  | some acc =>
    simp only [if_true]
    constructor
    · rintro ⟨fuel, after, ends, nobody⟩
      obtain ⟨last, loops, same⟩ := Option.map_eq_some_iff.mp ends
      cases same
      obtain ⟨held, effect⟩ := hangupAll_effect fuel loops
      refine ⟨held, ?_⟩
      by_cases stable : stripSipUriPrefix (stripSipUriPrefix participantUri) =
          stripSipUriPrefix participantUri
      · exact .inl stable
      · right
        intro callId present
        exact nobody callId ((effect _ callId).mpr ⟨present, Ne.symm stable⟩)
    · rintro ⟨held, single⟩
      obtain ⟨after, ends⟩ :=
        hangupAll_ends (conference.participants.length + 1) (Nat.lt_succ_self _) held
      refine ⟨conference.participants.length + 1, after, ?_, ?_⟩
      · rw [ends]
        rfl
      · intro callId remaining
        obtain ⟨before, other⟩ := ((hangupAll_effect _ ends).2 _ callId).mp remaining
        rcases single with stable | nobody
        · exact other stable.symm
        · exact nobody callId before

/-- The participant's call belongs to another account of the same user agent. -/
theorem hangupParticipant_never_returns :
    ¬ HangsUp
      { account := some ⟨"first", "alice"⟩
        participants := ["call"]
        calls := AssocMap.empty.emplace "call" ⟨"<sip:bob@example.org>", ""⟩
        callSets := (AssocMap.empty.emplace "first" []).emplace "second" ["call"]
        remoteHosts := [] } "sip:bob@example.org" := by
  rintro ⟨fuel, after, ends, _⟩
  change (hangupAll _ _ fuel _).map _ = _ at ends
  rw [hangupAll_stuck (show getCallFromPeerID _ _ = some "call" by decide)
    (show ¬ Holds _ _ "call" by unfold Holds; decide)] at ends
  cases ends

end Attendance

end SipCore
