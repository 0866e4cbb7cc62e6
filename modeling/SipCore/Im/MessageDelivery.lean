/-
Which content a sent message has. The payloads are copied when `retrySend` claims the
message, and the result of the attempt is booked on whatever the message holds when it
arrives. The invariant follows every copy from the claim to its result.
-/

import SipCore.Im.MessageEngine
import Mathlib.Data.List.Perm.Basic

namespace SipCore.Im

def Engine.Known (engine : Engine) (peer : String) (token : Nat) : Prop :=
  (∃ message, engine.messages.find? (peer, token) = some message) ∨
    ∃ message, engine.file.find? (peer, token) = some message

def Engine.DrawsUnused (engine : Engine) : Operation → Prop
  | .sendMessage recipient payloads refreshToken draws =>
    (payloads.isEmpty || recipient.isEmpty) = false →
    engine.replaceable? recipient refreshToken = none →
    ∀ token, engine.newToken? recipient draws = some token → ∀ peer, ¬ engine.Known peer token
  | _ => True

def Addressed (messages : Messages) : Prop :=
  ∀ peer token message, messages.find? (peer, token) = some message → message.recipient = peer

structure Held (engine : Engine) : Prop where
  holder : ∀ peer other token, engine.Known peer token → engine.Known other token → peer = other
  memory : Addressed engine.messages
  file : Addressed engine.file

variable {messages : Messages} {change : Message → Message} {msg : PendingMsg}

theorem addressed_saved (addressed : Addressed messages) : Addressed (Engine.saved messages) := by
  intro peer token record found
  obtain ⟨message, stored, _, rfl⟩ := Engine.find?_saved.mp found
  exact addressed peer token message stored

theorem addressed_modify (addressed : Addressed messages) (key : String × Nat)
    (kept : ∀ message, message.recipient = key.1 → (change message).recipient = key.1) :
    Addressed (messages.modify key change) := by
  intro peer token message found
  obtain ⟨old, stored, rfl⟩ := find?_of_modify found
  have same := addressed peer token old stored
  split
  · rename_i own
    subst own
    exact kept old same
  · exact same

variable {peer : String} {token index : Nat} {message : Message}

theorem known_store {engine : Engine} (known : (engine.store messages).Known peer token) :
    ∃ message, messages.find? (peer, token) = some message := by
  rcases known with here | ⟨record, found⟩
  · exact here
  · obtain ⟨message, stored, _⟩ := Engine.find?_saved.mp found
    exact ⟨message, stored⟩

theorem Held.mono {engine next : Engine} (held : Held engine)
    (known : ∀ peer token, next.Known peer token → engine.Known peer token)
    (memory : Addressed next.messages) (file : Addressed next.file) : Held next :=
  ⟨fun peer other token here there =>
    held.holder peer other token (known peer token here) (known other token there), memory, file⟩

section

variable {engine : Engine} (held : Held engine)
include held

theorem held_store_modify (key : String × Nat)
    (kept : ∀ message, message.recipient = key.1 → (change message).recipient = key.1) :
    Held (engine.store (engine.messages.modify key change)) := by
  apply held.mono
  · intro peer token known
    obtain ⟨message, found⟩ := known_store known
    obtain ⟨old, stored, _⟩ := find?_of_modify found
    exact .inl ⟨old, stored⟩
  · exact addressed_modify held.memory key kept
  · exact addressed_saved (addressed_modify held.memory key kept)

private theorem held_onMessageSent (peer : String) (token : Nat) (ok : Bool) :
    Held (engine.onMessageSent peer token ok) := by
  rcases engine.onMessageSent_cases peer token ok with same | ⟨message, status, settled⟩
  · rw [same]
    exact held
  · have memory : Addressed (engine.onMessageSent peer token ok).messages := by
      rw [settled.messages]
      exact addressed_modify held.memory _ (fun _ same => same)
    have stored : ∀ other number,
        (∃ found, (engine.onMessageSent peer token ok).messages.find? (other, number) = some found) →
          engine.Known other number := by
      rw [settled.messages]
      rintro other number ⟨found, here⟩
      obtain ⟨old, before, _⟩ := find?_of_modify here
      exact .inl ⟨old, before⟩
    apply held.mono
    · rintro other number (here | ⟨found, there⟩)
      · exact stored other number here
      · rcases settled.file with written | kept
        · rw [written] at there
          obtain ⟨found, here, _⟩ := Engine.find?_saved.mp there
          exact stored other number ⟨found, here⟩
        · rw [kept] at there
          exact .inr ⟨found, there⟩
    · exact memory
    · rcases settled.file with written | kept
      · rw [written]
        exact addressed_saved memory
      · rw [kept]
        exact held.file

private theorem held_added {recipient : String} {payloads : Payloads}
    (absent : engine.messages.find? (recipient, token) = none)
    (fresh : ∀ peer, ¬ engine.Known peer token) :
    Held (engine.store (engine.messages.emplace (recipient, token)
      { recipient := recipient, payloads := payloads })) := by
  have memory : Addressed (engine.messages.emplace (recipient, token)
      { recipient := recipient, payloads := payloads }) := by
    intro peer number message found
    rcases find?_of_added absent found with ⟨same, rfl⟩ | stored
    · exact (congrArg Prod.fst same).symm
    · exact held.memory peer number message stored
  have known : ∀ peer number, (engine.store (engine.messages.emplace (recipient, token)
      { recipient := recipient, payloads := payloads })).Known peer number →
      (peer, number) = (recipient, token) ∨ engine.Known peer number := by
    intro peer number present
    obtain ⟨message, found⟩ := known_store present
    rcases find?_of_added absent found with ⟨same, _⟩ | stored
    · exact .inl same
    · exact .inr (.inl ⟨message, stored⟩)
  constructor
  · intro peer other number here there
    rcases known peer number here with newHere | oldHere
    · rcases known other number there with newThere | oldThere
      · cases newHere
        cases newThere
        rfl
      · cases newHere
        exact absurd oldThere (fresh other)
    · rcases known other number there with newThere | oldThere
      · cases newThere
        exact absurd oldHere (fresh peer)
      · exact held.holder peer other number oldHere oldThere
  · exact memory
  · exact addressed_saved memory

theorem held_step {operation : Operation} (unused : engine.DrawsUnused operation) :
    Held (step engine operation) := by
  have effect := step_effect engine operation
  generalize step engine operation = next at effect
  cases effect with
  | nothing => exact held
  | replaced accepted found unsent => exact held_store_modify held _ (fun _ _ => rfl)
  | @added recipient payloads refreshToken token draws accepted settled drawn absent positive =>
    exact held_added held absent (unused accepted settled token drawn)
  | claimed peer =>
    apply held.mono
    · rintro other number (⟨message, found⟩ | stored)
      · obtain ⟨old, stored, _⟩ := Engine.find?_of_claimed found
        exact .inl ⟨old, stored⟩
      · exact .inr stored
    · intro other number message found
      obtain ⟨old, stored, rfl⟩ := Engine.find?_of_claimed found
      have same := held.memory other number old stored
      split <;> exact same
    · exact held.file
  | passedOn found => exact ⟨held.holder, held.memory, held.file⟩
  | reported found =>
    apply held_onMessageSent
    exact ⟨held.holder, held.memory, held.file⟩
  | cancelled found => exact held_store_modify held _ (fun _ same => same)
  | saved =>
    apply held.mono
    · intro peer number known
      have saved : (engine.store engine.messages).Known peer number := known
      exact .inl (known_store saved)
    · exact held.memory
    · exact addressed_saved held.memory
  | loaded =>
    apply held.mono
    · rintro peer number (⟨message, found⟩ | stored)
      · rcases Engine.find?_of_load found with here | ⟨_, there⟩
        · exact .inl ⟨message, here⟩
        · exact .inr ⟨message, there⟩
      · exact .inr stored
    · intro peer number message found
      rcases Engine.find?_of_load found with here | ⟨_, there⟩
      · exact held.memory peer number message here
      · exact held.file peer number message there
    · exact held.file
  | restarted =>
    apply held.mono
    · rintro peer number (⟨message, found⟩ | stored)
      · cases found
      · exact .inr stored
    · intro peer number message found
      cases found
    · exact held.file

end

theorem held_create : Held Engine.create := by
  constructor
  · rintro peer other token (⟨message, found⟩ | ⟨message, found⟩) _
    · cases found
    · cases found
  · intro peer token message found
    cases found
  · intro peer token message found
    cases found

/-! ### Copies under way -/

def Engine.lastPassed (engine : Engine) (token : Nat) : Option Payloads :=
  ((engine.passed.filter (fun msg => msg.token = token)).getLast?).map PendingMsg.payloads

def SentAsPassed (engine : Engine) : Prop :=
  ∀ peer token message, engine.messages.find? (peer, token) = some message →
    message.status = .sent → engine.lastPassed token = some message.payloads

/-- No message is replaced while it is being sent, and drawn tokens are unused. -/
def Engine.Careful (engine : Engine) (operation : Operation) : Prop :=
  engine.DrawsUnused operation ∧
    match operation with
    | .sendMessage recipient payloads refreshToken _ =>
      (payloads.isEmpty || recipient.isEmpty) = false →
        ∀ message, engine.messages.find? (recipient, refreshToken) = some message →
          message.status ≠ .sending
    | _ => True

structure Coherent (engine : Engine) : Prop where
  waiting : ∀ msg ∈ engine.pending, ∃ message,
    engine.messages.find? (msg.recipient, msg.token) = some message ∧
      (message.status = .sending ∧ message.payloads = msg.payloads ∨ message.status = .cancelled)
  flying : ∀ msg ∈ engine.inFlight, ∃ message,
    engine.messages.find? (msg.recipient, msg.token) = some message ∧
      (message.status = .sending ∧ engine.lastPassed msg.token = some message.payloads ∨
        message.status = .cancelled)
  once : ((engine.pending ++ engine.inFlight).map PendingMsg.token).Nodup
  sent : SentAsPassed engine

theorem perm_of_getElem? {α : Type} {items : List α} {item : α} (found : items[index]? = some item) :
    (item :: items.eraseIdx index).Perm items := by
  obtain ⟨bound, rfl⟩ := List.getElem?_eq_some_iff.mp found
  exact List.getElem_cons_eraseIdx_perm bound

private theorem lastPassed_append (passed : List PendingMsg) (msg : PendingMsg) (engine : Engine)
    (same : engine.passed = passed ++ [msg]) (token : Nat) :
    engine.lastPassed token =
      if msg.token = token then some msg.payloads
      else ((passed.filter (fun msg => msg.token = token)).getLast?).map PendingMsg.payloads := by
  unfold Engine.lastPassed
  rw [same]
  by_cases here : msg.token = token
  · simp [here]
  · simp [here]

theorem claims_tokens_nodup (engine : Engine) (peer : String) :
    ((engine.claims peer).map PendingMsg.token).Nodup := by
  have keys : engine.messages.entries.Pairwise (fun left right => left.1 ≠ right.1) :=
    List.pairwise_map.mp engine.messages.distinct
  apply List.pairwise_map.mpr
  apply keys.filterMap
  rintro ⟨⟨leftPeer, leftToken⟩, left⟩ ⟨⟨rightPeer, rightToken⟩, right⟩ different first madeFirst
    second madeSecond same
  apply different
  split at madeFirst
  · rename_i chosenFirst
    split at madeSecond
    · rename_i chosenSecond
      cases madeFirst
      cases madeSecond
      obtain ⟨rfl, _⟩ := chosenFirst
      obtain ⟨rfl, _⟩ := chosenSecond
      cases same
      rfl
    · cases madeSecond
  · cases madeFirst

namespace Coherent

variable {engine : Engine}

theorem outstanding (coherent : Coherent engine) (member : msg ∈ engine.pending ++ engine.inFlight) :
    ∃ message,
      engine.messages.find? (msg.recipient, msg.token) = some message ∧
        (message.status = .sending ∨ message.status = .cancelled) := by
  rcases List.mem_append.mp member with inPending | inFlight
  · obtain ⟨message, found, sending | cancelled⟩ := coherent.waiting msg inPending
    · exact ⟨message, found, .inl sending.1⟩
    · exact ⟨message, found, .inr cancelled⟩
  · obtain ⟨message, found, sending | cancelled⟩ := coherent.flying msg inFlight
    · exact ⟨message, found, .inl sending.1⟩
    · exact ⟨message, found, .inr cancelled⟩

theorem of_messages {next : Engine} (coherent : Coherent engine)
    (pending : next.pending = engine.pending) (inFlight : next.inFlight = engine.inFlight)
    (passed : next.passed = engine.passed)
    (kept : ∀ msg ∈ engine.pending ++ engine.inFlight, ∀ message,
      engine.messages.find? (msg.recipient, msg.token) = some message →
        next.messages.find? (msg.recipient, msg.token) = some message ∨
        ∃ changed, next.messages.find? (msg.recipient, msg.token) = some changed ∧
          changed.status = .cancelled)
    (sent : SentAsPassed next) : Coherent next := by
  have last : next.lastPassed = engine.lastPassed := by
    unfold Engine.lastPassed
    rw [passed]
  constructor
  · rw [pending]
    intro msg member
    obtain ⟨message, found, state⟩ := coherent.waiting msg member
    rcases kept msg (List.mem_append_left _ member) message found with
      same | ⟨changed, here, cancelled⟩
    · exact ⟨message, same, state⟩
    · exact ⟨changed, here, .inr cancelled⟩
  · rw [inFlight, last]
    intro msg member
    obtain ⟨message, found, state⟩ := coherent.flying msg member
    rcases kept msg (List.mem_append_right _ member) message found with
      same | ⟨changed, here, cancelled⟩
    · exact ⟨message, same, state⟩
    · exact ⟨changed, here, .inr cancelled⟩
  · rw [pending, inFlight]
    exact coherent.once
  · exact sent

section

variable (coherent : Coherent engine)
include coherent

/-- A change of one message whose new status is not `sent`. A copy under way is
not disturbed if the message was cancelled before or is now. -/
theorem store_modify (key : String × Nat) {old : Message}
    (stored : engine.messages.find? key = some old) (unsent : (change old).status ≠ .sent)
    (quiet : old.status = .sending ∨ old.status = .cancelled → (change old).status = .cancelled) :
    Coherent (engine.store (engine.messages.modify key change)) := by
  apply coherent.of_messages
  · rfl
  · rfl
  · rfl
  · intro msg member message found
    change (engine.messages.modify key change).find? _ = _ ∨ ∃ changed,
      (engine.messages.modify key change).find? _ = _ ∧ _
    rw [AssocMap.find?_modify]
    by_cases same : (msg.recipient, msg.token) = key
    · right
      rw [same, stored] at found
      cases found
      rw [if_pos same, stored]
      refine ⟨_, rfl, quiet ?_⟩
      obtain ⟨message, here, state⟩ := coherent.outstanding member
      rw [same, stored] at here
      cases here
      exact state
    · left
      rw [if_neg same]
      exact found
  · intro peer token message found sent
    obtain ⟨before, here, rfl⟩ := find?_of_modify found
    split at sent
    · rename_i same
      rw [same, stored] at here
      cases here
      exact absurd sent unsent
    · rename_i different
      rw [if_neg different]
      exact coherent.sent peer token before here sent

theorem not_ready (member : msg ∈ engine.pending ++ engine.inFlight)
    (found : engine.messages.find? (msg.recipient, msg.token) = some message) :
    message.ready = false := by
  obtain ⟨other, here, state⟩ := coherent.outstanding member
  rw [found] at here
  cases here
  unfold Message.ready
  rcases state with sending | cancelled
  · rw [sending]
    rfl
  · rw [cancelled]
    rfl

private theorem find?_claimed (peer : String) (member : msg ∈ engine.pending ++ engine.inFlight)
    (found : engine.messages.find? (msg.recipient, msg.token) = some message) :
    (engine.retrySend peer true).messages.find? (msg.recipient, msg.token) = some message := by
  rw [Engine.find?_retrySend, found, Option.map_some, coherent.not_ready member found]
  simp

section

variable (held : Held engine)
include held

theorem claims_apart {other : PendingMsg} (new : msg ∈ engine.claims peer)
    (before : other ∈ engine.pending ++ engine.inFlight) : msg.token ≠ other.token := by
  intro same
  obtain ⟨message, found, ready, _⟩ := Engine.mem_claims_iff.mp new
  obtain ⟨otherMessage, here, _⟩ := coherent.outstanding before
  rw [same] at found
  have holder : peer = other.recipient :=
    held.holder peer other.recipient other.token (.inl ⟨message, found⟩) (.inl ⟨otherMessage, here⟩)
  rw [holder] at found
  have idle := coherent.not_ready before found
  rw [ready] at idle
  cases idle

private theorem claimed_once (peer : String) :
    (((engine.pending ++ engine.claims peer) ++ engine.inFlight).map PendingMsg.token).Nodup := by
  have order : ((engine.pending ++ engine.claims peer) ++ engine.inFlight).Perm
      (engine.claims peer ++ (engine.pending ++ engine.inFlight)) := by
    rw [← List.append_assoc]
    exact List.perm_append_comm.append_right _
  rw [(order.map PendingMsg.token).nodup_iff, List.map_append, List.nodup_append]
  refine ⟨claims_tokens_nodup engine peer, coherent.once, ?_⟩
  intro left inClaims right inOld
  obtain ⟨msg, new, rfl⟩ := List.mem_map.mp inClaims
  obtain ⟨other, before, rfl⟩ := List.mem_map.mp inOld
  exact coherent.claims_apart held new before

private theorem claimed (peer : String) : Coherent (engine.retrySend peer true) := by
  constructor
  · intro msg member
    rcases List.mem_append.mp member with before | new
    · obtain ⟨message, found, state⟩ := coherent.waiting msg before
      exact ⟨message, coherent.find?_claimed peer (List.mem_append_left _ before) found, state⟩
    · obtain ⟨message, found, ready, recipient, payloads⟩ := Engine.mem_claims_iff.mp new
      have address := held.memory peer msg.token message found
      rw [recipient] at address
      refine ⟨message.claimed, ?_, .inl ⟨rfl, payloads⟩⟩
      rw [address, Engine.find?_retrySend, found, Option.map_some, if_pos ⟨rfl, ready⟩]
  · intro msg member
    obtain ⟨message, found, state⟩ := coherent.flying msg member
    exact ⟨message, coherent.find?_claimed peer (List.mem_append_right _ member) found, state⟩
  · exact coherent.claimed_once held peer
  · intro holder token message found sent
    obtain ⟨old, here, rfl⟩ := Engine.find?_of_claimed found
    split at sent
    · cases sent
    · rename_i skipped
      rw [if_neg skipped]
      exact coherent.sent holder token old here sent

private theorem sent_apart (member : msg ∈ engine.pending)
    (here : engine.messages.find? (peer, token) = some message) (sent : message.status = .sent) :
    msg.token ≠ token := by
  intro same
  subst same
  obtain ⟨own, found, state⟩ := coherent.outstanding (List.mem_append_left _ member)
  have holder := held.holder msg.recipient peer msg.token (.inl ⟨own, found⟩) (.inl ⟨message, here⟩)
  rw [← holder, found] at here
  cases here
  rcases state with sending | cancelled
  · rw [sending] at sent
    cases sent
  · rw [cancelled] at sent
    cases sent

private theorem passedOn (found : engine.pending[index]? = some msg) :
    Coherent { engine with
      pending := engine.pending.eraseIdx index
      inFlight := engine.inFlight ++ [msg]
      passed := engine.passed ++ [msg] } := by
  have member := List.mem_of_getElem? found
  obtain ⟨own, ownFound, ownState⟩ := coherent.waiting msg member
  have last : ∀ token, msg.token ≠ token →
      ({ engine with
        pending := engine.pending.eraseIdx index
        inFlight := engine.inFlight ++ [msg]
        passed := engine.passed ++ [msg] } : Engine).lastPassed token = engine.lastPassed token := by
    intro token different
    rw [lastPassed_append engine.passed msg _ rfl, if_neg different]
    rfl
  constructor
  · intro other remains
    exact coherent.waiting other (List.mem_of_mem_eraseIdx remains)
  · intro other flies
    rcases List.mem_append.mp flies with before | new
    · have different : msg.token ≠ other.token := by
        have nodup := coherent.once
        rw [List.map_append, List.nodup_append] at nodup
        exact nodup.2.2 _ (List.mem_map_of_mem member) _ (List.mem_map_of_mem before)
      rw [last other.token different]
      exact coherent.flying other before
    · rw [List.mem_singleton.mp new]
      refine ⟨own, ownFound, ?_⟩
      rcases ownState with ⟨sending, same⟩ | cancelled
      · left
        rw [lastPassed_append engine.passed msg _ rfl, if_pos rfl, same]
        exact ⟨sending, rfl⟩
      · exact .inr cancelled
  · have order : (engine.pending.eraseIdx index ++ (engine.inFlight ++ [msg])).Perm
        (engine.pending ++ engine.inFlight) := by
      have whole := (perm_of_getElem? found).append_right engine.inFlight
      refine .trans ?_ whole
      rw [← List.append_assoc]
      exact List.perm_append_singleton msg _
    exact ((order.map PendingMsg.token).nodup_iff).mpr coherent.once
  · intro peer token message here sent
    rw [last token (coherent.sent_apart held member here sent)]
    exact coherent.sent peer token message here sent

end

private theorem reported (found : engine.inFlight[index]? = some msg) (ok : Bool) :
    Coherent ({ engine with inFlight := engine.inFlight.eraseIdx index }.onMessageSent
      msg.recipient msg.token ok) := by
  have order : (msg :: (engine.pending ++ engine.inFlight.eraseIdx index)).Perm
      (engine.pending ++ engine.inFlight) := by
    refine .trans ?_ ((perm_of_getElem? found).append_left engine.pending)
    exact List.perm_middle.symm
  have tokens := ((order.map PendingMsg.token).nodup_iff).mpr coherent.once
  rw [List.map_cons, List.nodup_cons] at tokens
  have dropped : Coherent { engine with inFlight := engine.inFlight.eraseIdx index } := by
    constructor
    · exact coherent.waiting
    · intro other flies
      exact coherent.flying other (List.mem_of_mem_eraseIdx flies)
    · exact tokens.2
    · exact coherent.sent
  rcases Engine.onMessageSent_cases { engine with inFlight := engine.inFlight.eraseIdx index }
      msg.recipient msg.token ok with same | ⟨message, status, settled⟩
  · rw [same]
    exact dropped
  · apply dropped.of_messages settled.others.1 settled.others.2.1 settled.others.2.2
    · intro other member before here
      left
      rw [settled.messages, AssocMap.find?_modify, if_neg]
      · exact here
      · intro same
        have sameToken : other.token = msg.token := congrArg Prod.snd same
        apply tokens.1
        rw [← sameToken]
        exact List.mem_map_of_mem member
    · intro peer token after here sent
      rw [settled.messages] at here
      obtain ⟨before, stored, rfl⟩ := find?_of_modify here
      have last : (Engine.onMessageSent { engine with inFlight := engine.inFlight.eraseIdx index }
          msg.recipient msg.token ok).lastPassed token = engine.lastPassed token := by
        unfold Engine.lastPassed
        rw [settled.others.2.2]
      rw [last]
      split at sent
      · rename_i same
        obtain ⟨own, ownFound, ownState⟩ := coherent.flying msg (List.mem_of_getElem? found)
        cases same
        rw [if_pos rfl]
        rw [ownFound] at stored
        cases stored
        have ownSending := settled.found
        rw [ownFound] at ownSending
        cases ownSending
        rcases ownState with ⟨_, passed⟩ | cancelled
        · exact passed
        · rw [settled.sending] at cancelled
          cases cancelled
      · rename_i different
        rw [if_neg different]
        exact coherent.sent peer token before stored sent

theorem step (held : Held engine) (statuses : Statuses engine) {operation : Operation}
    (careful : engine.Careful operation) : Coherent (step engine operation) := by
  have effect := step_effect engine operation
  generalize Im.step engine operation = next at effect
  cases effect with
  | nothing => exact coherent
  | @replaced recipient payloads refreshToken draws old accepted found unsent =>
    apply coherent.store_modify _ found unsent
    rintro (sending | cancelled)
    · exact absurd sending (careful.2 accepted old found)
    · exact cancelled
  | @added recipient payloads refreshToken token draws accepted settled drawn absent positive =>
    apply coherent.of_messages
    · rfl
    · rfl
    · rfl
    · intro msg member message found
      left
      change (AssocMap.emplace _ _ _).find? _ = _
      rw [AssocMap.find?_emplace, if_neg]
      · exact found
      · intro same
        rw [same, absent] at found
        cases found
    · intro peer number message found sent
      rcases find?_of_added absent found with ⟨_, rfl⟩ | stored
      · cases sent
      · exact coherent.sent peer number message stored sent
  | claimed peer => exact coherent.claimed held peer
  | passedOn found => exact coherent.passedOn held found
  | reported found => exact coherent.reported found _
  | cancelled found =>
    exact coherent.store_modify _ found nofun (fun _ => rfl)
  | saved => exact ⟨coherent.waiting, coherent.flying, coherent.once, coherent.sent⟩
  | loaded =>
    apply coherent.of_messages
    · rfl
    · rfl
    · rfl
    · intro msg member message found
      left
      rw [Engine.find?_load, found]
      rfl
    · intro peer token message found sent
      rcases Engine.find?_of_load found with here | ⟨_, there⟩
      · exact coherent.sent peer token message here sent
      · have ready := statuses.file _ message there
        unfold Message.ready at ready
        rw [sent] at ready
        cases ready
  | restarted =>
    constructor
    · intro msg member
      cases member
    · intro msg member
      cases member
    · exact List.nodup_nil
    · intro peer token message found
      cases found

end

theorem create : Coherent Engine.create := by
  constructor
  · intro msg member
    cases member
  · intro msg member
    cases member
  · exact List.nodup_nil
  · intro peer token message found
    cases found

end Coherent

/-- Along every run without a replacement during a transmission and with unused
tokens, a sent message holds what was last passed to the account for its token. -/
theorem sent_as_passed_of_careful (operations : List Operation)
    (careful : Run.Guarded step Engine.Careful Engine.create operations) :
    Run.Always step SentAsPassed Engine.create operations := by
  have invariant : Run.Always step
      (fun engine => Coherent engine ∧ Held engine ∧ Statuses engine) Engine.create operations := by
    refine Run.always_of_guarded ?_ ⟨Coherent.create, held_create, statuses_create⟩ careful
    rintro engine operation ⟨coherent, held, statuses⟩ ok
    exact ⟨coherent.step held statuses ok, held_step held ok.1,
      statuses_step engine operation statuses⟩
  exact invariant.imp (fun engine holds => holds.1.sent)

/-- One message, sent at the first attempt. -/
theorem sent_as_passed_once :
    Run.Guarded step Engine.Careful Engine.create
        [.sendMessage "bob" [("text/plain", "hi")] 0 [0], .retrySend "bob" true, .passPending 0,
          .reportResult 0 true] ∧
      Run.Always step SentAsPassed Engine.create
        [.sendMessage "bob" [("text/plain", "hi")] 0 [0], .retrySend "bob" true, .passPending 0,
          .reportResult 0 true] := by
  have careful : Run.Guarded step Engine.Careful Engine.create
      [.sendMessage "bob" [("text/plain", "hi")] 0 [0], .retrySend "bob" true, .passPending 0,
        .reportResult 0 true] := by
    refine ⟨⟨?_, ?_⟩, ⟨trivial, trivial⟩, ⟨trivial, trivial⟩, ⟨trivial, trivial⟩, trivial⟩
    · rintro _ _ token _ peer (⟨message, found⟩ | ⟨message, found⟩)
      · cases found
      · cases found
    · intro _ message found
      cases found
  exact ⟨careful, sent_as_passed_of_careful _ careful⟩

/-- The content is replaced between the attempt and its result. -/
theorem replaced_while_sending_not_as_passed :
    ¬ Run.Always step SentAsPassed Engine.create
      [.sendMessage "bob" [("text/plain", "hi")] 0 [0], .retrySend "bob" true, .passPending 0,
        .sendMessage "bob" [("text/plain", "ho")] 1 [], .reportResult 0 true] := by
  intro always
  have passed := always.last "bob" 1 ⟨"bob", [("text/plain", "ho")], .sent, 1⟩ (by decide) rfl
  revert passed
  decide

/-- No two copies of a message are under way, and one that is belongs to a message that
is being sent or was cancelled. -/
def OneCopyEach (engine : Engine) : Prop :=
  ((engine.pending ++ engine.inFlight).map PendingMsg.token).Nodup ∧
    ∀ msg ∈ engine.pending ++ engine.inFlight, ∃ message,
      engine.messages.find? (msg.recipient, msg.token) = some message ∧
        (message.status = .sending ∨ message.status = .cancelled)

theorem one_copy_each_of_careful (operations : List Operation)
    (careful : Run.Guarded step Engine.Careful Engine.create operations) :
    Run.Always step OneCopyEach Engine.create operations := by
  have invariant : Run.Always step
      (fun engine => Coherent engine ∧ Held engine ∧ Statuses engine) Engine.create operations := by
    refine Run.always_of_guarded ?_ ⟨Coherent.create, held_create, statuses_create⟩ careful
    intro engine operation holds ok
    exact ⟨holds.1.step holds.2.1 holds.2.2 ok, held_step holds.2.1 ok.1,
      statuses_step engine operation holds.2.2⟩
  apply invariant.imp
  intro engine holds
  exact ⟨holds.1.once, fun msg member => holds.1.outstanding member⟩

/-- Cancelled while its copy is under way, and tried again meanwhile. -/
theorem one_copy_of_cancelled_message : Run.Always step OneCopyEach Engine.create
    [.sendMessage "bob" [("text/plain", "hi")] 0 [0], .retrySend "bob" true, .cancel 1,
      .retrySend "bob" true, .passPending 0] := by
  apply one_copy_each_of_careful
  refine ⟨⟨?_, ?_⟩, ⟨trivial, trivial⟩, ⟨trivial, trivial⟩, ⟨trivial, trivial⟩,
    ⟨trivial, trivial⟩, trivial⟩
  · intro _ _ token _ peer known
    rcases known with ⟨message, found⟩ | ⟨message, found⟩
    · cases found
    · cases found
  · intro _ message found
    cases found

end SipCore.Im
