/-
How often a message is passed to the account. Within one process the counter in memory
bounds the calls. The file does not follow the counter, so the bound survives a restart
only if what is loaded still counts all the calls.
-/

import SipCore.Im.MessageDelivery

namespace SipCore.Im

def Engine.calls (engine : Engine) (token : Nat) : Nat :=
  engine.passed.countP (fun msg => msg.token = token)

def Engine.copies (engine : Engine) (token : Nat) : Nat :=
  engine.pending.countP (fun msg => msg.token = token)

def CallsBounded (engine : Engine) : Prop :=
  ∀ token, engine.calls token ≤ maxRetries

/-- Drawn tokens are unused, and every message that is loaded has a counter below
the limit that counts all calls made for its token. -/
def Engine.Accounted (engine : Engine) (operation : Operation) : Prop :=
  engine.DrawsUnused operation ∧
    match operation with
    | .sendMessage recipient payloads refreshToken draws =>
      (payloads.isEmpty || recipient.isEmpty) = false →
        engine.replaceable? recipient refreshToken = none →
        ∀ token, engine.newToken? recipient draws = some token → engine.calls token = 0
    | .load =>
      ∀ peer token record, engine.file.find? (peer, token) = some record →
        engine.messages.find? (peer, token) = none →
        engine.calls token ≤ record.retried ∧ record.retried < maxRetries
    | _ => True

structure Covered (engine : Engine) (token : Nat) (message : Message) : Prop where
  counted : engine.calls token + engine.copies token ≤ message.retried
  limit : message.retried ≤ maxRetries
  left : message.ready = true → message.retried < maxRetries

structure Bounded (engine : Engine) : Prop where
  covered : ∀ peer token message, engine.messages.find? (peer, token) = some message →
    Covered engine token message
  stored : ∀ msg ∈ engine.pending, ∃ message,
    engine.messages.find? (msg.recipient, msg.token) = some message
  calls : CallsBounded engine

theorem Engine.calls_eq {engine next : Engine} (passed : next.passed = engine.passed) :
    next.calls = engine.calls := by
  unfold Engine.calls
  rw [passed]

theorem Engine.copies_eq {engine next : Engine} (pending : next.pending = engine.pending) :
    next.copies = engine.copies := by
  unfold Engine.copies
  rw [pending]

theorem claims_countP_le (engine : Engine) (peer : String) (token : Nat) :
    (engine.claims peer).countP (fun msg => msg.token = token) ≤ 1 := by
  have once := List.nodup_iff_count_le_one.mp (claims_tokens_nodup engine peer) token
  rw [List.count_eq_countP, List.countP_map] at once
  exact once

namespace Bounded

variable {engine : Engine}

private theorem copies_of_unheld (bounded : Bounded engine) {token : Nat}
    (unheld : ∀ peer, engine.messages.find? (peer, token) = none) : engine.copies token = 0 := by
  apply List.countP_eq_zero.mpr
  intro msg member
  rw [decide_eq_true_iff]
  rintro rfl
  obtain ⟨message, found⟩ := bounded.stored msg member
  rw [unheld] at found
  cases found

section

variable {next : Engine} (bounded : Bounded engine) (pending : next.pending = engine.pending)
  (passed : next.passed = engine.passed)
include bounded pending passed

theorem of_messages
    (kept : ∀ key message, next.messages.find? key = some message →
      ∃ old, engine.messages.find? key = some old ∧ message.retried = old.retried ∧
      (message.ready = true → old.ready = true ∨ message.retried < maxRetries))
    (present : ∀ key old, engine.messages.find? key = some old →
      ∃ message, next.messages.find? key = some message) :
    Bounded next := by
  have calls := Engine.calls_eq passed
  have copies := Engine.copies_eq pending
  constructor
  · intro peer token message found
    obtain ⟨old, before, same, ready⟩ := kept (peer, token) message found
    have covered := bounded.covered peer token old before
    constructor
    · rw [calls, copies, same]
      exact covered.counted
    · rw [same]
      exact covered.limit
    · intro now
      rcases ready now with wasReady | below
      · rw [same]
        exact covered.left wasReady
      · exact below
  · rw [pending]
    intro msg member
    obtain ⟨old, before⟩ := bounded.stored msg member
    exact present _ old before
  · intro token
    rw [calls]
    exact bounded.calls token

theorem of_modify (key : String × Nat) (change : Message → Message)
    (messages : next.messages = engine.messages.modify key change)
    (retried : ∀ message, (change message).retried = message.retried)
    (ready : ∀ old, engine.messages.find? key = some old → (change old).ready = true →
      old.ready = true ∨ old.retried < maxRetries) :
    Bounded next := by
  apply bounded.of_messages pending passed
  · intro other message found
    rw [messages] at found
    obtain ⟨old, before, rfl⟩ := find?_of_modify found
    refine ⟨old, before, ?_, ?_⟩
    · split
      · exact retried old
      · rfl
    · split
      · rename_i same
        intro now
        rw [retried old]
        exact ready old (same ▸ before) now
      · exact .inl
  · intro other old before
    rw [messages, AssocMap.find?_modify]
    split
    · rename_i same
      rw [← same, before]
      exact ⟨_, rfl⟩
    · exact ⟨old, before⟩

private theorem of_more
    (new : ∀ peer token message, next.messages.find? (peer, token) = some message →
      engine.messages.find? (peer, token) = some message ∨
      (∀ other, engine.messages.find? (other, token) = none) ∧
      engine.calls token ≤ message.retried ∧ message.retried < maxRetries)
    (present : ∀ key old, engine.messages.find? key = some old →
      ∃ message, next.messages.find? key = some message) :
    Bounded next := by
  have calls := Engine.calls_eq passed
  have copies := Engine.copies_eq pending
  constructor
  · intro peer token message found
    rcases new peer token message found with stored | ⟨unheld, counted, below⟩
    · have covered := bounded.covered peer token message stored
      constructor
      · rw [calls, copies]
        exact covered.counted
      · exact covered.limit
      · exact covered.left
    · constructor
      · rw [calls, copies, bounded.copies_of_unheld unheld]
        exact counted
      · exact Nat.le_of_lt below
      · intro _
        exact below
  · rw [pending]
    intro msg member
    obtain ⟨old, before⟩ := bounded.stored msg member
    exact present _ old before
  · intro token
    rw [calls]
    exact bounded.calls token

end

theorem claims_countP_eq_zero (held : Held engine) {holder peer : String} {token : Nat}
    {old : Message} (before : engine.messages.find? (holder, token) = some old)
    (skipped : ¬ (holder = peer ∧ old.ready = true)) :
    (engine.claims peer).countP (fun msg => msg.token = token) = 0 := by
  apply List.countP_eq_zero.mpr
  intro msg new
  rw [decide_eq_true_iff]
  rintro rfl
  obtain ⟨message, here, ready, _⟩ := Engine.mem_claims_iff.mp new
  have same := held.holder holder peer msg.token (.inl ⟨old, before⟩) (.inl ⟨message, here⟩)
  subst same
  rw [before] at here
  cases here
  exact skipped ⟨rfl, ready⟩

theorem claimed (bounded : Bounded engine) (held : Held engine) (peer : String) :
    Bounded (engine.retrySend peer true) := by
  constructor
  · intro holder token message found
    obtain ⟨old, before, rfl⟩ := Engine.find?_of_claimed found
    have covered := bounded.covered holder token old before
    have copies : (engine.retrySend peer true).copies token =
        engine.copies token + (engine.claims peer).countP (fun msg => msg.token = token) :=
      List.countP_append
    have calls : (engine.retrySend peer true).calls token = engine.calls token := rfl
    split
    · rename_i chosen
      have below := covered.left chosen.2
      have once := claims_countP_le engine peer token
      constructor
      · change _ ≤ old.retried + 1
        have counted := covered.counted
        omega
      · exact below
      · intro ready
        cases ready
    · rename_i skipped
      constructor
      · rw [copies, claims_countP_eq_zero held before skipped]
        exact covered.counted
      · exact covered.limit
      · exact covered.left
  · intro msg member
    have present : ∀ key old, engine.messages.find? key = some old →
        ∃ message, (engine.retrySend peer true).messages.find? key = some message := by
      intro key old before
      rw [Engine.find?_retrySend, before]
      exact ⟨_, rfl⟩
    rcases List.mem_append.mp member with before | new
    · obtain ⟨old, found⟩ := bounded.stored msg before
      exact present _ old found
    · obtain ⟨message, found, _, recipient, _⟩ := Engine.mem_claims_iff.mp new
      have address := held.memory peer msg.token message found
      rw [recipient] at address
      rw [← address] at found
      exact present _ message found
  · exact bounded.calls

private theorem passedOn (bounded : Bounded engine) {index : Nat} {msg : PendingMsg}
    (found : engine.pending[index]? = some msg) :
    Bounded { engine with
      pending := engine.pending.eraseIdx index
      inFlight := engine.inFlight ++ [msg]
      passed := engine.passed ++ [msg] } := by
  have calls : ∀ token, (engine.passed ++ [msg]).countP (fun msg => msg.token = token) =
      engine.calls token + if msg.token = token then 1 else 0 := by
    intro token
    rw [List.countP_append, List.countP_singleton]
    simp only [decide_eq_true_eq]
    rfl
  have copies : ∀ token, engine.copies token =
      (engine.pending.eraseIdx index).countP (fun msg => msg.token = token) +
        if msg.token = token then 1 else 0 := by
    intro token
    have whole := (perm_of_getElem? found).countP_eq (fun msg => msg.token = token)
    rw [List.countP_cons] at whole
    simp only [decide_eq_true_eq] at whole
    exact whole.symm
  constructor
  · intro peer token message here
    have covered := bounded.covered peer token message here
    constructor
    · change (engine.passed ++ [msg]).countP _ + (engine.pending.eraseIdx index).countP _ ≤ _
      rw [calls token]
      have counted := covered.counted
      rw [copies token] at counted
      omega
    · exact covered.limit
    · exact covered.left
  · intro other member
    exact bounded.stored other (List.mem_of_mem_eraseIdx member)
  · intro token
    change (engine.passed ++ [msg]).countP _ ≤ _
    rw [calls token]
    split
    · rename_i same
      obtain ⟨message, here⟩ := bounded.stored msg (List.mem_of_getElem? found)
      have covered := bounded.covered _ _ message here
      have counted := covered.counted
      have limit := covered.limit
      rw [copies msg.token, if_pos rfl, same] at counted
      omega
    · exact bounded.calls token

private theorem reported (bounded : Bounded engine) (index : Nat) (msg : PendingMsg) (ok : Bool) :
    Bounded (({ engine with inFlight := engine.inFlight.eraseIdx index } : Engine).onMessageSent
      msg.recipient msg.token ok) := by
  have dropped : Bounded { engine with inFlight := engine.inFlight.eraseIdx index } :=
    ⟨fun peer token message here =>
      let covered := bounded.covered peer token message here
      ⟨covered.counted, covered.limit, covered.left⟩, bounded.stored, bounded.calls⟩
  rcases Engine.onMessageSent_cases { engine with inFlight := engine.inFlight.eraseIdx index }
      msg.recipient msg.token ok with same | ⟨message, status, settled⟩
  · rw [same]
    exact dropped
  · apply dropped.of_modify settled.others.1 settled.others.2.2 _ _ settled.messages
    · intro _
      rfl
    · intro old before ready
      right
      have same := Option.some.inj (before.symm.trans settled.found)
      subst same
      rcases settled.outcome with rfl | rfl | ⟨rfl, below⟩
      · cases ready
      · cases ready
      · exact below

private theorem step (bounded : Bounded engine) (held : Held engine) {operation : Operation}
    (accounted : engine.Accounted operation) : Bounded (step engine operation) := by
  have effect := step_effect engine operation
  generalize Im.step engine operation = next at effect
  cases effect with
  | nothing => exact bounded
  | @replaced recipient payloads refreshToken draws old accepted found unsent =>
    exact bounded.of_modify rfl rfl (recipient, refreshToken)
      (fun message => message.withContent recipient payloads) rfl (fun _ => rfl)
      (fun _ _ ready => .inl ready)
  | @added recipient payloads refreshToken token draws accepted settled drawn absent positive =>
    have fresh := accounted.1 accepted settled token drawn
    have uncalled := accounted.2 accepted settled token drawn
    apply bounded.of_more
    · rfl
    · rfl
    · intro peer number message found
      rcases find?_of_added absent found with ⟨same, rfl⟩ | stored
      · cases same
        refine .inr ⟨?_, Nat.le_of_eq uncalled, (by decide : 0 < maxRetries)⟩
        intro other
        apply Option.eq_none_iff_forall_ne_some.mpr
        intro message found
        exact fresh other (.inl ⟨message, found⟩)
      · exact .inl stored
    · intro key old found
      change ∃ message, (AssocMap.emplace _ _ _).find? _ = some message
      rw [AssocMap.find?_emplace]
      split
      · exact ⟨_, rfl⟩
      · exact ⟨old, found⟩
  | claimed peer => exact bounded.claimed held peer
  | passedOn found => exact bounded.passedOn found
  | @reported index ok msg found => exact bounded.reported index msg ok
  | @cancelled token peer message found =>
    exact bounded.of_modify rfl rfl (peer, token)
      (fun message => message.withStatus .cancelled) rfl (fun _ => rfl)
      (fun _ _ ready => absurd ready Bool.false_ne_true)
  | saved =>
    apply bounded.of_messages
    · rfl
    · rfl
    · intro key message found
      exact ⟨message, found, rfl, .inl⟩
    · intro key old found
      exact ⟨old, found⟩
  | loaded =>
    apply bounded.of_more
    · rfl
    · rfl
    · intro peer token message found
      rcases Engine.find?_of_load found with here | ⟨absent, there⟩
      · exact .inl here
      · refine .inr ⟨?_, accounted.2 peer token message there absent⟩
        intro other
        apply Option.eq_none_iff_forall_ne_some.mpr
        intro stored found
        have holder := held.holder other peer token (.inl ⟨stored, found⟩)
          (.inr ⟨message, there⟩)
        rw [holder, absent] at found
        cases found
    · intro key old found
      refine ⟨old, ?_⟩
      rw [Engine.find?_load, found]
      rfl
  | restarted =>
    constructor
    · intro peer token message found
      cases found
    · intro msg member
      cases member
    · exact bounded.calls

theorem create : Bounded Engine.create := by
  constructor
  · intro peer token message found
    cases found
  · intro msg member
    cases member
  · intro token
    exact Nat.zero_le _

end Bounded

/-- Along every run in which the loaded counters count all calls, no token is
passed to the account more often than the limit allows. -/
theorem calls_bounded_of_accounted (operations : List Operation)
    (accounted : Run.Guarded step Engine.Accounted Engine.create operations) :
    Run.Always step CallsBounded Engine.create operations := by
  have invariant : Run.Always step (fun engine => Bounded engine ∧ Held engine)
      Engine.create operations := by
    refine Run.always_of_guarded ?_ ⟨Bounded.create, held_create⟩ accounted
    rintro engine operation ⟨bounded, held⟩ ok
    exact ⟨bounded.step held ok, held_step held ok.1⟩
  exact invariant.imp (fun engine holds => holds.1.calls)

/-- A message that is claimed, passed on and saved before the process ends. -/
theorem calls_bounded_after_restart :
    Run.Guarded step Engine.Accounted Engine.create
        [.sendMessage "bob" [("text/plain", "hi")] 0 [0], .retrySend "bob" true, .passPending 0,
          .save, .restart, .load, .retrySend "bob" true, .passPending 0] ∧
      Run.Always step CallsBounded Engine.create
        [.sendMessage "bob" [("text/plain", "hi")] 0 [0], .retrySend "bob" true, .passPending 0,
          .save, .restart, .load, .retrySend "bob" true, .passPending 0] := by
  have accounted : Run.Guarded step Engine.Accounted Engine.create
      [.sendMessage "bob" [("text/plain", "hi")] 0 [0], .retrySend "bob" true, .passPending 0,
        .save, .restart, .load, .retrySend "bob" true, .passPending 0] := by
    refine ⟨⟨?_, ?_⟩, ⟨trivial, trivial⟩, ⟨trivial, trivial⟩, ⟨trivial, trivial⟩,
      ⟨trivial, trivial⟩, ⟨trivial, ?_⟩, ⟨trivial, trivial⟩, ⟨trivial, trivial⟩, trivial⟩
    · rintro _ _ token _ peer (⟨message, found⟩ | ⟨message, found⟩)
      · cases found
      · cases found
    · intro _ _ token _
      rfl
    · intro peer token record found _
      have only := List.mem_singleton.mp ((AssocMap.mem_entries_iff _ _ _).mpr found)
      cases only
      decide
  exact ⟨accounted, calls_bounded_of_accounted _ accounted⟩

/-- Sending, restarting and loading in turn: the saved counter stays at zero. -/
theorem calls_unbounded_over_restarts :
    ¬ Run.Always step CallsBounded Engine.create
      (.sendMessage "bob" [("text/plain", "hi")] 0 [0] ::
        (List.replicate 21 [.retrySend "bob" true, .passPending 0, .restart, .load]).flatten) := by
  intro always
  have bound := always.last 1
  revert bound
  decide +kernel

end SipCore.Im
