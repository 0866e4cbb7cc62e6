/-
The engine that keeps outgoing text messages until the account has sent them. Claiming a
message is one operation, each call of the account's `sendMessage` and each result
another, in any order.

The map of maps is one map from pairs of a peer and a token. Writing the file does not
fail, and reading it gives the records back. The generator yields the values of a list,
a token is one more than such a value. The field `to` is called `recipient`.
-/

import SipCore.Library.AssocMap
import SipCore.Library.GuardedRun

namespace SipCore.Im

inductive MessageStatus where
  | unknown
  | idle
  | sending
  | sent
  | displayed
  | failure
  | cancelled
deriving DecidableEq, Repr

abbrev Payloads := List (String × String)

structure Message where
  recipient : String
  payloads : Payloads
  status : MessageStatus := .unknown
  retried : Nat := 0
deriving DecidableEq, Repr

structure PendingMsg where
  token : Nat
  recipient : String
  payloads : Payloads
deriving DecidableEq, Repr

abbrev Messages := AssocMap (String × Nat) Message

def maxRetries : Nat := 20

def idMaxVal : Nat := 9007199254740992

instance idMaxVal_neZero : @NeZero Nat Zero.ofOfNat0 idMaxVal :=
  ⟨Nat.succ_ne_zero 9007199254740991⟩

/-- `pending` are the copies `retrySend` has claimed but not passed on, `inFlight`
the attempts whose result is not reported yet, `passed` all calls of the account's
`sendMessage`, oldest first. -/
structure Engine where
  messages : Messages
  file : Messages
  pending : List PendingMsg
  inFlight : List PendingMsg
  passed : List PendingMsg

def Message.ready (message : Message) : Bool :=
  message.status == .unknown || message.status == .idle

def Message.claimed (message : Message) : Message :=
  { message with status := .sending, retried := message.retried + 1 }

def Message.withStatus (message : Message) (status : MessageStatus) : Message :=
  { message with status := status }

def Message.withContent (message : Message) (recipient : String) (payloads : Payloads) : Message :=
  { message with recipient := recipient, payloads := payloads }

def Message.isSaved (message : Message) : Bool :=
  !(message.status == .failure || message.status == .sent || message.status == .cancelled)

def Message.asSaved (message : Message) : Message :=
  message.withStatus (if message.status = .sending then .idle else message.status)

namespace Engine

def create : Engine :=
  { messages := AssocMap.empty, file := AssocMap.empty, pending := [], inFlight := [], passed := [] }

def saved (messages : Messages) : Messages :=
  (messages.filterValues Message.isSaved).mapValues Message.asSaved

def store (engine : Engine) (messages : Messages) : Engine :=
  { engine with messages := messages, file := saved messages }

def replaceable? (engine : Engine) (recipient : String) (refreshToken : Nat) : Option Message :=
  (engine.messages.find? (recipient, refreshToken)).filter (fun message => message.status != .sent)

def newToken? (engine : Engine) (recipient : String) (draws : List (Fin idMaxVal)) : Option Nat :=
  (draws.map (fun draw => draw.val + 1)).find?
    (fun token => !engine.messages.contains (recipient, token))

/-- The result is the returned token, or nothing as long as the loop still draws. -/
def sendMessage (engine : Engine) (recipient : String) (payloads : Payloads) (refreshToken : Nat)
    (draws : List (Fin idMaxVal)) : Engine × Option Nat :=
  if payloads.isEmpty || recipient.isEmpty then (engine, some 0)
  else
    match engine.replaceable? recipient refreshToken with
    | some _ =>
      (engine.store (engine.messages.modify (recipient, refreshToken)
        (fun message => message.withContent recipient payloads)), some refreshToken)
    | none =>
      match engine.newToken? recipient draws with
      | some token =>
        (engine.store (engine.messages.emplace (recipient, token)
            { recipient := recipient, payloads := payloads }),
          some token)
      | none => (engine, none)

def claims (engine : Engine) (peer : String) : List PendingMsg :=
  engine.messages.entries.filterMap (fun entry =>
    if entry.1.1 = peer ∧ entry.2.ready = true then
      some ⟨entry.1.2, entry.2.recipient, entry.2.payloads⟩
    else none)

def retrySend (engine : Engine) (peer : String) (registered : Bool) : Engine :=
  if registered then
    { engine with
      messages := engine.messages.mapEntries (fun key message =>
        if key.1 = peer ∧ message.ready = true then message.claimed else message)
      pending := engine.pending ++ engine.claims peer }
  else engine

def passPending (engine : Engine) (index : Nat) : Engine :=
  match engine.pending[index]? with
  | none => engine
  | some msg =>
    { engine with
      pending := engine.pending.eraseIdx index
      inFlight := engine.inFlight ++ [msg]
      passed := engine.passed ++ [msg] }

def onMessageSent (engine : Engine) (peer : String) (token : Nat) (ok : Bool) : Engine :=
  match engine.messages.find? (peer, token) with
  | none => engine
  | some message =>
    if message.status = .sending then
      if ok then
        engine.store (engine.messages.modify (peer, token) (fun old => old.withStatus .sent))
      else if maxRetries ≤ message.retried then
        engine.store (engine.messages.modify (peer, token) (fun old => old.withStatus .failure))
      else
        { engine with
          messages := engine.messages.modify (peer, token) (fun old => old.withStatus .idle) }
    else engine

def reportResult (engine : Engine) (index : Nat) (ok : Bool) : Engine :=
  match engine.inFlight[index]? with
  | none => engine
  | some msg =>
    { engine with inFlight := engine.inFlight.eraseIdx index }.onMessageSent msg.recipient msg.token ok

def least : List String → Option String
  | [] => none
  | peer :: rest =>
    match least rest with
    | none => some peer
    | some other => some (if other < peer then other else peer)

def firstHolder (engine : Engine) (token : Nat) : Option String :=
  least (engine.messages.entries.filterMap (fun entry =>
    if entry.1.2 = token then some entry.1.1 else none))

def cancel (engine : Engine) (token : Nat) : Engine × Bool :=
  match engine.firstHolder token with
  | none => (engine, false)
  | some peer =>
    (engine.store (engine.messages.modify (peer, token)
      (fun message => message.withStatus .cancelled)), true)

def save (engine : Engine) : Engine :=
  { engine with file := saved engine.messages }

def load (engine : Engine) : Engine :=
  { engine with messages := engine.messages.emplaceAll engine.file.entries }

/-- The process ends and a new one starts. Only the file survives, and what the
account has been asked to send. -/
def restart (engine : Engine) : Engine :=
  { engine with messages := AssocMap.empty, pending := [], inFlight := [] }

end Engine

inductive Operation where
  | sendMessage (recipient : String) (payloads : Payloads) (refreshToken : Nat)
      (draws : List (Fin idMaxVal))
  | retrySend (peer : String) (registered : Bool)
  | passPending (index : Nat)
  | reportResult (index : Nat) (ok : Bool)
  | cancel (token : Nat)
  | save
  | load
  | restart
deriving DecidableEq, Repr

def step (engine : Engine) : Operation → Engine
  | .sendMessage recipient payloads refreshToken draws =>
    (engine.sendMessage recipient payloads refreshToken draws).1
  | .retrySend peer registered => engine.retrySend peer registered
  | .passPending index => engine.passPending index
  | .reportResult index ok => engine.reportResult index ok
  | .cancel token => (engine.cancel token).1
  | .save => engine.save
  | .load => engine.load
  | .restart => engine.restart

/-! ### What one operation can do -/

variable {message : Message} {peer : String} {key : String × Nat} {messages : Messages}

/-- Each constructor is one way an operation can go, with what was found. -/
inductive Effect (engine : Engine) : Operation → Engine → Prop where
  | nothing (operation : Operation) : Effect engine operation engine
  | replaced {recipient : String} {payloads : Payloads} {refreshToken : Nat}
      {draws : List (Fin idMaxVal)} {message : Message}
      (accepted : (payloads.isEmpty || recipient.isEmpty) = false)
      (found : engine.messages.find? (recipient, refreshToken) = some message)
      (unsent : message.status ≠ .sent) :
      Effect engine (.sendMessage recipient payloads refreshToken draws)
        (engine.store (engine.messages.modify (recipient, refreshToken)
          (fun message => message.withContent recipient payloads)))
  | added {recipient : String} {payloads : Payloads} {refreshToken token : Nat}
      {draws : List (Fin idMaxVal)}
      (accepted : (payloads.isEmpty || recipient.isEmpty) = false)
      (settled : engine.replaceable? recipient refreshToken = none)
      (drawn : engine.newToken? recipient draws = some token)
      (absent : engine.messages.find? (recipient, token) = none) (positive : 0 < token) :
      Effect engine (.sendMessage recipient payloads refreshToken draws)
        (engine.store (engine.messages.emplace (recipient, token)
          { recipient := recipient, payloads := payloads }))
  | claimed (peer : String) :
      Effect engine (.retrySend peer true) (engine.retrySend peer true)
  | passedOn {index : Nat} {msg : PendingMsg} (found : engine.pending[index]? = some msg) :
      Effect engine (.passPending index)
        { engine with
          pending := engine.pending.eraseIdx index
          inFlight := engine.inFlight ++ [msg]
          passed := engine.passed ++ [msg] }
  | reported {index : Nat} {ok : Bool} {msg : PendingMsg}
      (found : engine.inFlight[index]? = some msg) :
      Effect engine (.reportResult index ok)
        ({ engine with inFlight := engine.inFlight.eraseIdx index }.onMessageSent
          msg.recipient msg.token ok)
  | cancelled {token : Nat} {peer : String} {message : Message}
      (found : engine.messages.find? (peer, token) = some message) :
      Effect engine (.cancel token)
        (engine.store (engine.messages.modify (peer, token)
          (fun message => message.withStatus .cancelled)))
  | saved : Effect engine .save engine.save
  | loaded : Effect engine .load engine.load
  | restarted : Effect engine .restart engine.restart

namespace Engine

variable {engine : Engine}

theorem replaceable?_eq_some_iff {recipient : String} {refreshToken : Nat} :
    engine.replaceable? recipient refreshToken = some message ↔
      engine.messages.find? (recipient, refreshToken) = some message ∧ message.status ≠ .sent := by
  unfold replaceable?
  rw [Option.filter_eq_some_iff, bne_iff_ne]

theorem newToken?_spec {recipient : String} {draws : List (Fin idMaxVal)} {token : Nat}
    (drawn : engine.newToken? recipient draws = some token) :
    engine.messages.find? (recipient, token) = none ∧ 0 < token := by
  constructor
  · have unused := List.find?_some drawn
    simpa [AssocMap.contains] using unused
  · obtain ⟨draw, _, rfl⟩ := List.mem_map.mp (List.mem_of_find?_eq_some drawn)
    exact Nat.succ_pos _

theorem least_mem {peers : List String} (first : least peers = some peer) : peer ∈ peers := by
  induction peers generalizing peer with
  | nil => cases first
  | cons head rest ih =>
    unfold least at first
    cases later : least rest with
    | none =>
      rw [later] at first
      cases first
      exact List.mem_cons_self
    | some other =>
      simp only [later, Option.some.injEq] at first
      split at first
      · subst first
        exact List.mem_cons_of_mem head (ih later)
      · subst first
        exact List.mem_cons_self

private theorem firstHolder_spec {token : Nat} (first : engine.firstHolder token = some peer) :
    ∃ message, engine.messages.find? (peer, token) = some message := by
  obtain ⟨entry, member, holds⟩ := List.mem_filterMap.mp (least_mem first)
  split at holds
  · rename_i same
    cases holds
    refine ⟨entry.2, (AssocMap.mem_entries_iff _ _ _).mp ?_⟩
    rw [← same]
    exact member
  · cases holds

end Engine

theorem step_effect (engine : Engine) (operation : Operation) :
    Effect engine operation (step engine operation) := by
  cases operation with
  | sendMessage recipient payloads refreshToken draws =>
    change Effect engine _ (engine.sendMessage recipient payloads refreshToken draws).1
    unfold Engine.sendMessage
    split
    · exact .nothing _
    · rename_i notRefused
      have accepted := Bool.not_eq_true _ |>.mp notRefused
      cases old : engine.replaceable? recipient refreshToken with
      | some message =>
        obtain ⟨found, unsent⟩ := Engine.replaceable?_eq_some_iff.mp old
        exact .replaced accepted found unsent
      | none =>
        cases drawn : engine.newToken? recipient draws with
        | none => exact .nothing _
        | some token =>
          obtain ⟨absent, positive⟩ := Engine.newToken?_spec drawn
          exact .added accepted old drawn absent positive
  | retrySend peer registered =>
    cases registered with
    | true => exact .claimed peer
    | false => exact .nothing _
  | passPending index =>
    change Effect engine _ (engine.passPending index)
    unfold Engine.passPending
    cases found : engine.pending[index]? with
    | none => exact .nothing _
    | some msg => exact .passedOn found
  | reportResult index ok =>
    change Effect engine _ (engine.reportResult index ok)
    unfold Engine.reportResult
    cases found : engine.inFlight[index]? with
    | none => exact .nothing _
    | some msg => exact .reported found
  | cancel token =>
    change Effect engine _ (engine.cancel token).1
    unfold Engine.cancel
    cases holder : engine.firstHolder token with
    | none => exact .nothing _
    | some peer =>
      obtain ⟨message, found⟩ := Engine.firstHolder_spec holder
      exact .cancelled found
  | save => exact .saved
  | load => exact .loaded
  | restart => exact .restarted

theorem find?_of_modify {other : String × Nat} {change : Message → Message}
    (found : (messages.modify key change).find? other = some message) :
    ∃ old, messages.find? other = some old ∧
      message = if other = key then change old else old := by
  rw [AssocMap.find?_modify] at found
  split at found
  · rename_i same
    obtain ⟨old, stored, rfl⟩ := Option.map_eq_some_iff.mp found
    exact ⟨old, by rw [same]; exact stored, (if_pos same).symm⟩
  · rename_i different
    exact ⟨message, found, (if_neg different).symm⟩

variable {msg : PendingMsg}

theorem find?_of_added {other : String × Nat} {fresh : Message} (absent : messages.find? key = none)
    (found : (messages.emplace key fresh).find? other = some message) :
    other = key ∧ message = fresh ∨ messages.find? other = some message := by
  rw [AssocMap.find?_emplace, absent] at found
  split at found
  · rename_i same
    exact .inl ⟨same, (Option.some.inj found).symm⟩
  · exact .inr found

namespace Engine

variable {engine : Engine}

theorem find?_saved {record : Message} :
    (saved messages).find? key = some record ↔
      ∃ message, messages.find? key = some message ∧ message.isSaved = true ∧
        record = message.asSaved := by
  unfold saved
  rw [AssocMap.find?_mapValues, Option.map_eq_some_iff]
  constructor
  · rintro ⟨message, kept, same⟩
    obtain ⟨found, isSaved⟩ := (AssocMap.find?_filterValues _ _ _ _).mp kept
    exact ⟨message, found, isSaved, same.symm⟩
  · rintro ⟨message, found, isSaved, same⟩
    exact ⟨message, (AssocMap.find?_filterValues _ _ _ _).mpr ⟨found, isSaved⟩, same.symm⟩

theorem find?_retrySend (engine : Engine) (peer : String) (key : String × Nat) :
    (engine.retrySend peer true).messages.find? key =
      (engine.messages.find? key).map (fun message =>
        if key.1 = peer ∧ message.ready = true then message.claimed else message) :=
  AssocMap.find?_mapEntries engine.messages key _

theorem find?_load (engine : Engine) (key : String × Nat) :
    engine.load.messages.find? key = (engine.messages.find? key).or (engine.file.find? key) :=
  AssocMap.find?_emplaceAll engine.messages engine.file.entries key

theorem find?_of_claimed (found : (engine.retrySend peer true).messages.find? key = some message) :
    ∃ old, engine.messages.find? key = some old ∧
      message = if key.1 = peer ∧ old.ready = true then old.claimed else old := by
  rw [find?_retrySend] at found
  obtain ⟨old, stored, same⟩ := Option.map_eq_some_iff.mp found
  exact ⟨old, stored, same.symm⟩

theorem find?_of_load (found : engine.load.messages.find? key = some message) :
    engine.messages.find? key = some message ∨
      engine.messages.find? key = none ∧ engine.file.find? key = some message := by
  rw [find?_load, Option.or_eq_some_iff] at found
  exact found

theorem mem_claims_iff :
    msg ∈ engine.claims peer ↔
      ∃ message, engine.messages.find? (peer, msg.token) = some message ∧ message.ready = true ∧
        message.recipient = msg.recipient ∧ message.payloads = msg.payloads := by
  unfold claims
  rw [List.mem_filterMap]
  constructor
  · rintro ⟨⟨⟨holder, token⟩, message⟩, member, made⟩
    split at made
    · rename_i chosen
      obtain ⟨rfl, ready⟩ := chosen
      cases made
      exact ⟨message, (AssocMap.mem_entries_iff _ _ _).mp member, ready, rfl, rfl⟩
    · cases made
  · rintro ⟨message, found, ready, sameRecipient, samePayloads⟩
    refine ⟨((peer, msg.token), message), (AssocMap.mem_entries_iff _ _ _).mpr found, ?_⟩
    rw [if_pos ⟨rfl, ready⟩, sameRecipient, samePayloads]

/-- A result that was booked on the message: its status changed and nothing else. -/
structure Settled (engine next : Engine) (peer : String) (token : Nat) (message : Message)
    (status : MessageStatus) : Prop where
  found : engine.messages.find? (peer, token) = some message
  sending : message.status = .sending
  outcome : status = .sent ∨ status = .failure ∨ status = .idle ∧ message.retried < maxRetries
  messages : next.messages =
    engine.messages.modify (peer, token) (fun old => old.withStatus status)
  file : next.file = saved next.messages ∨ next.file = engine.file
  others : next.pending = engine.pending ∧ next.inFlight = engine.inFlight ∧
    next.passed = engine.passed

theorem onMessageSent_cases (engine : Engine) (peer : String) (token : Nat) (ok : Bool) :
    engine.onMessageSent peer token ok = engine ∨
      ∃ message status,
        Settled engine (engine.onMessageSent peer token ok) peer token message status := by
  unfold onMessageSent
  cases found : engine.messages.find? (peer, token) with
  | none => exact .inl rfl
  | some message =>
    by_cases sending : message.status = .sending
    · right
      simp only [if_pos sending]
      cases ok with
      | true =>
        exact ⟨message, .sent, found, sending, .inl rfl, rfl, .inl rfl, rfl, rfl, rfl⟩
      | false =>
        by_cases exhausted : maxRetries ≤ message.retried
        · simp only [if_pos exhausted]
          exact ⟨message, .failure, found, sending, .inr (.inl rfl), rfl, .inl rfl,
            rfl, rfl, rfl⟩
        · simp only [if_neg exhausted]
          exact ⟨message, .idle, found, sending,
            .inr (.inr ⟨rfl, Nat.lt_of_not_le exhausted⟩), rfl, .inr rfl, rfl, rfl, rfl⟩
    · left
      simp only [if_neg sending]

end Engine

/-- No message is ever `displayed`, and in the file all messages can be sent. -/
structure Statuses (engine : Engine) : Prop where
  memory : ∀ key message, engine.messages.find? key = some message → message.status ≠ .displayed
  file : ∀ key message, engine.file.find? key = some message → message.ready = true

theorem statuses_saved
    (memory : ∀ key message, messages.find? key = some message → message.status ≠ .displayed)
    (key : String × Nat) (record : Message)
    (found : (Engine.saved messages).find? key = some record) : record.ready = true := by
  obtain ⟨message, stored, kept, rfl⟩ := Engine.find?_saved.mp found
  have shown := memory key message stored
  revert kept shown
  unfold Message.isSaved Message.asSaved Message.ready Message.withStatus
  dsimp only
  cases message.status <;> decide

private theorem statuses_store {engine : Engine}
    (memory : ∀ key message, messages.find? key = some message → message.status ≠ .displayed) :
    Statuses (engine.store messages) :=
  ⟨memory, statuses_saved memory⟩

theorem memory_modify {engine : Engine} (statuses : Statuses engine) (key : String × Nat)
    {change : Message → Message}
    (kept : ∀ message, message.status ≠ .displayed → (change message).status ≠ .displayed)
    (other : String × Nat) (message : Message)
    (found : (engine.messages.modify key change).find? other = some message) :
    message.status ≠ .displayed := by
  obtain ⟨old, stored, rfl⟩ := find?_of_modify found
  have shown := statuses.memory other old stored
  split
  · exact kept old shown
  · exact shown

theorem statuses_onMessageSent {engine : Engine} (statuses : Statuses engine) (peer : String)
    (token : Nat) (ok : Bool) : Statuses (engine.onMessageSent peer token ok) := by
  rcases engine.onMessageSent_cases peer token ok with same | ⟨message, status, settled⟩
  · rw [same]
    exact statuses
  · have shown : status ≠ .displayed := by
      rcases settled.outcome with rfl | rfl | ⟨rfl, _⟩ <;> decide
    have memory : ∀ key message,
        (engine.onMessageSent peer token ok).messages.find? key = some message →
          message.status ≠ .displayed := by
      rw [settled.messages]
      exact memory_modify statuses _ (fun _ _ => shown)
    constructor
    · exact memory
    · rcases settled.file with written | kept
      · rw [written]
        exact statuses_saved memory
      · rw [kept]
        exact statuses.file

theorem statuses_step (engine : Engine) (operation : Operation) (statuses : Statuses engine) :
    Statuses (step engine operation) := by
  have effect := step_effect engine operation
  generalize step engine operation = next at effect
  cases effect with
  | nothing => exact statuses
  | replaced accepted found unsent =>
    exact statuses_store (memory_modify statuses _ (fun _ shown => shown))
  | added accepted settled drawn absent positive =>
    apply statuses_store
    intro key message found
    rcases find?_of_added absent found with ⟨_, rfl⟩ | stored
    · exact nofun
    · exact statuses.memory key message stored
  | claimed peer =>
    constructor
    · intro key message found
      obtain ⟨old, stored, rfl⟩ := Engine.find?_of_claimed found
      split
      · change MessageStatus.sending ≠ .displayed
        decide
      · exact statuses.memory key old stored
    · exact statuses.file
  | passedOn found => exact ⟨statuses.memory, statuses.file⟩
  | reported found =>
    apply statuses_onMessageSent
    exact ⟨statuses.memory, statuses.file⟩
  | cancelled found =>
    exact statuses_store (memory_modify statuses _ nofun)
  | saved => exact ⟨statuses.memory, statuses_saved statuses.memory⟩
  | loaded =>
    constructor
    · intro key message found
      rcases Engine.find?_of_load found with stored | ⟨_, stored⟩
      · exact statuses.memory key message stored
      · have ready := statuses.file key message stored
        intro shown
        unfold Message.ready at ready
        rw [shown] at ready
        cases ready
    · exact statuses.file
  | restarted => exact ⟨nofun, statuses.file⟩

theorem statuses_create : Statuses Engine.create :=
  ⟨nofun, nofun⟩

/-! ### Accepted messages -/

namespace Engine

def retrySendThrough (engine : Engine) (peer : String) : Engine :=
  (engine.claims peer).foldl (fun current _ => current.passPending engine.pending.length)
    (engine.retrySend peer true)

def passedBy (engine : Engine) (peer : String) : List PendingMsg :=
  (engine.retrySendThrough peer).passed.drop engine.passed.length

private theorem passed_foldl (earlier copies : List PendingMsg) (engine : Engine)
    (waiting : engine.pending = earlier ++ copies) :
    (copies.foldl (fun current _ => current.passPending earlier.length) engine).passed =
      engine.passed ++ copies := by
  induction copies generalizing engine with
  | nil => exact (List.append_nil _).symm
  | cons copy rest ih =>
    have here : engine.pending[earlier.length]? = some copy := by
      rw [waiting, List.getElem?_append_right (Nat.le_refl _), Nat.sub_self]
      rfl
    have removed : engine.pending.eraseIdx earlier.length = earlier ++ rest := by
      rw [waiting, List.eraseIdx_append_of_length_le (Nat.le_refl _), Nat.sub_self]
      rfl
    have next : engine.passPending earlier.length =
        { engine with
          pending := earlier ++ rest
          inFlight := engine.inFlight ++ [copy]
          passed := engine.passed ++ [copy] } := by
      unfold passPending
      rw [here, ← removed]
    rw [List.foldl_cons, next, ih _ rfl]
    exact List.append_assoc _ _ _

theorem passedBy_eq_claims (engine : Engine) (peer : String) :
    engine.passedBy peer = engine.claims peer := by
  unfold passedBy retrySendThrough
  rw [passed_foldl engine.pending (engine.claims peer) (engine.retrySend peer true) rfl]
  exact List.drop_left

end Engine

/-- The message is stored with this content, and `retrySend` passes it to the
account: at once, or after the attempt in progress has failed, retries being left. -/
structure Sendable (engine : Engine) (msg : PendingMsg) (message : Message) : Prop where
  stored : engine.messages.find? (msg.recipient, msg.token) = some message
  content : message.recipient = msg.recipient ∧ message.payloads = msg.payloads
  passed : msg ∈ engine.passedBy msg.recipient ∨
    message.status = .sending ∧ message.retried < maxRetries ∧
      msg ∈ (engine.onMessageSent msg.recipient msg.token false).passedBy msg.recipient

private theorem passedBy_of_ready {engine : Engine}
    (stored : engine.messages.find? (msg.recipient, msg.token) = some message)
    (content : message.recipient = msg.recipient ∧ message.payloads = msg.payloads)
    (ready : message.ready = true) : msg ∈ engine.passedBy msg.recipient := by
  rw [Engine.passedBy_eq_claims]
  exact Engine.mem_claims_iff.mpr ⟨message, stored, ready, content⟩

theorem sendable_iff {engine : Engine}
    (stored : engine.messages.find? (msg.recipient, msg.token) = some message)
    (content : message.recipient = msg.recipient ∧ message.payloads = msg.payloads) :
    (∃ found, Sendable engine msg found) ↔
      message.ready = true ∨ message.status = .sending ∧ message.retried < maxRetries := by
  constructor
  · rintro ⟨found, sendable⟩
    have same := Option.some.inj (stored.symm.trans sendable.stored)
    subst found
    rcases sendable.passed with atOnce | ⟨sending, left, _⟩
    · rw [Engine.passedBy_eq_claims] at atOnce
      obtain ⟨other, here, ready, _⟩ := Engine.mem_claims_iff.mp atOnce
      rw [Option.some.inj (stored.symm.trans here)]
      exact .inl ready
    · exact .inr ⟨sending, left⟩
  · rintro (ready | ⟨sending, left⟩)
    · exact ⟨message, stored, content, .inl (passedBy_of_ready stored content ready)⟩
    · have failed : (engine.onMessageSent msg.recipient msg.token false).messages.find?
          (msg.recipient, msg.token) = some (message.withStatus .idle) := by
        unfold Engine.onMessageSent
        simp only [stored, if_pos sending, if_neg (Nat.not_le.mpr left), Bool.false_eq_true,
          if_false]
        rw [AssocMap.find?_modify, if_pos rfl, stored]
        rfl
      exact ⟨message, stored, content,
        .inr ⟨sending, left, passedBy_of_ready failed content rfl⟩⟩

/-- In every reachable state: what `sendMessage` accepts can be sent, exactly if it does
not replace the content of a message that has failed, was cancelled or is in its last
attempt. -/
theorem accepted_sendable_iff (operations : List Operation) (recipient : String)
    (payloads : Payloads) (refreshToken : Nat) (draws : List (Fin idMaxVal)) (token : Nat)
    (accepted : ((Run.after step Engine.create operations).sendMessage recipient payloads
      refreshToken draws).2 = some token)
    (nonzero : token ≠ 0) :
    (∃ message, Sendable ((Run.after step Engine.create operations).sendMessage recipient payloads
      refreshToken draws).1 ⟨token, recipient, payloads⟩ message) ↔
      ∀ old, (Run.after step Engine.create operations).messages.find? (recipient, refreshToken) =
        some old → old.status ≠ .failure ∧ old.status ≠ .cancelled ∧
          (old.status = .sending → old.retried < maxRetries) := by
  have statuses : Statuses (Run.after step Engine.create operations) :=
    (Run.always_of_preserved statuses_step statuses_create operations).last
  generalize Run.after step Engine.create operations = engine at accepted statuses ⊢
  unfold Engine.sendMessage at accepted ⊢
  by_cases refused : (payloads.isEmpty || recipient.isEmpty) = true
  · rw [if_pos refused] at accepted
    exact absurd (Option.some.inj accepted).symm nonzero
  · rw [if_neg refused] at accepted ⊢
    cases replaced : engine.replaceable? recipient refreshToken with
    | some old =>
      obtain ⟨found, unsent⟩ := Engine.replaceable?_eq_some_iff.mp replaced
      simp only [replaced, Option.some.injEq] at accepted
      subst token
      have shown := statuses.memory _ old found
      have after : (engine.messages.modify (recipient, refreshToken)
          (fun message => message.withContent recipient payloads)).find?
          (recipient, refreshToken) = some (old.withContent recipient payloads) := by
        rw [AssocMap.find?_modify, if_pos rfl, found]
        rfl
      rw [sendable_iff after ⟨rfl, rfl⟩, found]
      have status : (old.withContent recipient payloads).status = old.status := rfl
      have retried : (old.withContent recipient payloads).retried = old.retried := rfl
      unfold Message.ready
      rw [status, retried]
      simp only [Option.some.injEq, forall_eq']
      revert unsent shown
      cases old.status <;> simp
    | none =>
      cases drawn : engine.newToken? recipient draws with
      | none =>
        simp only [replaced, drawn] at accepted
        cases accepted
      | some fresh =>
        simp only [replaced, drawn, Option.some.injEq] at accepted
        subst token
        obtain ⟨absent, _⟩ := Engine.newToken?_spec drawn
        have after : (engine.messages.emplace (recipient, fresh)
            { recipient := recipient, payloads := payloads }).find? (recipient, fresh) =
            some { recipient := recipient, payloads := payloads } := by
          rw [AssocMap.find?_emplace, if_pos rfl, absent]
          rfl
        rw [sendable_iff after ⟨rfl, rfl⟩]
        constructor
        · intro _ old found
          have sent : old.status = .sent := by
            by_contra unsent
            have some_old := Engine.replaceable?_eq_some_iff.mpr ⟨found, unsent⟩
            rw [replaced] at some_old
            cases some_old
          rw [sent]
          simp
        · intro _
          exact .inl rfl

/-- The first message of a new engine. -/
theorem accepted_sendable_first :
    (Engine.create.sendMessage "bob" [("text/plain", "hi")] 0 [0]).2 = some 1 ∧
      ∃ message, Sendable (Engine.create.sendMessage "bob" [("text/plain", "hi")] 0 [0]).1
        ⟨1, "bob", [("text/plain", "hi")]⟩ message :=
  ⟨by decide, (accepted_sendable_iff [] "bob" [("text/plain", "hi")] 0 [0] 1 (by decide)
    (by decide)).mpr nofun⟩

/-- New content for a cancelled message is accepted and stays cancelled. -/
theorem cancelled_replacement_not_sendable :
    ((Run.after step Engine.create
        [.sendMessage "bob" [("text/plain", "hi")] 0 [0], .cancel 1]).sendMessage "bob"
          [("text/plain", "ho")] 1 []).2 = some 1 ∧
      ¬ ∃ message, Sendable ((Run.after step Engine.create
        [.sendMessage "bob" [("text/plain", "hi")] 0 [0], .cancel 1]).sendMessage "bob"
          [("text/plain", "ho")] 1 []).1 ⟨1, "bob", [("text/plain", "ho")]⟩ message := by
  constructor
  · decide
  · have stored : ((Run.after step Engine.create
        [.sendMessage "bob" [("text/plain", "hi")] 0 [0], .cancel 1]).sendMessage "bob"
          [("text/plain", "ho")] 1 []).1.messages.find? ("bob", 1) =
        some ⟨"bob", [("text/plain", "ho")], .cancelled, 0⟩ := by decide
    rw [sendable_iff stored ⟨rfl, rfl⟩]
    decide

end SipCore.Im
