/-
The transport of an account. Switching takes the account's listener off the old
transport and puts it on the new one; when the contact address cannot be worked out
there, the old transport comes back, and where that fails too the account is left
without one. Accounts and calls share the transports and are told apart by their
addresses; calls come and go as listeners meanwhile.
-/

import SipCore.Library.AssocMap
import SipCore.Library.GuardedRun
import Mathlib.Logic.Function.Basic

namespace SipCore.AccountTransport

inductive Listener (σ κ : Type) where
  | account (id : σ)
  | call (id : κ)
  deriving DecidableEq, Repr

/-- The listeners of each transport; a callback is known by the object it holds. -/
abbrev StateListeners (τ σ κ : Type) : Type := τ → AssocMap (Listener σ κ) (Listener σ κ)

namespace StateListeners

variable {τ σ κ : Type} [DecidableEq τ] [DecidableEq σ] [DecidableEq κ]

def addStateListener (listeners : StateListeners τ σ κ) (transport : τ) (lid cb : Listener σ κ) :
    StateListeners τ σ κ :=
  Function.update listeners transport ((listeners transport).assign lid cb)

def removeStateListener (listeners : StateListeners τ σ κ) (transport : τ) (lid : Listener σ κ) :
    Bool × StateListeners τ σ κ :=
  if (listeners transport).contains lid then
    (true, Function.update listeners transport ((listeners transport).erase lid))
  else (false, listeners)

end StateListeners

/-- What the platform answers while a transport is attached: the contact address that
comes out, if a valid one does, whether the registration client takes the transport,
and the local address and port, unless one of them is missing. -/
structure AttachOutcome (α β : Type) where
  contact : Option α
  rebound : Bool
  binding : Option β
  deriving DecidableEq, Repr

/-- `regc` is the registration client with the transport it is bound to. -/
structure SIPAccount (τ α β : Type) where
  transport : Option τ := none
  viaTp : Option τ := none
  regc : Option (Option τ) := none
  contactAddress : Option α := none
  contactHeader : Option (α × τ) := none
  lastLocalBinding : Option β := none
  pendingTransportRebind : Bool := false
  needsResubscribe : Bool := false
  needsRepublish : Bool := false
  deriving DecidableEq, Repr

namespace SIPAccount

variable {τ σ κ α β : Type} [DecidableEq τ] [DecidableEq σ] [DecidableEq κ] [DecidableEq β]

def resetViaTransport (account : SIPAccount τ α β) : SIPAccount τ α β :=
  { account with viaTp := none }

def initContactAddress (account : SIPAccount τ α β) (contact : Option α) :
    Bool × SIPAccount τ α β :=
  match account.transport with
  | none => (false, account)
  | some _ => (contact.isSome, { account with contactAddress := contact })

def updateContactHeader (account : SIPAccount τ α β) : SIPAccount τ α β :=
  match account.transport, account.contactAddress with
  | some transport, some address => { account with contactHeader := some (address, transport) }
  | _, _ => account

def rebindRegistration (account : SIPAccount τ α β) (rebound : Bool) : SIPAccount τ α β :=
  match account.regc with
  | some _ => if rebound then { account with regc := some account.transport } else account
  | none => account

def markTransportRebindRequired (account : SIPAccount τ α β) : SIPAccount τ α β :=
  { account with
    pendingTransportRebind := true
    needsResubscribe := true
    needsRepublish := true }

def updateLocalBindingSnapshot (account : SIPAccount τ α β) : Option β → SIPAccount τ α β
  | none => account
  | some binding =>
    if account.lastLocalBinding.isSome && account.lastLocalBinding ≠ some binding then
      { account with lastLocalBinding := some binding }.markTransportRebindRequired
    else { account with lastLocalBinding := some binding }

def releaseRegistration (account : SIPAccount τ α β) : SIPAccount τ α β :=
  { account with regc := account.regc.map (fun _ => none) }

structure Attached (τ σ κ α β : Type) where
  account : SIPAccount τ α β
  listeners : StateListeners τ σ κ

def attachTransport (self : σ) (outcome : AttachOutcome α β) (state : Attached τ σ κ α β) :
    Option τ → Bool × Attached τ σ κ α β
  | none => (true, state)
  | some transport =>
    match state.account.initContactAddress outcome.contact with
    | (false, account) =>
      (false, ⟨account, (StateListeners.removeStateListener
        (state.listeners.addStateListener transport (.account self) (.account self))
        transport (.account self)).2⟩)
    | (true, account) =>
      (true, ⟨(account.updateContactHeader.rebindRegistration
          outcome.rebound).updateLocalBindingSnapshot outcome.binding,
        state.listeners.addStateListener transport (.account self) (.account self)⟩)

def detachTransport (self : σ) (state : Attached τ σ κ α β) : Attached τ σ κ α β :=
  match state.account.transport with
  | none => state
  | some previous =>
    ⟨state.account.releaseRegistration,
      (StateListeners.removeStateListener state.listeners previous (.account self)).2⟩

def withTransport (state : Attached τ σ κ α β) (transport : Option τ) : Attached τ σ κ α β :=
  { state with account := { state.account with transport := transport }.resetViaTransport }

def restoreTransport (self : σ) (previous : Option τ) (outcome : AttachOutcome α β)
    (failed : Attached τ σ κ α β) : Attached τ σ κ α β :=
  match attachTransport self outcome (withTransport failed previous) previous with
  | (true, restored) => restored
  | (false, stranded) => withTransport stranded none

/-- `first` is what the platform answers for the new transport, `second` for the old one. -/
def setTransport (self : σ) (t : Option τ) (first second : AttachOutcome α β)
    (state : Attached τ σ κ α β) : Bool × Attached τ σ κ α β :=
  if t = state.account.transport then (true, state)
  else
    match attachTransport self first (withTransport (detachTransport self state) t) t with
    | (true, attached) => (true, attached)
    | (false, failed) => (false, restoreTransport self state.account.transport second failed)

end SIPAccount

structure TransportUsers (τ σ κ α β : Type) where
  accounts : σ → SIPAccount τ α β
  listeners : StateListeners τ σ κ

namespace TransportUsers

variable {τ σ κ α β : Type} [DecidableEq τ] [DecidableEq σ] [DecidableEq κ] [DecidableEq β]

def start : TransportUsers τ σ κ α β := ⟨fun _ => {}, fun _ => .empty⟩

/-- Besides the switches: registration clients are made and destroyed, the address seen
by the registrar fixes a transport, and calls begin and cease to listen. -/
inductive Event (τ σ κ α β : Type) where
  | setTransport (account : σ) (t : Option τ) (first second : AttachOutcome α β)
  | sendRegister (account : σ)
  | destroyRegistrationInfo (account : σ)
  | checkNATAddress (account : σ) (transport : τ)
  | callListens (call : κ) (transport : τ)
  | callLeaves (call : κ) (transport : τ)

def setTransport (users : TransportUsers τ σ κ α β) (account : σ) (t : Option τ)
    (first second : AttachOutcome α β) : Bool × TransportUsers τ σ κ α β :=
  match SIPAccount.setTransport account t first second
      ⟨users.accounts account, users.listeners⟩ with
  | (result, after) =>
    (result, ⟨Function.update users.accounts account after.account, after.listeners⟩)

def withAccount (users : TransportUsers τ σ κ α β) (account : σ)
    (change : SIPAccount τ α β → SIPAccount τ α β) : TransportUsers τ σ κ α β :=
  { users with
    accounts := Function.update users.accounts account (change (users.accounts account)) }

def step (users : TransportUsers τ σ κ α β) : Event τ σ κ α β → TransportUsers τ σ κ α β
  | .setTransport account t first second => (users.setTransport account t first second).2
  | .sendRegister account =>
    users.withAccount account (fun state => { state with regc := some state.transport })
  | .destroyRegistrationInfo account =>
    users.withAccount account (fun state => { state with regc := none })
  | .checkNATAddress account transport =>
    users.withAccount account (fun state => { state with viaTp := some transport })
  | .callListens call transport =>
    { users with
      listeners := users.listeners.addStateListener transport (.call call) (.call call) }
  | .callLeaves call transport =>
    { users with
      listeners := (StateListeners.removeStateListener users.listeners transport (.call call)).2 }

end TransportUsers

namespace StateListeners

variable {τ σ κ : Type} [DecidableEq σ] [DecidableEq κ]
  {listeners : StateListeners τ σ κ} {lid : Listener σ κ}

def SameOthers (before after : StateListeners τ σ κ) (lid : Listener σ κ) : Prop :=
  ∀ other id, id ≠ lid → (after other).find? id = (before other).find? id

theorem SameOthers.refl : SameOthers listeners listeners lid := fun _ _ _ => rfl

theorem SameOthers.trans {middle last : StateListeners τ σ κ} (first : SameOthers listeners middle lid)
    (second : SameOthers middle last lid) : SameOthers listeners last lid := by
  intro other id different
  rw [second other id different, first other id different]

variable [DecidableEq τ]

theorem find?_addStateListener (transport other : τ) (lid cb id : Listener σ κ) :
    (addStateListener listeners transport lid cb other).find? id =
      if other = transport ∧ id = lid then some cb else (listeners other).find? id := by
  unfold addStateListener
  by_cases same : other = transport
  · subst other
    rw [Function.update_self, AssocMap.find?_assign]
    simp only [true_and]
  · rw [Function.update_of_ne same, if_neg (fun both => same both.1)]

theorem find?_removeStateListener (transport other : τ) (lid id : Listener σ κ) :
    ((removeStateListener listeners transport lid).2 other).find? id =
      if other = transport ∧ id = lid then none else (listeners other).find? id := by
  unfold removeStateListener
  split
  · dsimp only
    by_cases same : other = transport
    · subst other
      rw [Function.update_self, AssocMap.find?_erase]
      simp only [true_and]
    · rw [Function.update_of_ne same, if_neg (fun both => same both.1)]
  · rename_i absent
    split
    · rename_i both
      rw [both.1, both.2]
      exact Option.not_isSome_iff_eq_none.mp absent
    · rfl

def ListensOn (listeners : StateListeners τ σ κ) (lid : Listener σ κ) (transport : Option τ) :
    Prop :=
  ∀ other, (listeners other).find? lid = if transport = some other then some lid else none

theorem SameOthers.add (transport : τ) (cb : Listener σ κ) :
    SameOthers listeners (addStateListener listeners transport lid cb) lid := by
  intro other id different
  rw [find?_addStateListener, if_neg (fun both => different both.2)]

theorem SameOthers.remove (transport : τ) :
    SameOthers listeners (removeStateListener listeners transport lid).2 lid := by
  intro other id different
  rw [find?_removeStateListener, if_neg (fun both => different both.2)]

theorem ListensOn.of_sameOthers {after : StateListeners τ σ κ} {id : Listener σ κ}
    {transport : Option τ} (listens : ListensOn listeners id transport)
    (same : SameOthers listeners after lid) (different : id ≠ lid) :
    ListensOn after id transport := by
  intro other
  rw [same other id different]
  exact listens other

theorem ListensOn.add (listens : ListensOn listeners lid none) (transport : τ) :
    ListensOn (addStateListener listeners transport lid lid) lid (some transport) := by
  intro other
  rw [find?_addStateListener, listens other]
  simp [eq_comm]

theorem ListensOn.remove {transport : τ} (listens : ListensOn listeners lid (some transport)) :
    ListensOn (removeStateListener listeners transport lid).2 lid none := by
  intro other
  rw [find?_removeStateListener, listens other]
  split
  · rfl
  · rename_i different
    apply if_neg
    intro same
    exact different ⟨(Option.some.inj same).symm, rfl⟩

end StateListeners

namespace SIPAccount

open StateListeners

variable {τ σ κ α β : Type}

private theorem initContactAddress_transport (account : SIPAccount τ α β) (contact : Option α) :
    (account.initContactAddress contact).2.transport = account.transport := by
  unfold initContactAddress
  split <;> rfl

private theorem updateContactHeader_transport (account : SIPAccount τ α β) :
    account.updateContactHeader.transport = account.transport := by
  unfold updateContactHeader
  split <;> rfl

private theorem rebindRegistration_transport (account : SIPAccount τ α β) (rebound : Bool) :
    (account.rebindRegistration rebound).transport = account.transport := by
  unfold rebindRegistration
  split
  · split <;> rfl
  · rfl

private theorem updateLocalBindingSnapshot_transport [DecidableEq β] (account : SIPAccount τ α β)
    (binding : Option β) :
    (account.updateLocalBindingSnapshot binding).transport = account.transport := by
  unfold updateLocalBindingSnapshot
  split
  · rfl
  · split <;> rfl

variable [DecidableEq τ] [DecidableEq σ] [DecidableEq κ]

/-- Attaching keeps the transport, and the account listens on it or, after a failure,
nowhere. -/
structure Attaches (owner : σ) (before : Attached τ σ κ α β) (transport : Option τ)
    (result : Bool × Attached τ σ κ α β) : Prop where
  kept : result.2.account.transport = before.account.transport
  listens : ListensOn result.2.listeners (.account owner) (if result.1 then transport else none)
  others : SameOthers before.listeners result.2.listeners (.account owner)

private theorem detachTransport_listens (self : σ) {state : Attached τ σ κ α β}
    (listens : ListensOn state.listeners (.account self) state.account.transport) :
    ListensOn (detachTransport self state).listeners (.account self) none ∧
      SameOthers state.listeners (detachTransport self state).listeners (.account self) := by
  unfold detachTransport
  split
  · rename_i bare
    rw [bare] at listens
    exact ⟨listens, .refl⟩
  · rename_i previous held
    rw [held] at listens
    exact ⟨listens.remove, .remove previous⟩

variable [DecidableEq β]

theorem attachTransport_attaches (self : σ) (outcome : AttachOutcome α β)
    (state : Attached τ σ κ α β) (clear : ListensOn state.listeners (.account self) none)
    (transport : Option τ) :
    Attaches self state transport (attachTransport self outcome state transport) := by
  cases transport with
  | none => exact ⟨rfl, clear, .refl⟩
  | some transport =>
    have kept := initContactAddress_transport state.account outcome.contact
    unfold attachTransport
    cases outcome : state.account.initContactAddress outcome.contact with
    | mk valid account =>
      rw [outcome] at kept
      cases valid with
      | false => exact ⟨kept, (clear.add transport).remove, (SameOthers.add _ _).trans (.remove _)⟩
      | true =>
        refine ⟨?_, clear.add transport, .add _ _⟩
        rw [updateLocalBindingSnapshot_transport, rebindRegistration_transport,
          updateContactHeader_transport]
        exact kept

theorem restoreTransport_listens (self : σ) (previous : Option τ) (outcome : AttachOutcome α β)
    (failed : Attached τ σ κ α β) (clear : ListensOn failed.listeners (.account self) none) :
    let restored := restoreTransport self previous outcome failed
    ListensOn restored.listeners (.account self) restored.account.transport ∧
      SameOthers failed.listeners restored.listeners (.account self) ∧
      (restored.account.transport = previous ∨ restored.account.transport = none) := by
  have attaching := attachTransport_attaches self outcome (withTransport failed previous) clear
    previous
  unfold restoreTransport
  generalize attachTransport self outcome (withTransport failed previous) previous = result
    at attaching ⊢
  obtain ⟨_ | _, restored⟩ := result
  · exact ⟨attaching.listens, attaching.others, .inr rfl⟩
  · have kept : restored.account.transport = previous := attaching.kept
    refine ⟨?_, attaching.others, .inl kept⟩
    rw [kept]
    exact attaching.listens

structure Switches (owner : σ) (t : Option τ) (before : Attached τ σ κ α β)
    (result : Bool × Attached τ σ κ α β) : Prop where
  listens : ListensOn result.2.listeners (.account owner) result.2.account.transport
  others : SameOthers before.listeners result.2.listeners (.account owner)
  done : result.1 = true → result.2.account.transport = t
  failed : result.1 = false →
    result.2.account.transport = before.account.transport ∨ result.2.account.transport = none

theorem setTransport_switches (self : σ) (t : Option τ) (first second : AttachOutcome α β)
    {state : Attached τ σ κ α β}
    (listens : ListensOn state.listeners (.account self) state.account.transport) :
    Switches self t state (setTransport self t first second state) := by
  unfold setTransport
  by_cases same : t = state.account.transport
  · rw [if_pos same]
    exact ⟨listens, .refl, fun _ => same.symm, fun impossible => Bool.noConfusion impossible⟩
  · rw [if_neg same]
    obtain ⟨clear, released⟩ := detachTransport_listens self listens
    have attaching := attachTransport_attaches self first
      (withTransport (detachTransport self state) t) clear t
    generalize attachTransport self first (withTransport (detachTransport self state) t) t = result
      at attaching ⊢
    obtain ⟨_ | _, attached⟩ := result
    · obtain ⟨restored, others, either⟩ := restoreTransport_listens self state.account.transport
        second attached attaching.listens
      exact ⟨restored, (released.trans attaching.others).trans others,
        fun impossible => Bool.noConfusion impossible, fun _ => either⟩
    · have kept : attached.account.transport = t := attaching.kept
      refine ⟨?_, released.trans attaching.others, fun _ => kept,
        fun impossible => Bool.noConfusion impossible⟩
      rw [kept]
      exact attaching.listens

end SIPAccount

/-! ### Every run -/

namespace TransportUsers

open StateListeners

variable {τ σ κ α β : Type} [DecidableEq τ] [DecidableEq σ] [DecidableEq κ]

def Listening (users : TransportUsers τ σ κ α β) : Prop :=
  ∀ account, ListensOn users.listeners (.account account) (users.accounts account).transport

private theorem listening_start : Listening (start : TransportUsers τ σ κ α β) := by
  intro account other
  rfl

theorem Listening.withAccount {users : TransportUsers τ σ κ α β} (listening : Listening users)
    (account : σ) {change : SIPAccount τ α β → SIPAccount τ α β}
    (kept : ∀ state, (change state).transport = state.transport) :
    Listening (users.withAccount account change) := by
  intro other
  unfold TransportUsers.withAccount
  by_cases same : other = account
  · subst other
    dsimp only
    rw [Function.update_self, kept]
    exact listening account
  · dsimp only
    rw [Function.update_of_ne same]
    exact listening other

variable [DecidableEq β]

theorem Listening.setTransport {users : TransportUsers τ σ κ α β} (listening : Listening users)
    (account : σ) (t : Option τ) (first second : AttachOutcome α β) :
    Listening (users.setTransport account t first second).2 := by
  have switches : SIPAccount.Switches account t ⟨users.accounts account, users.listeners⟩ _ :=
    SIPAccount.setTransport_switches account t first second (listening account)
  intro other
  unfold TransportUsers.setTransport
  by_cases same : other = account
  · subst other
    dsimp only
    rw [Function.update_self]
    exact switches.listens
  · dsimp only
    rw [Function.update_of_ne same]
    exact (listening other).of_sameOthers switches.others
      (fun equal => same (Listener.account.inj equal))

private theorem step_listening (users : TransportUsers τ σ κ α β) (event : Event τ σ κ α β)
    (listening : Listening users) : Listening (step users event) := by
  cases event with
  | setTransport account t first second => exact listening.setTransport account t first second
  | sendRegister account => exact listening.withAccount account (fun _ => rfl)
  | destroyRegistrationInfo account => exact listening.withAccount account (fun _ => rfl)
  | checkNATAddress account transport => exact listening.withAccount account (fun _ => rfl)
  | callListens call transport =>
    intro account
    exact (listening account).of_sameOthers (.add transport _) nofun
  | callLeaves call transport =>
    intro account
    exact (listening account).of_sameOthers (.remove transport) nofun

def EndsAsSaid (before : TransportUsers τ σ κ α β) (account : σ) (t : Option τ)
    (result : Bool × TransportUsers τ σ κ α β) : Prop :=
  (result.1 = true → (result.2.accounts account).transport = t) ∧
    (result.1 = false →
      (result.2.accounts account).transport = (before.accounts account).transport ∨
        (result.2.accounts account).transport = none)

theorem Listening.endsAsSaid {users : TransportUsers τ σ κ α β} (listening : Listening users)
    (account : σ) (t : Option τ) (first second : AttachOutcome α β) :
    EndsAsSaid users account t (users.setTransport account t first second) := by
  have switches : SIPAccount.Switches account t ⟨users.accounts account, users.listeners⟩ _ :=
    SIPAccount.setTransport_switches account t first second (listening account)
  have ended : (users.setTransport account t first second).2.accounts account =
      (SIPAccount.setTransport account t first second
        ⟨users.accounts account, users.listeners⟩).2.account := Function.update_self ..
  unfold EndsAsSaid
  rw [ended]
  exact ⟨switches.done, switches.failed⟩

/-- Whatever the switches so far came to, each account listens on its transport and on no
other, and a further switch ends as it says. -/
theorem account_listens_on_its_transport (events : List (Event τ σ κ α β)) :
    (∀ account transport,
      ((Run.after step start events).listeners transport).contains (.account account) = true ↔
        ((Run.after step start events).accounts account).transport = some transport) ∧
      ∀ account t first second, EndsAsSaid (Run.after step start events) account t
        ((Run.after step start events).setTransport account t first second) := by
  have always : Run.Always step Listening start events :=
    Run.always_of_preserved step_listening listening_start events
  have listening := always.last
  constructor
  · intro account transport
    unfold AssocMap.contains
    rw [listening account transport]
    split <;> simp_all
  · intro account t first second
    exact listening.endsAsSaid account t first second

end TransportUsers
end SipCore.AccountTransport
