/-
The broker of the SIP transports. It caches a transport for each address, UDP and TCP
apart, and for each cache an index from the handle of the network library back to the
address. A getter has two sections under the lock and makes the transport between them.
A section is one step; the getters under way are part of the state.
-/

import SipCore.Library.GuardedRun
import SipCore.Library.ReverseIndex
import Mathlib.Logic.Function.Basic

namespace SipCore.TransportBroker

inductive TransportState where
  | connected
  | disconnected
  | shutdown
  | destroy
  deriving DecidableEq, Repr

def isAlive (state : TransportState) : Bool :=
  state ≠ .disconnected && state ≠ .shutdown && state ≠ .destroy

structure Cache (κ ω η : Type) where
  transports : AssocMap κ ω := .empty
  index : AssocMap η κ := .empty

namespace Cache

variable {κ ω η : Type} [DecidableEq κ] [DecidableEq η]

def insert (cache : Cache κ ω η) (key : κ) (transport : ω) (handle : Option η) : Cache κ ω η :=
  { transports := cache.transports.assign key transport
    index := match handle with
      | some h => cache.index.assign h key
      | none => cache.index }

/-- The transport whose listeners hear of the change, and what is left of the cache. -/
def stateChanged (cache : Cache κ ω η) (handle : η) (state : TransportState) :
    Option ω × Cache κ ω η :=
  match cache.index.find? handle with
  | none => (none, cache)
  | some key =>
    if isAlive state then
      match cache.transports.find? key with
      | some transport => (some transport, cache)
      | none => (none, { cache with index := cache.index.erase handle })
    else
      (cache.transports.find? key, ⟨cache.transports.erase key, cache.index.erase handle⟩)

/-- A transport without a factory goes, with whatever the index says of its address. -/
def dropStale (cache : Cache κ ω η) (key : κ) : Cache κ ω η :=
  ⟨cache.transports.erase key, cache.index.filterValues (fun other => other ≠ key)⟩

end Cache

inductive Protocol where
  | udp
  | tcp
  deriving DecidableEq, Repr

/-- What a getter does next; before the last section it holds what it made. -/
inductive Phase (ω : Type) where
  | lookup
  | create
  | insert (ret : ω)
  deriving DecidableEq, Repr

structure Getter (κ ω : Type) where
  protocol : Protocol
  key : κ
  phase : Phase ω
  deriving DecidableEq, Repr

/-- `get` and `getFactory` are the handles of the UDP and TCP transports, as they are at
the moment. `closing` are the TCP transports taken out of the cache that are still to be
shut down. -/
structure Broker (κ ω υ φ γ : Type) where
  udp : Cache κ ω υ := {}
  tcp : Cache κ ω φ := {}
  get : ω → Option υ := fun _ => none
  getFactory : ω → Option φ := fun _ => none
  isDestroying : Bool := false
  getters : AssocMap γ (Getter κ ω) := .empty
  closing : List ω := []

/-- The transport a change of state is about, as the network library tells it. -/
inductive Changed (υ φ : Type) where
  | udp (tp : υ)
  | tcp (factory : Option φ)
  | other
  deriving DecidableEq, Repr

/-- The creating events carry what comes of it: an object and its handle, if any. -/
inductive Event (κ ω υ φ γ : Type) where
  | getTransport (getter : γ) (protocol : Protocol) (key : κ)
  | lookup (getter : γ)
  | createUdpTransport (getter : γ) (created : Option (ω × Option υ))
  | createTcpTransport (getter : γ) (created : Option (ω × Option φ))
  | insert (getter : γ)
  | transportStateChanged (tp : Changed υ φ) (state : TransportState)
  | resetForConnectivityChange
  | shutdown
  | shutdownTransport (transport : ω)

namespace Broker

variable {κ ω υ φ γ : Type} [DecidableEq κ] [DecidableEq ω] [DecidableEq υ] [DecidableEq φ]
  [DecidableEq γ]

/-- How the first section ends: with the pointer returned, or by going on to create. -/
inductive Lookup (ω : Type) where
  | returned (transport : Option ω)
  | goesOn
  deriving DecidableEq, Repr

def lookupUdp (broker : Broker κ ω υ φ γ) (key : κ) : Lookup ω × Broker κ ω υ φ γ :=
  if broker.isDestroying then (.returned none, broker)
  else
    match broker.udp.transports.find? key with
    | some transport => (.returned (some transport), broker)
    | none => (.goesOn, broker)

def lookupTcp (broker : Broker κ ω υ φ γ) (key : κ) : Lookup ω × Broker κ ω υ φ γ :=
  if broker.isDestroying then (.returned none, broker)
  else
    match broker.tcp.transports.find? key with
    | some transport =>
      if (broker.getFactory transport).isSome then (.returned (some transport), broker)
      else (.goesOn, { broker with tcp := broker.tcp.dropStale key })
    | none => (.goesOn, broker)

def insertUdp (broker : Broker κ ω υ φ γ) (key : κ) (ret : ω) : Option ω × Broker κ ω υ φ γ :=
  if broker.isDestroying then (none, broker)
  else
    match broker.udp.transports.find? key with
    | some transport => (some transport, broker)
    | none => (some ret, { broker with udp := broker.udp.insert key ret (broker.get ret) })

def insertTcp (broker : Broker κ ω υ φ γ) (key : κ) (ret : ω) : Option ω × Broker κ ω υ φ γ :=
  if broker.isDestroying then (none, broker)
  else
    match (broker.tcp.transports.find? key).filter
        (fun transport => (broker.getFactory transport).isSome) with
    | some transport => (some transport, broker)
    | none => (some ret, { broker with tcp := broker.tcp.insert key ret (broker.getFactory ret) })

def transportStateChanged (broker : Broker κ ω υ φ γ) (tp : Changed υ φ)
    (state : TransportState) : Broker κ ω υ φ γ :=
  match tp with
  | .udp tp => { broker with udp := (broker.udp.stateChanged tp state).2 }
  | .tcp none => broker
  | .tcp (some factory) => { broker with tcp := (broker.tcp.stateChanged factory state).2 }
  | .other => broker

def clear (broker : Broker κ ω υ φ γ) : Broker κ ω υ φ γ :=
  { broker with
    udp := {}
    tcp := {}
    closing := broker.closing ++ broker.tcp.transports.values }

def resetForConnectivityChange (broker : Broker κ ω υ φ γ) : Broker κ ω υ φ γ :=
  if broker.isDestroying then broker else broker.clear

def shutdown (broker : Broker κ ω υ φ γ) : Broker κ ω υ φ γ :=
  if broker.isDestroying then broker else { broker.clear with isDestroying := true }

def shutdownTransport (broker : Broker κ ω υ φ γ) (transport : ω) : Broker κ ω υ φ γ :=
  if transport ∈ broker.closing then
    { broker with
      getFactory := Function.update broker.getFactory transport none
      closing := broker.closing.erase transport }
  else broker

def ended (broker : Broker κ ω υ φ γ) (getter : γ) : Broker κ ω υ φ γ :=
  { broker with getters := broker.getters.erase getter }

def comesTo (broker : Broker κ ω υ φ γ) (getter : γ) (state : Getter κ ω) : Broker κ ω υ φ γ :=
  { broker with getters := broker.getters.assign getter state }

def looked (getter : γ) (protocol : Protocol) (key : κ) :
    Lookup ω × Broker κ ω υ φ γ → Option ω × Broker κ ω υ φ γ
  | (.returned transport, broker) => (transport, broker.ended getter)
  | (.goesOn, broker) => (none, broker.comesTo getter ⟨protocol, key, .create⟩)

def runsLookup (broker : Broker κ ω υ φ γ) (getter : γ) : Option ω × Broker κ ω υ φ γ :=
  match broker.getters.find? getter with
  | some ⟨.udp, key, .lookup⟩ => looked getter .udp key (broker.lookupUdp key)
  | some ⟨.tcp, key, .lookup⟩ => looked getter .tcp key (broker.lookupTcp key)
  | _ => (none, broker)

/-- The getter returns null where no transport or one without a handle came out. -/
def createUdpTransport (broker : Broker κ ω υ φ γ) (getter : γ)
    (created : Option (ω × Option υ)) : Broker κ ω υ φ γ :=
  match broker.getters.find? getter with
  | some ⟨.udp, key, .create⟩ =>
    match created with
    | some (ret, some handle) =>
      { broker with get := Function.update broker.get ret (some handle) }.comesTo getter
        ⟨.udp, key, .insert ret⟩
    | _ => broker.ended getter
  | _ => broker

def createTcpTransport (broker : Broker κ ω υ φ γ) (getter : γ)
    (created : Option (ω × Option φ)) : Broker κ ω υ φ γ :=
  match broker.getters.find? getter with
  | some ⟨.tcp, key, .create⟩ =>
    match created with
    | some (ret, some factory) =>
      { broker with
        getFactory := Function.update broker.getFactory ret (some factory) }.comesTo getter
          ⟨.tcp, key, .insert ret⟩
    | _ => broker.ended getter
  | _ => broker

def runsInsert (broker : Broker κ ω υ φ γ) (getter : γ) : Option ω × Broker κ ω υ φ γ :=
  match broker.getters.find? getter with
  | some ⟨.udp, key, .insert ret⟩ =>
    ((broker.insertUdp key ret).1, (broker.insertUdp key ret).2.ended getter)
  | some ⟨.tcp, key, .insert ret⟩ =>
    ((broker.insertTcp key ret).1, (broker.insertTcp key ret).2.ended getter)
  | _ => (none, broker)

def getTransport (broker : Broker κ ω υ φ γ) (getter : γ) (protocol : Protocol) (key : κ) :
    Broker κ ω υ φ γ :=
  if broker.isDestroying then broker
  else { broker with getters := broker.getters.emplace getter ⟨protocol, key, .lookup⟩ }

def advance (broker : Broker κ ω υ φ γ) : Event κ ω υ φ γ → Option ω × Broker κ ω υ φ γ
  | .getTransport getter protocol key => (none, broker.getTransport getter protocol key)
  | .lookup getter => broker.runsLookup getter
  | .createUdpTransport getter created => (none, broker.createUdpTransport getter created)
  | .createTcpTransport getter created => (none, broker.createTcpTransport getter created)
  | .insert getter => broker.runsInsert getter
  | .transportStateChanged tp state => (none, broker.transportStateChanged tp state)
  | .resetForConnectivityChange => (none, broker.resetForConnectivityChange)
  | .shutdown => (none, broker.shutdown)
  | .shutdownTransport transport => (none, broker.shutdownTransport transport)

def step (broker : Broker κ ω υ φ γ) (event : Event κ ω υ φ γ) : Broker κ ω υ φ γ :=
  (broker.advance event).2

end Broker

namespace Cache

open ReverseIndex

variable {κ ω η γ : Type} [DecidableEq κ] [DecidableEq η]

/-- The handles waiting to be inserted are unknown to the index and told apart, so that
each insertion finds its handle new, in whatever order they come. -/
structure Sound (cache : Cache κ ω η) (handle : ω → Option η) (pending : γ → Option ω) :
    Prop where
  inverts : Inverts cache.transports handle cache.index
  handled : ∀ key transport, cache.transports.find? key = some transport →
    ∃ h, handle transport = some h
  awaited : ∀ getter transport, pending getter = some transport →
    ∃ h, handle transport = some h ∧ cache.index.find? h = none
  apart : ∀ getter other transport another h, pending getter = some transport →
    pending other = some another → handle transport = some h → handle another = some h →
    getter = other

variable {cache : Cache κ ω η} {handle changed : ω → Option η} {pending later : γ → Option ω}

section

variable (sound : cache.Sound handle pending)
include sound

theorem Sound.not_pending {key : κ} {transport : ω}
    (stored : cache.transports.find? key = some transport) (getter : γ) :
    pending getter ≠ some transport := by
  intro held
  obtain ⟨h, own, unknown⟩ := sound.awaited getter transport held
  exact sound.inverts.not_stored own unknown key stored

theorem Sound.fewer
    (held : ∀ getter transport, later getter = some transport → pending getter = some transport) :
    cache.Sound handle later where
  inverts := sound.inverts
  handled := sound.handled
  awaited := fun getter transport holds => sound.awaited getter transport (held _ _ holds)
  apart := fun getter other transport another h first second =>
    sound.apart getter other transport another h (held _ _ first) (held _ _ second)

theorem Sound.congr
    (stored : ∀ key transport, cache.transports.find? key = some transport →
      changed transport = handle transport)
    (waiting : ∀ getter transport, pending getter = some transport →
      changed transport = handle transport) :
    cache.Sound changed pending where
  inverts := sound.inverts.congr stored
  handled := by
    intro key transport found
    rw [stored key transport found]
    exact sound.handled key transport found
  awaited := by
    intro getter transport held
    rw [waiting getter transport held]
    exact sound.awaited getter transport held
  apart := by
    intro getter other transport another h first second own same
    rw [waiting getter transport first] at own
    rw [waiting other another second] at same
    exact sound.apart getter other transport another h first second own same

theorem Sound.cleared :
    (({} : Cache κ ω η)).Sound handle pending where
  inverts := .empty
  handled := by
    intro key transport impossible
    cases impossible
  awaited := by
    intro getter transport held
    obtain ⟨h, own, _⟩ := sound.awaited getter transport held
    exact ⟨h, own, rfl⟩
  apart := sound.apart

end

theorem stored_before {h : η} {state : TransportState} {key : κ} {transport : ω}
    (stored : (cache.stateChanged h state).2.transports.find? key = some transport) :
    cache.transports.find? key = some transport := by
  unfold Cache.stateChanged at stored
  split at stored
  · exact stored
  · split at stored
    · split at stored <;> exact stored
    · rw [AssocMap.find?_erase] at stored
      split at stored
      · cases stored
      · exact stored

theorem Sound.stateChanged (sound : cache.Sound handle pending) (h : η) (state : TransportState) :
    (cache.stateChanged h state).2.Sound handle pending := by
  cases found : cache.index.find? h with
  | none =>
    unfold Cache.stateChanged
    rw [found]
    exact sound
  | some key =>
    obtain ⟨transport, stored, own⟩ := (sound.inverts h key).mp found
    unfold Cache.stateChanged
    rw [found]
    dsimp only
    split
    · rw [stored]
      exact sound
    · constructor
      · exact sound.inverts.remove found
      · intro other kept remains
        rw [AssocMap.find?_erase] at remains
        split at remains
        · cases remains
        · exact sound.handled other kept remains
      · intro getter waiting held
        obtain ⟨other, handles, unknown⟩ := sound.awaited getter waiting held
        refine ⟨other, handles, ?_⟩
        rw [AssocMap.find?_erase]
        split
        · rfl
        · exact unknown
      · exact sound.apart

theorem Sound.insert (sound : cache.Sound handle pending) {key : κ} {transport : ω} {getter : γ}
    (free : cache.transports.find? key = none) (held : pending getter = some transport)
    (left : ∀ other another, later other = some another →
      pending other = some another ∧ other ≠ getter) :
    (cache.insert key transport (handle transport)).Sound handle later := by
  obtain ⟨h, own, unknown⟩ := sound.awaited getter transport held
  unfold Cache.insert
  rw [own]
  constructor
  · exact sound.inverts.insert free own unknown
  · exact AssocMap.forall_assign ⟨h, own⟩ sound.handled
  · intro other another waits
    obtain ⟨before, different⟩ := left other another waits
    obtain ⟨foreign, handles, absent⟩ := sound.awaited other another before
    refine ⟨foreign, handles, ?_⟩
    rw [AssocMap.find?_assign, if_neg, absent]
    intro same
    rw [same] at handles
    exact different (sound.apart other getter another transport h before held handles own)
  · intro first second one another shared firstWaits secondWaits
    exact sound.apart first second one another shared (left _ _ firstWaits).1
      (left _ _ secondWaits).1

theorem Sound.await [DecidableEq γ] (sound : cache.Sound handle pending) {transport : ω} {h : η}
    (getter : γ) (own : handle transport = some h) (unknown : cache.index.find? h = none)
    (alone : ∀ other another, pending other = some another → handle another ≠ some h) :
    cache.Sound handle (fun other => if other = getter then some transport else pending other) where
  inverts := sound.inverts
  handled := sound.handled
  awaited := by
    intro other another waits
    split at waits
    · cases waits
      exact ⟨h, own, unknown⟩
    · exact sound.awaited other another waits
  apart := by
    intro first second one another shared firstWaits secondWaits handles same
    split at firstWaits
    · rename_i atFirst
      cases firstWaits
      rw [own] at handles
      cases handles
      split at secondWaits
      · rename_i atSecond
        rw [atFirst, atSecond]
      · exact absurd same (alone second another secondWaits)
    · split at secondWaits
      · cases secondWaits
        rw [own] at same
        cases same
        exact absurd handles (alone first one firstWaits)
      · exact sound.apart first second one another shared firstWaits secondWaits handles same

end Cache

def Getter.holds {κ ω : Type} (getter : Getter κ ω) (protocol : Protocol) : Option ω :=
  match getter.phase with
  | .insert ret => if getter.protocol = protocol then some ret else none
  | .lookup => none
  | .create => none

theorem Getter.holds_insert {κ ω : Type} (protocol other : Protocol) (key : κ) (ret : ω) :
    (Getter.mk protocol key (.insert ret)).holds other =
      if protocol = other then some ret else none := rfl

variable (protocol : Protocol)

theorem Protocol.udp_ne_tcp : Protocol.udp ≠ Protocol.tcp := nofun

namespace Broker

open ReverseIndex

variable {κ ω υ φ γ : Type}

private theorem lookupUdp_broker [DecidableEq κ] (broker : Broker κ ω υ φ γ) (key : κ) :
    (broker.lookupUdp key).2 = broker := by
  unfold lookupUdp
  split
  · rfl
  · split <;> rfl

variable [DecidableEq γ]

def pending (broker : Broker κ ω υ φ γ) (protocol : Protocol) (getter : γ) : Option ω :=
  (broker.getters.find? getter).bind (fun state => state.holds protocol)

variable {broker : Broker κ ω υ φ γ}

private theorem pending_ended (getter other : γ) :
    (broker.ended getter).pending protocol other =
      if other = getter then none else broker.pending protocol other := by
  unfold pending ended
  rw [AssocMap.find?_erase]
  split <;> rfl

theorem pending_comesTo (getter other : γ) (state : Getter κ ω) :
    (broker.comesTo getter state).pending protocol other =
      if other = getter then state.holds protocol else broker.pending protocol other := by
  unfold pending comesTo
  rw [AssocMap.find?_assign]
  split <;> rfl

theorem pending_of_ended {protocol : Protocol} {getter other : γ} {transport : ω}
    (held : (broker.ended getter).pending protocol other = some transport) :
    broker.pending protocol other = some transport ∧ other ≠ getter := by
  rw [pending_ended] at held
  split at held
  · cases held
  · rename_i different
    exact ⟨held, different⟩

theorem pending_waits (getter : γ) (key : κ) (ret : ω) :
    (broker.comesTo getter ⟨protocol, key, .insert ret⟩).pending protocol =
      fun waiting => if waiting = getter then some ret else broker.pending protocol waiting := by
  funext waiting
  rw [pending_comesTo, Getter.holds_insert, if_pos rfl]

theorem pending_of_waits {protocol other : Protocol} (different : protocol ≠ other)
    {getter waiting : γ} {key : κ} {ret transport : ω}
    (held : (broker.comesTo getter ⟨protocol, key, .insert ret⟩).pending other waiting =
      some transport) : broker.pending other waiting = some transport := by
  rw [pending_comesTo, Getter.holds_insert] at held
  split at held
  · cases held
  · exact held

variable [DecidableEq κ] [DecidableEq υ] [DecidableEq φ]

structure Consistent (broker : Broker κ ω υ φ γ) : Prop where
  udp : broker.udp.Sound broker.get (broker.pending .udp)
  tcp : broker.tcp.Sound broker.getFactory (broker.pending .tcp)
  closing : ∀ transport ∈ broker.closing,
    (∀ key, broker.tcp.transports.find? key ≠ some transport) ∧
      ∀ getter, broker.pending .tcp getter ≠ some transport

private theorem consistent_start : Consistent ({} : Broker κ ω υ φ γ) where
  udp := ⟨.empty, nofun, nofun, nofun⟩
  tcp := ⟨.empty, nofun, nofun, nofun⟩
  closing := nofun

theorem Consistent.fewer (consistent : broker.Consistent) {getters : AssocMap γ (Getter κ ω)}
    (held : ∀ protocol getter transport,
      ({ broker with getters := getters } : Broker κ ω υ φ γ).pending protocol getter =
        some transport → broker.pending protocol getter = some transport) :
    Consistent { broker with getters := getters } where
  udp := consistent.udp.fewer (held .udp)
  tcp := consistent.tcp.fewer (held .tcp)
  closing := by
    intro transport member
    obtain ⟨notStored, notHeld⟩ := consistent.closing transport member
    exact ⟨notStored, fun getter held' => notHeld getter (held .tcp getter transport held')⟩

theorem Consistent.ended (consistent : broker.Consistent) (getter : γ) :
    (broker.ended getter).Consistent :=
  consistent.fewer (fun _ _ _ held => (pending_of_ended held).1)

theorem Consistent.creates (consistent : broker.Consistent) (getter : γ) (protocol : Protocol)
    (key : κ) : (broker.comesTo getter ⟨protocol, key, .create⟩).Consistent := by
  apply consistent.fewer
  intro other waiting transport held
  change (broker.comesTo getter ⟨protocol, key, .create⟩).pending other waiting = _ at held
  rw [pending_comesTo] at held
  split at held
  · cases held
  · exact held

/-! ### Each section keeps the maps inverse -/

theorem Consistent.getTransport (consistent : broker.Consistent) (getter : γ)
    (protocol : Protocol) (key : κ) :
    Consistent { broker with
      getters := broker.getters.emplace getter ⟨protocol, key, .lookup⟩ } := by
  apply consistent.fewer
  intro other waiting transport held
  change ((broker.getters.emplace getter ⟨protocol, key, .lookup⟩).find? waiting).bind _ = _ at held
  rw [AssocMap.find?_emplace] at held
  split at held
  · subst waiting
    change (broker.getters.find? getter).bind _ = _
    cases found : broker.getters.find? getter with
    | none =>
      rw [found] at held
      cases held
    | some state =>
      rw [found] at held
      exact held
  · exact held

theorem Consistent.lookupTcp_broker (consistent : broker.Consistent) (key : κ) :
    (broker.lookupTcp key).2 = broker := by
  unfold lookupTcp
  split
  · rfl
  · split
    · rename_i transport stored
      obtain ⟨factory, own⟩ := consistent.tcp.handled key transport stored
      rw [own]
      rfl
    · rfl

theorem Consistent.looked (getter : γ) (protocol : Protocol) (key : κ)
    (found : Lookup ω × Broker κ ω υ φ γ) (consistent : found.2.Consistent) :
    (looked getter protocol key found).2.Consistent := by
  obtain ⟨returned | _, after⟩ := found
  · exact consistent.ended getter
  · exact consistent.creates getter protocol key

section

variable (consistent : broker.Consistent)
include consistent

theorem Consistent.insertUdp {getter : γ} {key : κ} {ret : ω}
    (held : broker.pending .udp getter = some ret) :
    ((broker.insertUdp key ret).2.ended getter).Consistent := by
  have plain := consistent.ended getter
  unfold Broker.insertUdp
  split
  · exact plain
  · split
    · exact plain
    · rename_i free
      exact ⟨consistent.udp.insert free held (fun _ _ => pending_of_ended), plain.tcp,
        plain.closing⟩

theorem Consistent.insertTcp {getter : γ} {key : κ} {ret : ω}
    (held : broker.pending .tcp getter = some ret) :
    ((broker.insertTcp key ret).2.ended getter).Consistent := by
  have plain := consistent.ended getter
  unfold Broker.insertTcp
  split
  · exact plain
  · split
    · exact plain
    · rename_i notFound
      have free : broker.tcp.transports.find? key = none := by
        cases stored : broker.tcp.transports.find? key with
        | none => rfl
        | some transport =>
          obtain ⟨factory, own⟩ := consistent.tcp.handled key transport stored
          rw [stored, Option.filter_some, own] at notFound
          cases notFound
      refine ⟨plain.udp, consistent.tcp.insert free held (fun _ _ => pending_of_ended), ?_⟩
      -- What waits to be shut down was not waiting to be inserted.
      intro transport member
      obtain ⟨notStored, notHeld⟩ := consistent.closing transport member
      constructor
      · intro other stored
        change (broker.tcp.transports.assign key ret).find? other = some transport at stored
        rw [AssocMap.find?_assign] at stored
        split at stored
        · cases stored
          exact notHeld getter held
        · exact notStored other stored
      · exact (plain.closing transport member).2

theorem Consistent.transportStateChanged (tp : Changed υ φ) (state : TransportState) :
    (broker.transportStateChanged tp state).Consistent := by
  cases tp with
  | udp tp =>
    exact ⟨consistent.udp.stateChanged tp state, consistent.tcp, consistent.closing⟩
  | tcp factory =>
    cases factory with
    | none => exact consistent
    | some factory =>
      refine ⟨consistent.udp, consistent.tcp.stateChanged factory state, ?_⟩
      intro transport member
      obtain ⟨notStored, notHeld⟩ := consistent.closing transport member
      refine ⟨?_, notHeld⟩
      intro key stored
      exact notStored key (Cache.stored_before stored)
  | other => exact consistent

theorem Consistent.clear : broker.clear.Consistent where
  udp := consistent.udp.cleared
  tcp := consistent.tcp.cleared
  closing := by
    intro transport member
    refine ⟨nofun, ?_⟩
    rcases List.mem_append.mp member with before | taken
    · exact (consistent.closing transport before).2
    · obtain ⟨entry, stored, rfl⟩ := List.mem_map.mp taken
      exact consistent.tcp.not_pending ((AssocMap.mem_entries_iff _ entry.1 entry.2).mp stored)

theorem Consistent.resetForConnectivityChange : broker.resetForConnectivityChange.Consistent := by
  unfold Broker.resetForConnectivityChange
  split
  · exact consistent
  · exact consistent.clear

theorem Consistent.shutdown : broker.shutdown.Consistent := by
  unfold Broker.shutdown
  split
  · exact consistent
  · have cleared := consistent.clear
    exact ⟨cleared.udp, cleared.tcp, cleared.closing⟩

end

section Objects

variable [DecidableEq ω]

theorem Consistent.shutdownTransport (consistent : broker.Consistent) (transport : ω) :
    (broker.shutdownTransport transport).Consistent := by
  unfold Broker.shutdownTransport
  split
  · rename_i member
    obtain ⟨notStored, notHeld⟩ := consistent.closing transport member
    refine ⟨consistent.udp, ?_, ?_⟩
    · apply consistent.tcp.congr
      · intro key other stored
        exact Function.update_of_ne (ne_of_apply_ne some (ne_of_eq_of_ne stored.symm
          (notStored key))) _ _
      · intro getter other held
        exact Function.update_of_ne (ne_of_apply_ne some (ne_of_eq_of_ne held.symm
          (notHeld getter))) _ _
    · intro other left
      exact consistent.closing other (List.mem_of_mem_erase left)
  · exact consistent

/-- Nobody has the object: it is in no cache, no getter holds it, and it does not wait to
be shut down. -/
structure Unused (broker : Broker κ ω υ φ γ) (transport : ω) : Prop where
  udp : ∀ key, broker.udp.transports.find? key ≠ some transport
  tcp : ∀ key, broker.tcp.transports.find? key ≠ some transport
  pending : ∀ protocol getter, broker.pending protocol getter ≠ some transport
  closing : transport ∉ broker.closing

structure NewHandle {η : Type} [DecidableEq η] (cache : Cache κ ω η) (handle : ω → Option η)
    (pending : γ → Option ω) (h : η) : Prop where
  unknown : cache.index.find? h = none
  alone : ∀ getter transport, pending getter = some transport → handle transport ≠ some h

def Fresh (broker : Broker κ ω υ φ γ) : Event κ ω υ φ γ → Prop
  | .createUdpTransport _ (some (ret, some handle)) =>
    broker.Unused ret ∧ NewHandle broker.udp broker.get (broker.pending .udp) handle
  | .createTcpTransport _ (some (ret, some factory)) =>
    broker.Unused ret ∧ NewHandle broker.tcp broker.getFactory (broker.pending .tcp) factory
  | _ => True

theorem sound_await {η : Type} [DecidableEq η] {cache : Cache κ ω η} {handle : ω → Option η}
    {pending : γ → Option ω} (sound : cache.Sound handle pending) {transport : ω} {h : η}
    (getter : γ) (notStored : ∀ key, cache.transports.find? key ≠ some transport)
    (notHeld : ∀ getter, pending getter ≠ some transport)
    (new : NewHandle cache handle pending h) :
    cache.Sound (Function.update handle transport (some h))
      (fun other => if other = getter then some transport else pending other) := by
  have kept : ∀ getter other, pending getter = some other →
      Function.update handle transport (some h) other = handle other := by
    intro getter other held
    exact Function.update_of_ne (ne_of_apply_ne some (ne_of_eq_of_ne held.symm
      (notHeld getter))) _ _
  apply Cache.Sound.await (sound.congr ?_ kept) getter (Function.update_self ..) new.unknown
  · intro other another held
    rw [kept other another held]
    exact new.alone other another held
  · intro key other stored
    exact Function.update_of_ne (ne_of_apply_ne some (ne_of_eq_of_ne stored.symm
      (notStored key))) _ _

theorem Consistent.createUdpTransport (consistent : broker.Consistent) {getter : γ} {key : κ}
    {ret : ω} {handle : υ} (unused : broker.Unused ret)
    (new : NewHandle broker.udp broker.get (broker.pending .udp) handle) :
    ({ broker with get := Function.update broker.get ret (some handle) }.comesTo getter
      ⟨.udp, key, .insert ret⟩).Consistent where
  udp := by
    rw [pending_waits]
    exact sound_await consistent.udp getter unused.udp (unused.pending .udp) new
  tcp := consistent.tcp.fewer (fun _ _ => pending_of_waits Protocol.udp_ne_tcp)
  closing := by
    intro transport member
    obtain ⟨notStored, notHeld⟩ := consistent.closing transport member
    exact ⟨notStored, fun waiting held =>
      notHeld waiting (pending_of_waits Protocol.udp_ne_tcp held)⟩

theorem Consistent.createTcpTransport (consistent : broker.Consistent) {getter : γ} {key : κ}
    {ret : ω} {factory : φ} (unused : broker.Unused ret)
    (new : NewHandle broker.tcp broker.getFactory (broker.pending .tcp) factory) :
    ({ broker with getFactory := Function.update broker.getFactory ret (some factory) }.comesTo
      getter ⟨.tcp, key, .insert ret⟩).Consistent where
  udp := consistent.udp.fewer (fun _ _ => pending_of_waits Protocol.udp_ne_tcp.symm)
  tcp := by
    rw [pending_waits]
    exact sound_await consistent.tcp getter unused.tcp (unused.pending .tcp) new
  closing := by
    intro transport member
    obtain ⟨notStored, notHeld⟩ := consistent.closing transport member
    refine ⟨notStored, ?_⟩
    intro waiting held
    rw [pending_waits] at held
    dsimp only at held
    split at held
    · cases held
      exact unused.closing member
    · exact notHeld waiting held

inductive Advances (broker : Broker κ ω υ φ γ) :
    Event κ ω υ φ γ → Option ω × Broker κ ω υ φ γ → Prop where
  | idle (event : Event κ ω υ φ γ) : Advances broker event (none, broker)
  | failed (event : Event κ ω υ φ γ) (getter : γ) :
      Advances broker event (none, broker.ended getter)
  | begins (getter : γ) (protocol : Protocol) (key : κ) (free : broker.isDestroying = false) :
      Advances broker (.getTransport getter protocol key)
        (none, { broker with getters := broker.getters.emplace getter ⟨protocol, key, .lookup⟩ })
  | lookedUdp (getter : γ) (key : κ) :
      Advances broker (.lookup getter) (looked getter .udp key (broker.lookupUdp key))
  | lookedTcp (getter : γ) (key : κ) :
      Advances broker (.lookup getter) (looked getter .tcp key (broker.lookupTcp key))
  | createdUdp (getter : γ) (key : κ) (ret : ω) (handle : υ) :
      Advances broker (.createUdpTransport getter (some (ret, some handle)))
        (none, { broker with get := Function.update broker.get ret (some handle) }.comesTo getter
          ⟨.udp, key, .insert ret⟩)
  | createdTcp (getter : γ) (key : κ) (ret : ω) (factory : φ) :
      Advances broker (.createTcpTransport getter (some (ret, some factory)))
        (none, { broker with
          getFactory := Function.update broker.getFactory ret (some factory) }.comesTo getter
            ⟨.tcp, key, .insert ret⟩)
  | insertedUdp (getter : γ) (key : κ) (ret : ω) (held : broker.pending .udp getter = some ret) :
      Advances broker (.insert getter)
        ((broker.insertUdp key ret).1, (broker.insertUdp key ret).2.ended getter)
  | insertedTcp (getter : γ) (key : κ) (ret : ω) (held : broker.pending .tcp getter = some ret) :
      Advances broker (.insert getter)
        ((broker.insertTcp key ret).1, (broker.insertTcp key ret).2.ended getter)
  | stateChanged (tp : Changed υ φ) (state : TransportState) :
      Advances broker (.transportStateChanged tp state)
        (none, broker.transportStateChanged tp state)
  | reset : Advances broker .resetForConnectivityChange (none, broker.resetForConnectivityChange)
  | shut : Advances broker .shutdown (none, broker.shutdown)
  | closed (transport : ω) :
      Advances broker (.shutdownTransport transport) (none, broker.shutdownTransport transport)

theorem advances (broker : Broker κ ω υ φ γ) (event : Event κ ω υ φ γ) :
    Advances broker event (broker.advance event) := by
  cases event with
  | getTransport getter protocol key =>
    change Advances broker _ (none, broker.getTransport getter protocol key)
    unfold getTransport
    split
    · exact .idle _
    · rename_i free
      exact .begins getter protocol key (Bool.eq_false_iff.mpr free)
  | lookup getter =>
    change Advances broker _ (broker.runsLookup getter)
    unfold runsLookup
    split
    · exact .lookedUdp getter _
    · exact .lookedTcp getter _
    · exact .idle _
  | createUdpTransport getter created =>
    change Advances broker _ (none, broker.createUdpTransport getter created)
    unfold createUdpTransport
    split
    · split
      · exact .createdUdp getter _ _ _
      · exact .failed _ getter
    · exact .idle _
  | createTcpTransport getter created =>
    change Advances broker _ (none, broker.createTcpTransport getter created)
    unfold createTcpTransport
    split
    · split
      · exact .createdTcp getter _ _ _
      · exact .failed _ getter
    · exact .idle _
  | insert getter =>
    change Advances broker _ (broker.runsInsert getter)
    unfold runsInsert
    split
    · rename_i key ret found
      exact .insertedUdp getter key ret (by rw [pending, found]; rfl)
    · rename_i key ret found
      exact .insertedTcp getter key ret (by rw [pending, found]; rfl)
    · exact .idle _
  | transportStateChanged tp state => exact .stateChanged tp state
  | resetForConnectivityChange => exact .reset
  | shutdown => exact .shut
  | shutdownTransport transport => exact .closed transport

private theorem step_consistent (broker : Broker κ ω υ φ γ) (event : Event κ ω υ φ γ)
    (consistent : broker.Consistent) (fresh : broker.Fresh event) :
    (broker.step event).Consistent := by
  have advances := broker.advances event
  unfold step
  generalize broker.advance event = result at advances ⊢
  cases advances with
  | idle => exact consistent
  | failed event getter => exact consistent.ended getter
  | begins getter protocol key => exact consistent.getTransport getter protocol key
  | lookedUdp getter key =>
    apply Consistent.looked
    rw [lookupUdp_broker]
    exact consistent
  | lookedTcp getter key =>
    apply Consistent.looked
    rw [consistent.lookupTcp_broker]
    exact consistent
  | createdUdp getter key ret handle => exact consistent.createUdpTransport fresh.1 fresh.2
  | createdTcp getter key ret factory => exact consistent.createTcpTransport fresh.1 fresh.2
  | insertedUdp getter key ret held => exact consistent.insertUdp held
  | insertedTcp getter key ret held => exact consistent.insertTcp held
  | stateChanged tp state => exact consistent.transportStateChanged tp state
  | reset => exact consistent.resetForConnectivityChange
  | shut => exact consistent.shutdown
  | closed transport => exact consistent.shutdownTransport transport

/-- The step hands out no transport, and every stored one was stored before. -/
structure Silent (broker : Broker κ ω υ φ γ) (result : Option ω × Broker κ ω υ φ γ) : Prop where
  yields : result.1 = none
  udp : ∀ key transport, result.2.udp.transports.find? key = some transport →
    broker.udp.transports.find? key = some transport
  tcp : ∀ key transport, result.2.tcp.transports.find? key = some transport →
    broker.tcp.transports.find? key = some transport

def Quiet (broker : Broker κ ω υ φ γ) (event : Event κ ω υ φ γ) : Prop :=
  broker.Silent (broker.advance event)

private theorem advance_of_destroying (broker : Broker κ ω υ φ γ) (event : Event κ ω υ φ γ)
    (destroying : broker.isDestroying = true) :
    broker.Silent (broker.advance event) ∧ (broker.advance event).2.isDestroying = true := by
  have unchanged : ∀ getters : AssocMap γ (Getter κ ω),
      broker.Silent (none, { broker with getters := getters }) ∧ broker.isDestroying = true :=
    fun _ => ⟨⟨rfl, fun _ _ => id, fun _ _ => id⟩, destroying⟩
  have advances := broker.advances event
  generalize broker.advance event = result at advances ⊢
  cases advances with
  | idle => exact unchanged _
  | failed event getter => exact unchanged _
  | begins getter protocol key free =>
    rw [destroying] at free
    cases free
  | lookedUdp getter key =>
    rw [lookupUdp, if_pos destroying]
    exact unchanged _
  | lookedTcp getter key =>
    rw [lookupTcp, if_pos destroying]
    exact unchanged _
  | createdUdp getter key ret handle => exact ⟨⟨rfl, fun _ _ => id, fun _ _ => id⟩, destroying⟩
  | createdTcp getter key ret factory => exact ⟨⟨rfl, fun _ _ => id, fun _ _ => id⟩, destroying⟩
  | insertedUdp getter key ret held =>
    rw [Broker.insertUdp, if_pos destroying]
    exact unchanged _
  | insertedTcp getter key ret held =>
    rw [Broker.insertTcp, if_pos destroying]
    exact unchanged _
  | stateChanged tp state =>
    unfold Broker.transportStateChanged
    split
    · exact ⟨⟨rfl, fun _ _ => Cache.stored_before, fun _ _ => id⟩, destroying⟩
    · exact unchanged _
    · exact ⟨⟨rfl, fun _ _ => id, fun _ _ => Cache.stored_before⟩, destroying⟩
    · exact unchanged _
  | reset =>
    rw [Broker.resetForConnectivityChange, if_pos destroying]
    exact unchanged _
  | shut =>
    rw [Broker.shutdown, if_pos destroying]
    exact unchanged _
  | closed transport =>
    unfold Broker.shutdownTransport
    split
    · exact ⟨⟨rfl, fun _ _ => id, fun _ _ => id⟩, destroying⟩
    · exact unchanged _

private theorem step_shutdown_destroying (broker : Broker κ ω υ φ γ) :
    (broker.step .shutdown).isDestroying = true := by
  change broker.shutdown.isDestroying = true
  unfold Broker.shutdown
  split
  · assumption
  · rfl

/-! ### Every interleaving -/

/-- The index of each cache says of a handle what the cache says of its address. -/
def MutuallyInverse (broker : Broker κ ω υ φ γ) : Prop :=
  Inverts broker.udp.transports broker.get broker.udp.index ∧
    Inverts broker.tcp.transports broker.getFactory broker.tcp.index

/-- However the sections fall, the maps stay inverse to each other, and nothing is stored
or handed out by a section that comes after that of a shutdown. -/
theorem maps_inverse_and_quiet (events : List (Event κ ω υ φ γ))
    (fresh : Run.Guarded step Fresh ({} : Broker κ ω υ φ γ) events) :
    Run.Always step MutuallyInverse ({} : Broker κ ω υ φ γ) events ∧
      ∀ first later, events = first ++ .shutdown :: later →
        Run.Guarded step Quiet (Run.after step {} (first ++ [.shutdown])) later := by
  constructor
  · have always : Run.Always step Consistent ({} : Broker κ ω υ φ γ) events :=
      Run.always_of_guarded step_consistent consistent_start fresh
    exact always.imp (fun _ consistent => ⟨consistent.udp.inverts, consistent.tcp.inverts⟩)
  · intro first later _
    have destroying : (Run.after step ({} : Broker κ ω υ φ γ)
        (first ++ [.shutdown])).isDestroying = true := by
      rw [Run.after_append]
      exact step_shutdown_destroying _
    have preserved : ∀ (state : Broker κ ω υ φ γ) event, state.isDestroying = true → True →
        (state.step event).isDestroying = true :=
      fun state event stays _ => (advance_of_destroying state event stays).2
    have unguarded : Run.Guarded step (fun _ _ => True)
        (Run.after step ({} : Broker κ ω υ φ γ) (first ++ [.shutdown])) later :=
      Run.guarded_of_forall (fun _ _ => trivial)
    exact Run.guarded_of_invariant preserved
      (fun state event stays _ => (advance_of_destroying state event stays).1) destroying unguarded

end Objects

private theorem fresh_of_entries {broker : Broker Nat Nat Nat Nat Nat} {getter ret handle : Nat}
    (udp : ∀ entry ∈ broker.udp.transports.entries, entry.2 ≠ ret)
    (tcp : ∀ entry ∈ broker.tcp.transports.entries, entry.2 ≠ ret)
    (getters : ∀ entry ∈ broker.getters.entries, entry.2.phase ≠ .insert ret)
    (closing : ret ∉ broker.closing) (unknown : broker.udp.index.find? handle = none)
    (alone : ∀ entry ∈ broker.getters.entries,
      (entry.2.holds .udp).bind broker.get ≠ some handle) :
    broker.Fresh (.createUdpTransport getter (some (ret, some handle))) := by
  have stored : ∀ {map : AssocMap Nat Nat}, (∀ entry ∈ map.entries, entry.2 ≠ ret) →
      ∀ key, map.find? key ≠ some ret := by
    intro map absent key found
    exact absent (key, ret) ((AssocMap.mem_entries_iff map key ret).mpr found) rfl
  have waiting : ∀ protocol other transport, broker.pending protocol other = some transport →
      ∃ entry ∈ broker.getters.entries, entry.2.holds protocol = some transport := by
    intro protocol other transport held
    obtain ⟨state, found, holds⟩ := Option.bind_eq_some_iff.mp held
    exact ⟨(other, state), (AssocMap.mem_entries_iff broker.getters other state).mpr found, holds⟩
  refine ⟨⟨stored udp, stored tcp, ?_, closing⟩, unknown, ?_⟩
  · intro protocol other held
    obtain ⟨entry, member, holds⟩ := waiting protocol other ret held
    apply getters entry member
    unfold Getter.holds at holds
    split at holds
    · rename_i inserted phase
      split at holds
      · rw [phase, Option.some.inj holds]
      · cases holds
    · cases holds
    · cases holds
  · intro other transport held same
    obtain ⟨entry, member, holds⟩ := waiting .udp other transport held
    apply alone entry member
    rw [holds]
    exact same

def twoGetters : List (Event Nat Nat Nat Nat Nat) :=
  [.getTransport 1 .udp 7, .getTransport 2 .udp 7, .lookup 1, .lookup 2,
    .createUdpTransport 1 (some (10, some 100)), .createUdpTransport 2 (some (20, some 200)),
    .insert 1, .insert 2, .shutdown, .lookup 1]

theorem maps_inverse_with_two_getters :
    Run.Always step MutuallyInverse {} twoGetters ∧
      ∀ first later, twoGetters = first ++ .shutdown :: later →
        Run.Guarded step Quiet (Run.after step {} (first ++ [.shutdown])) later :=
  maps_inverse_and_quiet twoGetters
    ⟨trivial, trivial, trivial, trivial,
      fresh_of_entries (by decide) (by decide) (by decide) (by decide) (by decide) (by decide),
      fresh_of_entries (by decide) (by decide) (by decide) (by decide) (by decide) (by decide),
      trivial, trivial, trivial, trivial, trivial⟩

end Broker
end SipCore.TransportBroker
