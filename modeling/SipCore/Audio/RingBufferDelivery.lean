/-
What a reader of the ring buffer gets, over whole runs. A ledger beside the buffer
records which frames were put and which one reader took. The invariant places the
reader at an absolute position of the unbounded history and the slots at its last lap.
-/

import SipCore.Library.GuardedRun
import SipCore.Audio.RingBuffer

namespace SipCore.RingBuffer

open Circular Run

variable {α : Type}

inductive Op (α : Type) where
  | createReadOffset (callId : String)
  | removeReadOffset (callId : String)
  | put (frame : α)
  | get (callId : String)
  | discard (toDiscard : Nat) (callId : String)
  | flush (callId : String)
  | flushAll

def apply (ring : RingBuffer α) : Op α → RingBuffer α
  | .createReadOffset callId => ring.createReadOffset callId
  | .removeReadOffset callId => ring.removeReadOffset callId
  | .put frame => ring.putToBuffer frame
  | .get callId => (ring.get callId).2
  | .discard toDiscard callId => (ring.discard toDiscard callId).2
  | .flush callId => ring.flush callId
  | .flushAll => ring.flushAll

/-- One reader's account. `sent` and `received` start at its creation or last
flush, `fresh` and `taken` at the last moment it had taken every frame. -/
structure Ledger (α : Type) where
  sent : List α
  received : List α
  fresh : List α
  taken : List α

namespace Ledger

def opened : Ledger α := ⟨[], [], [], []⟩

def put (ledger : Ledger α) (frame : α) : Ledger α :=
  { ledger with sent := ledger.sent ++ [frame], fresh := ledger.fresh ++ [frame] }

def take (ledger : Ledger α) (frames : List α) (left : Nat) : Ledger α :=
  if frames.isEmpty = false ∧ left = 0 then { ledger with fresh := [], taken := [] }
  else { ledger with taken := ledger.taken ++ frames }

def receive (ledger : Ledger α) (frames : List α) : Ledger α :=
  { ledger with received := ledger.received ++ frames }

@[simp] theorem take_received (ledger : Ledger α) (frames : List α) (left : Nat) :
    (ledger.take frames left).received = ledger.received := by
  unfold take
  split <;> rfl

@[simp] theorem take_nil (ledger : Ledger α) (left : Nat) : ledger.take [] left = ledger := by
  simp [take]

@[simp] theorem receive_nil (ledger : Ledger α) : ledger.receive [] = ledger := by
  simp [receive]

end Ledger

/-- The buffer with everything ever put and the account of one reader, absent
while that reader does not exist. -/
structure Tracked (α : Type) where
  ring : RingBuffer α
  puts : List α
  ledger : Option (Ledger α)

def Tracked.create (slots : Nat) : Tracked α :=
  { ring := RingBuffer.create slots
    puts := []
    ledger := none }

def Tracked.record (callId : String) (tracked : Tracked α) : Op α → Option (Ledger α)
  | .createReadOffset other =>
    if other = callId then some (tracked.ledger.getD Ledger.opened) else tracked.ledger
  | .removeReadOffset other => if other = callId then none else tracked.ledger
  | .put frame => tracked.ledger.map (fun ledger => ledger.put frame)
  | .get other =>
    if other = callId then
      let result := tracked.ring.get callId
      tracked.ledger.map (fun ledger =>
        (ledger.take result.1.toList (result.2.getLength callId)).receive result.1.toList)
    else tracked.ledger
  | .discard toDiscard other =>
    if other = callId then
      let result := tracked.ring.discard toDiscard callId
      tracked.ledger.map (fun ledger =>
        ledger.take ((tracked.ring.drain callId).take result.1) (result.2.getLength callId))
    else tracked.ledger
  | .flush other => if other = callId then tracked.ledger.map (fun _ => Ledger.opened) else tracked.ledger
  | .flushAll => tracked.ledger.map (fun _ => Ledger.opened)

def Tracked.step (callId : String) (tracked : Tracked α) (op : Op α) : Tracked α :=
  { ring := tracked.ring.apply op
    puts := match op with
      | .put frame => tracked.puts ++ [frame]
      | _ => tracked.puts
    ledger := tracked.record callId op }

def framesPut : List (Op α) → List α
  | [] => []
  | .put frame :: rest => frame :: framesPut rest
  | _ :: rest => framesPut rest

structure Backed (slots : Nat) (ring : RingBuffer α) (puts : List α) : Prop where
  endPos : ring.endPos = puts.length % slots
  cells : Holds slots ring.buffer puts

variable (count : Nat)

/-- The reader has passed `position` frames of the history and is less than a
lap behind, which is all the offset can express. -/
structure Located (slots : Nat) (ring : RingBuffer α) (puts : List α) (callId : String)
    (position : Nat) : Prop extends Backed slots ring puts where
  positive : 0 < slots
  offset : ring.readoffsets.find? callId = some (position % slots)
  reached : position ≤ puts.length
  near : puts.length < position + slots

namespace Located

variable {slots : Nat} {ring : RingBuffer α} {puts : List α} {callId : String} {position : Nat}

section

variable (located : Located slots ring puts callId position)
include located

theorem slots_ne_zero : ring.buffer.length ≠ 0 := by
  rw [located.cells.1]
  exact Nat.ne_of_gt located.positive

theorem distance_eq :
    distance ring.buffer.length ring.endPos (position % slots) = puts.length - position := by
  rw [located.cells.1, located.endPos]
  exact distance_eq_sub located.positive located.reached located.near

theorem getLength_eq : ring.getLength callId = puts.length - position := by
  simp only [getLength, if_neg located.slots_ne_zero, getReadOffset, located.offset,
    Option.getD_some, located.distance_eq]

theorem advance (within : position + count ≤ puts.length) :
    Located slots (ring.storeReadOffset ((position + count) % slots) callId) puts callId
      (position + count) :=
  { endPos := located.endPos
    cells := located.cells
    positive := located.positive
    offset := by
      change (ring.readoffsets.modify callId _).find? callId = _
      rw [AssocMap.find?_modify, if_pos rfl, located.offset, Option.map_some]
    reached := within
    near := by
      have near := located.near
      omega }

theorem get_eq_none (atEnd : position = puts.length) : ring.get callId = (none, ring) := by
  have empty : distance ring.buffer.length ring.endPos (position % slots) = 0 := by
    rw [located.distance_eq]
    omega
  simp only [get, located.offset, if_neg located.slots_ne_zero, if_pos empty]

theorem get_eq_some (unread : position < puts.length) :
    ring.get callId =
      (some puts[position], ring.storeReadOffset ((position + 1) % slots) callId) := by
  have pending : distance ring.buffer.length ring.endPos (position % slots) ≠ 0 := by
    rw [located.distance_eq]
    omega
  have stored := located.cells.2 position unread (Nat.le_of_lt located.near)
  have next : (position % slots + 1) % ring.buffer.length = (position + 1) % slots := by
    rw [located.cells.1]
    exact mod_add_one_mod position slots
  simp only [get, located.offset, if_neg located.slots_ne_zero, if_neg pending, stored,
    Option.join_some, next]

theorem discard_eq (toDiscard : Nat) :
    ring.discard toDiscard callId =
      (min toDiscard (puts.length - position),
        ring.storeReadOffset ((position + min toDiscard (puts.length - position)) % slots) callId) := by
  have moved (count : Nat) :
      (position % slots + count) % ring.buffer.length = (position + count) % slots := by
    rw [located.cells.1]
    exact Nat.mod_add_mod position slots count
  simp only [discard, located.offset, if_neg located.slots_ne_zero, located.distance_eq, moved]

private theorem getMany_eq : getMany count ring callId = (puts.drop position).take count := by
  induction count generalizing ring position with
  | zero => rfl
  | succ count ih =>
    rcases Nat.lt_or_ge position puts.length with unread | atEnd
    · simp only [getMany, located.get_eq_some unread]
      rw [ih (located.advance 1 unread), List.drop_eq_getElem_cons unread, List.take_succ_cons]
    · have same : position = puts.length := Nat.le_antisymm located.reached atEnd
      simp only [getMany, located.get_eq_none same]
      rw [List.drop_eq_nil_of_le atEnd, List.take_nil]

theorem drain_eq : ring.drain callId = puts.drop position := by
  rw [drain, located.getMany_eq, List.take_of_length_le]
  rw [List.length_drop, located.cells.1]
  have near := located.near
  omega

end

end Located

structure SameFor (callId : String) (ring changed : RingBuffer α) : Prop where
  endPos : changed.endPos = ring.endPos
  buffer : changed.buffer = ring.buffer
  offset : changed.readoffsets.find? callId = ring.readoffsets.find? callId

theorem SameFor.refl (callId : String) (ring : RingBuffer α) : SameFor callId ring ring :=
  ⟨rfl, rfl, rfl⟩

section

variable (ring : RingBuffer α) {callId other : String} (different : callId ≠ other)
include different

theorem storeReadOffset_sameFor (offset : Nat) :
    SameFor callId ring (ring.storeReadOffset offset other) :=
  ⟨rfl, rfl, (AssocMap.find?_modify _ _ _ _).trans (if_neg different)⟩

theorem createReadOffset_sameFor : SameFor callId ring (ring.createReadOffset other) :=
  ⟨rfl, rfl, (AssocMap.find?_emplace _ _ _ _).trans (if_neg different)⟩

theorem removeReadOffset_sameFor : SameFor callId ring (ring.removeReadOffset other) :=
  ⟨rfl, rfl, (AssocMap.find?_erase _ _ _).trans (if_neg different)⟩

theorem get_sameFor : SameFor callId ring (ring.get other).2 := by
  unfold get
  cases ring.readoffsets.find? other with
  | none => exact .refl callId ring
  | some startPos =>
    simp only
    split
    · exact .refl callId ring
    · split
      · exact .refl callId ring
      · exact storeReadOffset_sameFor ring different _

theorem discard_sameFor (toDiscard : Nat) :
    SameFor callId ring (ring.discard toDiscard other).2 := by
  unfold discard
  simp only
  split
  · exact .refl callId ring
  · cases ring.readoffsets.find? other with
    | none => exact .refl callId ring
    | some offset => exact storeReadOffset_sameFor ring different _

end

/-! ### The invariant of the account -/

/-- The account agrees with the history: `base` is where it was opened,
`caught` where the reader last had everything. Until a lap is lost every fresh
frame before the position has been taken. -/
structure Accounts (lossless : Prop) (puts : List α) (ledger : Ledger α)
    (base caught position : Nat) : Prop where
  opened : base ≤ caught
  passed : caught ≤ position
  sent : ledger.sent = puts.drop base
  fresh : ledger.fresh = puts.drop caught
  received : ledger.received.Sublist ((puts.take position).drop base)
  taken : lossless → ledger.taken = (puts.take position).drop caught

def ReaderSound (slots : Nat) (lossless : Prop) (ring : RingBuffer α) (puts : List α)
    (callId : String) : Option (Ledger α) → Prop
  | none => ring.readoffsets.find? callId = none
  | some ledger => ∃ base caught position,
      Located slots ring puts callId position ∧ Accounts lossless puts ledger base caught position

structure Sound (slots : Nat) (lossless : Prop) (callId : String) (tracked : Tracked α) : Prop where
  positive : 0 < slots
  backed : Backed slots tracked.ring tracked.puts
  reader : ReaderSound slots lossless tracked.ring tracked.puts callId tracked.ledger

variable {slots : Nat} {lossless : Prop} {callId : String}

private theorem sound_create (positive : 0 < slots) :
    Sound slots lossless callId (Tracked.create slots : Tracked α) :=
  { positive := positive
    backed := ⟨by simp [Tracked.create, create], Holds.empty slots⟩
    reader := rfl }

theorem Backed.sameFor {ring changed : RingBuffer α} {puts : List α}
    (backed : Backed slots ring puts) (same : SameFor callId ring changed) :
    Backed slots changed puts :=
  ⟨same.endPos.trans backed.endPos, by rw [same.buffer]; exact backed.cells⟩

theorem ReaderSound.sameFor {ring changed : RingBuffer α} {puts : List α}
    {ledger : Option (Ledger α)} (same : SameFor callId ring changed)
    (reader : ReaderSound slots lossless ring puts callId ledger) :
    ReaderSound slots lossless changed puts callId ledger := by
  cases ledger with
  | none => exact same.offset.trans reader
  | some ledger =>
    obtain ⟨base, caught, position, located, accounts⟩ := reader
    exact ⟨base, caught, position,
      { toBacked := located.toBacked.sameFor same
        positive := located.positive
        offset := same.offset.trans located.offset
        reached := located.reached
        near := located.near }, accounts⟩

theorem Accounts.opened_at_end (puts : List α) :
    Accounts lossless puts Ledger.opened puts.length puts.length puts.length :=
  { opened := Nat.le_refl _
    passed := Nat.le_refl _
    sent := by simp [Ledger.opened]
    fresh := by simp [Ledger.opened]
    received := List.nil_sublist _
    taken := fun _ => by simp [Ledger.opened] }

theorem Backed.located_at_end {ring : RingBuffer α} {puts : List α}
    (backed : Backed slots ring puts) (positive : 0 < slots)
    (offset : ring.readoffsets.find? callId = some ring.endPos) :
    Located slots ring puts callId puts.length :=
  { toBacked := backed
    positive := positive
    offset := by rw [offset, backed.endPos]
    reached := Nat.le_refl _
    near := by omega }

theorem take_drop_split (puts : List α) {low position : Nat} (count : Nat)
    (ordered : low ≤ position) (reached : position ≤ puts.length) :
    (puts.take (position + count)).drop low =
      (puts.take position).drop low ++ (puts.drop position).take count := by
  rw [List.take_add, List.drop_append_of_le_length]
  rw [List.length_take, Nat.min_eq_left reached]
  exact ordered

theorem Accounts.take {puts : List α} {ledger : Ledger α} {base caught position : Nat}
    (accounts : Accounts lossless puts ledger base caught position) (count : Nat)
    (within : position + count ≤ puts.length) :
    ∃ caught', Accounts lossless puts
      (ledger.take ((puts.drop position).take count) (puts.length - (position + count)))
      base caught' (position + count) := by
  have reached : position ≤ puts.length := by omega
  have opened := accounts.opened
  have passed := accounts.passed
  have received : ledger.received.Sublist ((puts.take (position + count)).drop base) := by
    rw [take_drop_split puts count (by omega) reached]
    exact accounts.received.trans (List.sublist_append_left _ _)
  unfold Ledger.take
  split
  · have final : position + count = puts.length := by omega
    refine ⟨puts.length, ?_⟩
    exact
      { opened := by omega
        passed := by omega
        sent := accounts.sent
        fresh := by simp
        received := received
        taken := fun _ => by
          rw [final, List.take_length, List.drop_length] }
  · refine ⟨caught, ?_⟩
    exact
      { opened := opened
        passed := by omega
        sent := accounts.sent
        fresh := accounts.fresh
        received := received
        taken := fun exact => by
          rw [accounts.taken exact, take_drop_split puts count passed reached] }

theorem Accounts.receive {puts : List α} {ledger : Ledger α} {base caught position : Nat}
    (accounts : Accounts lossless puts ledger base caught (position + count))
    (reached : position ≤ puts.length) (ordered : base ≤ position)
    (before : ledger.received.Sublist ((puts.take position).drop base)) :
    Accounts lossless puts (ledger.receive ((puts.drop position).take count)) base caught
      (position + count) :=
  { opened := accounts.opened
    passed := accounts.passed
    sent := accounts.sent
    fresh := accounts.fresh
    received := by
      rw [take_drop_split puts count ordered reached]
      exact before.append (.refl _)
    taken := accounts.taken }

/-- The writer is about to complete a lap on the reader: all the frames the
offset can express are unread. -/
def Lapping (callId : String) (tracked : Tracked α) : Op α → Prop
  | .put _ => tracked.ring.hasThisReadOffset callId = true ∧
      tracked.ring.getLength callId = tracked.ring.buffer.length - 1
  | _ => False

instance decidableLapping (callId : String) (tracked : Tracked α) :
    ∀ op, Decidable (Lapping callId tracked op)
  | .put _ => inferInstanceAs (Decidable (_ ∧ _))
  | .createReadOffset _ | .removeReadOffset _ | .get _ | .discard _ _ | .flush _ | .flushAll =>
    inferInstanceAs (Decidable False)

section

variable {ring : RingBuffer α} {puts : List α}

theorem Backed.put (backed : Backed slots ring puts) (positive : 0 < slots) (frame : α) :
    Backed slots (ring.putToBuffer frame) (puts ++ [frame]) := by
  have nonempty : ring.buffer.length ≠ 0 := by
    rw [backed.cells.1]
    exact Nat.ne_of_gt positive
  rw [putToBuffer_eq_store ring nonempty]
  constructor
  · change (ring.endPos + 1) % ring.buffer.length = (puts ++ [frame]).length % slots
    rw [backed.endPos, backed.cells.1, mod_add_one_mod, List.length_append, List.length_singleton]
  · change Holds slots (ring.buffer.set ring.endPos (some frame)) (puts ++ [frame])
    rw [backed.endPos]
    exact backed.cells.push positive frame

theorem Backed.put_readoffsets (backed : Backed slots ring puts) (positive : 0 < slots) (frame : α) :
    (ring.putToBuffer frame).readoffsets = ring.readoffsets := by
  apply putToBuffer_readoffsets
  rw [backed.cells.1]
  exact Nat.ne_of_gt positive

theorem Located.put {position : Nat} (located : Located slots ring puts callId position) (frame : α)
    (inside : puts.length + 1 < position + slots) :
    Located slots (ring.putToBuffer frame) (puts ++ [frame]) callId position := by
  have reached := located.reached
  have extended : (puts ++ [frame]).length = puts.length + 1 := by simp
  exact
    { toBacked := located.toBacked.put located.positive frame
      positive := located.positive
      offset := by
        rw [located.toBacked.put_readoffsets located.positive]
        exact located.offset
      reached := by omega
      near := by omega }

theorem Located.put_lapping {position : Nat} (located : Located slots ring puts callId position)
    (frame : α) (full : puts.length + 1 = position + slots) :
    Located slots (ring.putToBuffer frame) (puts ++ [frame]) callId (position + slots) := by
  have positive := located.positive
  have extended : (puts ++ [frame]).length = puts.length + 1 := by simp
  exact
    { toBacked := located.toBacked.put positive frame
      positive := positive
      offset := by
        rw [located.toBacked.put_readoffsets positive, Nat.add_mod_right]
        exact located.offset
      reached := by omega
      near := by omega }

end

theorem Accounts.put {puts : List α} {ledger : Ledger α} {base caught position : Nat}
    (accounts : Accounts lossless puts ledger base caught position)
    (reached : position ≤ puts.length) (frame : α) :
    Accounts lossless (puts ++ [frame]) (ledger.put frame) base caught position := by
  have opened := accounts.opened
  have passed := accounts.passed
  have unread : (puts ++ [frame]).take position = puts.take position :=
    List.take_append_of_le_length reached
  exact
    { opened := opened
      passed := passed
      sent := by
        rw [List.drop_append_of_le_length (by omega), ← accounts.sent]
        rfl
      fresh := by
        rw [List.drop_append_of_le_length (by omega), ← accounts.fresh]
        rfl
      received := by
        rw [unread]
        exact accounts.received
      taken := fun exact => by
        rw [unread]
        exact accounts.taken exact }

/-- Losing a lap moves the position past frames that were never taken, which is
only compatible with an account that makes no promise about `taken`. -/
theorem Accounts.lapped {puts : List α} {ledger : Ledger α} {base caught position : Nat}
    (accounts : Accounts lossless puts ledger base caught position) (lossy : ¬ lossless)
    {later : Nat} (ordered : position ≤ later) :
    Accounts lossless puts ledger base caught later := by
  have passed := accounts.passed
  exact
    { opened := accounts.opened
      passed := by omega
      sent := accounts.sent
      fresh := accounts.fresh
      received :=
        accounts.received.trans ((List.take_sublist_take_left ordered).drop base)
      taken := fun exact => absurd exact lossy }

namespace ReaderSound

variable {ring : RingBuffer α} {puts : List α} {ledger : Option (Ledger α)}

section

variable (backed : Backed slots ring puts) (positive : 0 < slots)
include backed positive

theorem reopened (offset : ring.readoffsets.find? callId = some ring.endPos) :
    ReaderSound slots lossless ring puts callId (some Ledger.opened) :=
  ⟨_, _, _, backed.located_at_end positive offset, Accounts.opened_at_end puts⟩

private theorem created (reader : ReaderSound slots lossless ring puts callId ledger) :
    ReaderSound slots lossless (ring.createReadOffset callId) puts callId
      (some (ledger.getD Ledger.opened)) := by
  have placed : (ring.createReadOffset callId).readoffsets.find? callId =
      some ((ring.readoffsets.find? callId).getD ring.endPos) := by
    change (ring.readoffsets.emplace callId ring.endPos).find? callId = _
    rw [AssocMap.find?_emplace, if_pos rfl]
  cases ledger with
  | none =>
    have missing : ring.readoffsets.find? callId = none := reader
    rw [missing] at placed
    exact reopened ⟨backed.endPos, backed.cells⟩ positive placed
  | some ledger =>
    have same : SameFor callId ring (ring.createReadOffset callId) := by
      obtain ⟨base, caught, position, located, accounts⟩ := reader
      refine ⟨rfl, rfl, ?_⟩
      rw [placed, located.offset, Option.getD_some]
    exact reader.sameFor same

private theorem put (frame : α) (reader : ReaderSound slots lossless ring puts callId ledger)
    (kept : lossless → ring.hasThisReadOffset callId = true →
      ring.getLength callId ≠ ring.buffer.length - 1) :
    ReaderSound slots lossless (ring.putToBuffer frame) (puts ++ [frame]) callId
      (ledger.map (fun ledger => ledger.put frame)) := by
  cases ledger with
  | none =>
    change (ring.putToBuffer frame).readoffsets.find? callId = none
    rw [backed.put_readoffsets positive]
    exact reader
  | some ledger =>
    obtain ⟨base, caught, position, located, accounts⟩ := reader
    have near := located.near
    have counted := accounts.put located.reached frame
    rcases Nat.lt_or_ge (puts.length + 1) (position + slots) with inside | full
    · exact ⟨base, caught, position, located.put frame inside, counted⟩
    · have lossy : ¬ lossless := by
        intro exact
        refine kept exact ?_ ?_
        · change (ring.readoffsets.find? callId).isSome = true
          rw [located.offset]
          rfl
        · rw [located.getLength_eq, located.cells.1]
          omega
      exact ⟨base, caught, position + slots, located.put_lapping frame (by omega),
        counted.lapped lossy (Nat.le_add_right _ _)⟩

end

private theorem get (reader : ReaderSound slots lossless ring puts callId ledger) :
    ReaderSound slots lossless (ring.get callId).2 puts callId
      (ledger.map (fun ledger =>
        (ledger.take (ring.get callId).1.toList ((ring.get callId).2.getLength callId)).receive
          (ring.get callId).1.toList)) := by
  cases ledger with
  | none =>
    have missing : ring.readoffsets.find? callId = none := reader
    have unchanged : ring.get callId = (none, ring) := by simp only [RingBuffer.get, missing]
    rw [unchanged]
    exact reader
  | some ledger =>
    obtain ⟨base, caught, position, located, accounts⟩ := reader
    rcases Nat.lt_or_ge position puts.length with unread | atEnd
    · have moved := located.advance 1 unread
      have next : (puts.drop position).take 1 = [puts[position]] := by
        rw [List.drop_eq_getElem_cons unread, List.take_succ_cons, List.take_zero]
      obtain ⟨caught', counted⟩ := accounts.take 1 unread
      have ordered : base ≤ position := accounts.opened.trans accounts.passed
      have received := counted.receive 1 located.reached ordered
        (by rw [Ledger.take_received]; exact accounts.received)
      rw [next, ← moved.getLength_eq] at received
      rw [located.get_eq_some unread]
      exact ⟨base, caught', position + 1, moved, received⟩
    · have final : position = puts.length := Nat.le_antisymm located.reached atEnd
      rw [located.get_eq_none final]
      refine ⟨base, caught, position, located, ?_⟩
      simpa only [Option.toList_none, Ledger.take_nil, Ledger.receive_nil] using accounts

theorem discard (reader : ReaderSound slots lossless ring puts callId ledger) (toDiscard : Nat) :
    ReaderSound slots lossless (ring.discard toDiscard callId).2 puts callId
      (ledger.map (fun ledger =>
        ledger.take ((ring.drain callId).take (ring.discard toDiscard callId).1)
          ((ring.discard toDiscard callId).2.getLength callId))) := by
  cases ledger with
  | none =>
    have missing : ring.readoffsets.find? callId = none := reader
    have unchanged : ring.discard toDiscard callId = (0, ring) := by
      simp only [RingBuffer.discard, missing, ite_self]
    rw [unchanged]
    exact reader
  | some ledger =>
    obtain ⟨base, caught, position, located, accounts⟩ := reader
    have reached := located.reached
    have within : position + min toDiscard (puts.length - position) ≤ puts.length := by omega
    have moved := located.advance _ within
    obtain ⟨caught', counted⟩ := accounts.take _ within
    rw [← moved.getLength_eq, ← located.drain_eq] at counted
    rw [located.discard_eq toDiscard]
    exact ⟨base, caught', _, moved, counted⟩

private theorem flush (backed : Backed slots ring puts) (positive : 0 < slots)
    (reader : ReaderSound slots lossless ring puts callId ledger) {changed : RingBuffer α}
    (endPos : changed.endPos = ring.endPos) (buffer : changed.buffer = ring.buffer)
    (offset : changed.readoffsets.find? callId =
      (ring.readoffsets.find? callId).map (fun _ => ring.endPos)) :
    ReaderSound slots lossless changed puts callId (ledger.map (fun _ => Ledger.opened)) := by
  cases ledger with
  | none =>
    have missing : ring.readoffsets.find? callId = none := reader
    rw [missing] at offset
    exact offset
  | some ledger =>
    obtain ⟨base, caught, position, located, accounts⟩ := reader
    rw [located.offset, ← endPos] at offset
    refine reopened ⟨endPos.trans backed.endPos, ?_⟩ positive offset
    rw [buffer]
    exact backed.cells

private theorem of_owner {recorded : Option (Ledger α)} {other : String}
    (mine : other = callId → ReaderSound slots lossless ring puts callId recorded)
    (others : callId ≠ other → ReaderSound slots lossless ring puts callId ledger) :
    ReaderSound slots lossless ring puts callId (if other = callId then recorded else ledger) := by
  split
  · rename_i same
    exact mine same
  · rename_i different
    exact others (Ne.symm different)

end ReaderSound

theorem get_unwritten (ring : RingBuffer α) (callId : String) :
    (ring.get callId).2.endPos = ring.endPos ∧ (ring.get callId).2.buffer = ring.buffer := by
  unfold get
  cases ring.readoffsets.find? callId with
  | none => exact ⟨rfl, rfl⟩
  | some startPos =>
    simp only
    split
    · exact ⟨rfl, rfl⟩
    · split <;> exact ⟨rfl, rfl⟩

theorem discard_unwritten (ring : RingBuffer α) (toDiscard : Nat) (callId : String) :
    (ring.discard toDiscard callId).2.endPos = ring.endPos ∧
      (ring.discard toDiscard callId).2.buffer = ring.buffer := by
  unfold discard
  simp only
  split
  · exact ⟨rfl, rfl⟩
  · cases ring.readoffsets.find? callId <;> exact ⟨rfl, rfl⟩

variable {tracked : Tracked α}

theorem Backed.step (backed : Backed slots tracked.ring tracked.puts) (positive : 0 < slots)
    (callId : String) (op : Op α) :
    Backed slots (tracked.step callId op).ring (tracked.step callId op).puts := by
  have unwritten {changed : RingBuffer α} (endPos : changed.endPos = tracked.ring.endPos)
      (buffer : changed.buffer = tracked.ring.buffer) : Backed slots changed tracked.puts :=
    ⟨endPos.trans backed.endPos, by rw [buffer]; exact backed.cells⟩
  cases op with
  | createReadOffset other => exact unwritten rfl rfl
  | removeReadOffset other => exact unwritten rfl rfl
  | put frame => exact backed.put positive frame
  | get other =>
    obtain ⟨endPos, buffer⟩ := get_unwritten tracked.ring other
    exact unwritten endPos buffer
  | discard toDiscard other =>
    obtain ⟨endPos, buffer⟩ := discard_unwritten tracked.ring toDiscard other
    exact unwritten endPos buffer
  | flush other => exact unwritten rfl rfl
  | flushAll => exact unwritten rfl rfl

theorem Sound.step (sound : Sound slots lossless callId tracked) (op : Op α)
    (kept : lossless → ¬ Lapping callId tracked op) :
    Sound slots lossless callId (tracked.step callId op) := by
  refine ⟨sound.positive, sound.backed.step sound.positive callId op, ?_⟩
  have reader := sound.reader
  cases op with
  | createReadOffset other =>
    refine .of_owner (fun same => ?_) (fun different => ?_)
    · subst other
      exact reader.created sound.backed sound.positive
    · exact reader.sameFor (createReadOffset_sameFor tracked.ring different)
  | removeReadOffset other =>
    refine .of_owner (fun same => ?_) (fun different => ?_)
    · subst other
      exact (AssocMap.find?_erase _ _ _).trans (if_pos rfl)
    · exact reader.sameFor (removeReadOffset_sameFor tracked.ring different)
  | put frame =>
    exact reader.put sound.backed sound.positive frame
      (fun exact present full => kept exact ⟨present, full⟩)
  | get other =>
    refine .of_owner (fun same => ?_) (fun different => ?_)
    · subst other
      exact reader.get
    · exact reader.sameFor (get_sameFor tracked.ring different)
  | discard toDiscard other =>
    refine .of_owner (fun same => ?_) (fun different => ?_)
    · subst other
      exact reader.discard toDiscard
    · exact reader.sameFor (discard_sameFor tracked.ring different toDiscard)
  | flush other =>
    refine .of_owner (fun same => ?_) (fun different => ?_)
    · subst other
      refine reader.flush sound.backed sound.positive rfl rfl ?_
      exact (AssocMap.find?_modify _ _ _ _).trans (if_pos rfl)
    · exact reader.sameFor (storeReadOffset_sameFor tracked.ring different _)
  | flushAll =>
    refine reader.flush sound.backed sound.positive rfl rfl ?_
    exact AssocMap.find?_mapValues _ _ _

/-! ### What the reader is promised -/

/-- What has been and will be returned is a subsequence of what was put, and of
the `k` frames put since the reader last had everything, the newest
`min k (N - 1)` have been taken or are still returned. -/
def Delivers (callId : String) (tracked : Tracked α) : Prop :=
  match tracked.ledger with
  | none => True
  | some ledger =>
    let pending := tracked.ring.drain callId
    let k := ledger.fresh.length
    (ledger.received ++ pending).Sublist ledger.sent ∧
      ledger.fresh.drop (k - min k (tracked.ring.buffer.length - 1)) <:+ ledger.taken ++ pending

instance decidableDelivers [DecidableEq α] (callId : String) (tracked : Tracked α) :
    Decidable (Delivers callId tracked) :=
  match tracked with
  | ⟨_, _, none⟩ => isTrue trivial
  | ⟨_, _, some _⟩ => inferInstanceAs (Decidable (_ ∧ _))

/-- The part of the promise that no lap can break. -/
def InOrder (callId : String) (tracked : Tracked α) : Prop :=
  match tracked.ledger with
  | none => True
  | some ledger => (ledger.received ++ tracked.ring.drain callId).Sublist ledger.sent

theorem take_drop_append_drop (puts : List α) {low position : Nat} (ordered : low ≤ position)
    (reached : position ≤ puts.length) :
    (puts.take position).drop low ++ puts.drop position = puts.drop low := by
  have rest : (puts.drop position).take (puts.length - position) = puts.drop position :=
    List.take_of_length_le (by rw [List.length_drop])
  have whole := take_drop_split puts (puts.length - position) ordered reached
  rw [Nat.add_sub_cancel' reached, List.take_length, rest] at whole
  exact whole.symm

theorem Sound.inOrder (sound : Sound slots lossless callId tracked) : InOrder callId tracked := by
  obtain ⟨ring, puts, ledger⟩ := tracked
  cases ledger with
  | none => trivial
  | some ledger =>
    obtain ⟨base, caught, position, located, accounts⟩ := sound.reader
    change (ledger.received ++ ring.drain callId).Sublist ledger.sent
    have ordered := accounts.opened.trans accounts.passed
    rw [located.drain_eq, accounts.sent, ← take_drop_append_drop puts ordered located.reached]
    exact accounts.received.append (.refl _)

theorem Sound.delivers (sound : Sound slots True callId tracked) : Delivers callId tracked := by
  have inOrder := sound.inOrder
  obtain ⟨ring, puts, ledger⟩ := tracked
  cases ledger with
  | none => trivial
  | some ledger =>
    refine ⟨inOrder, ?_⟩
    obtain ⟨base, caught, position, located, accounts⟩ := sound.reader
    rw [located.drain_eq, accounts.taken trivial,
      take_drop_append_drop puts accounts.passed located.reached, ← accounts.fresh]
    exact List.drop_suffix _ _

/-- A lap leaves the reader with nothing to read, so a frame that was never put
before is gone with it. -/
theorem Sound.not_delivers_of_lapping (several : 2 ≤ slots)
    (sound : Sound slots True callId tracked) {frame : α} (unseen : frame ∉ tracked.puts)
    (lapping : Lapping callId tracked (.put frame)) :
    ¬ Delivers callId (tracked.step callId (.put frame)) := by
  obtain ⟨ring, puts, ledger⟩ := tracked
  obtain ⟨present, full⟩ := lapping
  cases ledger with
  | none =>
    have missing : ring.readoffsets.find? callId = none := sound.reader
    simp [hasThisReadOffset, AssocMap.contains, missing] at present
  | some ledger =>
    intro delivers
    obtain ⟨base, caught, position, located, accounts⟩ := sound.reader
    have length : ring.getLength callId = puts.length - position := located.getLength_eq
    have size : ring.buffer.length = slots := located.cells.1
    change ring.getLength callId = ring.buffer.length - 1 at full
    have lapped := located.put_lapping frame (by change puts.length + 1 = _; omega)
    have nothing : (ring.putToBuffer frame).drain callId = [] := by
      rw [lapped.drain_eq, List.drop_eq_nil_of_le]
      simp only [List.length_append, List.length_singleton]
      omega
    have resized : (ring.putToBuffer frame).buffer.length = slots := lapped.cells.1
    have newest := delivers.2
    change (ledger.fresh ++ [frame]).drop ((ledger.fresh ++ [frame]).length -
      min (ledger.fresh ++ [frame]).length ((ring.putToBuffer frame).buffer.length - 1)) <:+
        ledger.taken ++ (ring.putToBuffer frame).drain callId at newest
    rw [nothing, List.append_nil, List.length_append, List.length_singleton,
      List.drop_append_of_le_length (by omega)] at newest
    have taken : frame ∈ ledger.taken := newest.mem (by simp)
    rw [accounts.taken trivial] at taken
    exact unseen (List.mem_of_mem_take (List.mem_of_mem_drop taken))

private theorem unseen_of_nodup (callId : String) (tracked : Tracked α) (ops : List (Op α))
    (distinct : (tracked.puts ++ framesPut ops).Nodup) :
    Guarded (Tracked.step callId) (fun tracked op => ∀ frame, op = .put frame →
      frame ∉ tracked.puts) tracked ops := by
  induction ops generalizing tracked with
  | nil => trivial
  | cons op rest ih =>
    cases op with
    | put frame =>
      constructor
      · intro other same member
        cases same
        exact List.disjoint_of_nodup_append distinct member List.mem_cons_self
      · apply ih
        change ((tracked.puts ++ [frame]) ++ framesPut rest).Nodup
        rw [List.append_assoc]
        exact distinct
    | createReadOffset _ | removeReadOffset _ | get _ | discard _ _ | flush _ | flushAll =>
      refine ⟨fun _ impossible => ?_, ih _ distinct⟩
      cases impossible

/-- Whatever the writer and the other readers do, reads stay in order; and the
newest frames are kept exactly as long as the writer completes no lap on the
reader. Distinct frames make a loss visible. -/
theorem delivery_iff_never_lapped (slots : Nat) (several : 2 ≤ slots) (callId : String)
    (ops : List (Op α)) :
    let start : Tracked α := Tracked.create slots
    let neverLapped := Guarded (Tracked.step callId)
      (fun tracked op => ¬ Lapping callId tracked op) start ops
    let delivered := Always (Tracked.step callId) (Delivers callId) start ops
    Always (Tracked.step callId) (InOrder callId) start ops ∧
      (neverLapped → delivered) ∧
      ((framesPut ops).Nodup → delivered → neverLapped) := by
  intro start neverLapped delivered
  have positive : 0 < slots := by omega
  have preserved : ∀ (tracked : Tracked α) op, Sound slots True callId tracked →
      ¬ Lapping callId tracked op → Sound slots True callId (tracked.step callId op) :=
    fun tracked op sound admissible => sound.step op (fun _ => admissible)
  refine ⟨?_, ?_, ?_⟩
  · have always : Always (Tracked.step callId) (Sound slots False callId) start ops :=
      always_of_preserved (fun tracked op sound => sound.step op False.elim)
        (sound_create positive) ops
    exact always.imp (fun tracked sound => sound.inOrder)
  · intro guarded
    have always := always_of_guarded preserved (sound_create positive) guarded
    exact always.imp (fun tracked sound => sound.delivers)
  · intro distinct always
    refine guarded_of_always preserved ?_ (sound_create positive)
      (unseen_of_nodup callId start ops distinct) always
    intro tracked op sound unseen inadmissible
    have lapping := Decidable.not_not.mp inadmissible
    cases op with
    | put frame => exact sound.not_delivers_of_lapping several (unseen frame rfl) lapping
    | createReadOffset _ | removeReadOffset _ | get _ | discard _ _ | flush _ | flushAll =>
      exact False.elim lapping

/-- A reader that keeps up, among them one put with a single frame pending. -/
theorem delivery_of_two_frames :
    Always (Tracked.step "call") (Delivers "call") (Tracked.create defaultSlots)
      [.createReadOffset "call", .put 1, .put 2, .get "call", .put 3] :=
  (delivery_iff_never_lapped defaultSlots (by decide) "call" _).2.1 (by decide)

/-- Sixteen frames for a reader that was just created: all of them are lost. -/
theorem delivery_fails_after_one_lap :
    let ops := Op.createReadOffset "call" :: (List.range 16).map Op.put
    (after (Tracked.step "call") (Tracked.create defaultSlots) ops).ring.drain "call" = [] ∧
      ¬ Delivers "call" (after (Tracked.step "call") (Tracked.create defaultSlots) ops) := by
  decide

end SipCore.RingBuffer
