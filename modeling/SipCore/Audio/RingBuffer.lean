/-
The frame ring buffer: one writer, any number of named readers. Slots hold shared frame
pointers, so a slot is an `Option`; a reader is an offset into the slots. Locks are
dropped, every public call is one step.
-/

import SipCore.Library.AssocMap
import SipCore.Library.CircularPosition

namespace SipCore

open Circular

structure RingBuffer (α : Type) where
  endPos : Nat
  buffer : List (Option α)
  readoffsets : AssocMap String Nat

namespace RingBuffer

variable {α : Type}

def defaultSlots : Nat := 16

def create (slots : Nat) : RingBuffer α :=
  { endPos := 0
    buffer := List.replicate slots none
    readoffsets := AssocMap.empty }

def hasNoReadOffsets (ring : RingBuffer α) : Bool :=
  ring.readoffsets.entries.isEmpty

def hasThisReadOffset (ring : RingBuffer α) (callId : String) : Bool :=
  ring.readoffsets.contains callId

def getReadOffset (ring : RingBuffer α) (callId : String) : Nat :=
  (ring.readoffsets.find? callId).getD 0

def getSmallestReadOffset (ring : RingBuffer α) : Nat :=
  if ring.hasNoReadOffsets then 0
  else ring.readoffsets.values.foldl min ring.buffer.length

def putLength (ring : RingBuffer α) : Nat :=
  let bufferSize := ring.buffer.length
  if bufferSize = 0 then 0
  else distance bufferSize ring.endPos ring.getSmallestReadOffset

def getLength (ring : RingBuffer α) (callId : String) : Nat :=
  let bufferSize := ring.buffer.length
  if bufferSize = 0 then 0
  else distance bufferSize ring.endPos (ring.getReadOffset callId)

def availableForGet (ring : RingBuffer α) (callId : String) : Nat := ring.getLength callId

def storeReadOffset (ring : RingBuffer α) (offset : Nat) (callId : String) : RingBuffer α :=
  { ring with readoffsets := ring.readoffsets.modify callId (fun _ => offset) }

def createReadOffset (ring : RingBuffer α) (callId : String) : RingBuffer α :=
  { ring with readoffsets := ring.readoffsets.emplace callId ring.endPos }

def removeReadOffset (ring : RingBuffer α) (callId : String) : RingBuffer α :=
  { ring with readoffsets := ring.readoffsets.erase callId }

def flush (ring : RingBuffer α) (callId : String) : RingBuffer α :=
  ring.storeReadOffset ring.endPos callId

def flushAll (ring : RingBuffer α) : RingBuffer α :=
  { ring with readoffsets := ring.readoffsets.mapValues (fun _ => ring.endPos) }

def discardAll (ring : RingBuffer α) (toDiscard : Nat) : RingBuffer α :=
  let bufferSize := ring.buffer.length
  if bufferSize = 0 then ring
  else
    { ring with
      readoffsets := ring.readoffsets.mapValues (fun offset =>
        let dst := distance bufferSize offset ring.endPos
        if dst < toDiscard then (offset + toDiscard - dst) % bufferSize else offset) }

def store (ring : RingBuffer α) (data : α) : RingBuffer α :=
  { ring with
    buffer := ring.buffer.set ring.endPos (some data)
    endPos := (ring.endPos + 1) % ring.buffer.length }

def putToBuffer (ring : RingBuffer α) (data : α) : RingBuffer α :=
  let bufferSize := ring.buffer.length
  if bufferSize = 0 then ring
  else
    let len := bufferSize - ring.putLength
    if len = 0 then (ring.discardAll 1).store data else ring.store data

def get (ring : RingBuffer α) (callId : String) : Option α × RingBuffer α :=
  match ring.readoffsets.find? callId with
  | none => (none, ring)
  | some startPos =>
    let bufferSize := ring.buffer.length
    if bufferSize = 0 then (none, ring)
    else
      let len := distance bufferSize ring.endPos startPos
      if len = 0 then (none, ring)
      else (ring.buffer[startPos]?.join,
        ring.storeReadOffset ((startPos + 1) % bufferSize) callId)

def discard (ring : RingBuffer α) (toDiscard : Nat) (callId : String) : Nat × RingBuffer α :=
  let bufferSize := ring.buffer.length
  if bufferSize = 0 then (0, ring)
  else
    match ring.readoffsets.find? callId with
    | none => (0, ring)
    | some offset =>
      let len := distance bufferSize ring.endPos offset
      let discarded := min toDiscard len
      (discarded, ring.storeReadOffset ((offset + discarded) % bufferSize) callId)

def getMany : Nat → RingBuffer α → String → List α
  | 0, _, _ => []
  | count + 1, ring, callId =>
    match ring.get callId with
    | (none, _) => []
    | (some frame, rest) => frame :: getMany count rest callId

/-- Everything the reader still gets if nothing is written in between. A reader
is never more than the number of slots behind, so that many reads drain it. -/
def drain (ring : RingBuffer α) (callId : String) : List α :=
  getMany ring.buffer.length ring callId

section

variable (ring : RingBuffer α) (slots : ring.buffer.length ≠ 0)
include slots

theorem putLength_lt : ring.putLength < ring.buffer.length := by
  simp only [putLength, if_neg slots]
  exact distance_lt (Nat.pos_of_ne_zero slots) _ _

theorem putToBuffer_eq_store (data : α) : ring.putToBuffer data = ring.store data := by
  have room : ring.buffer.length - ring.putLength ≠ 0 := by
    have bound := ring.putLength_lt slots
    omega
  simp only [putToBuffer, if_neg slots, if_neg room]

@[simp] theorem putToBuffer_readoffsets (data : α) :
    (ring.putToBuffer data).readoffsets = ring.readoffsets := by
  rw [putToBuffer_eq_store ring slots]
  rfl

end

end RingBuffer

end SipCore
