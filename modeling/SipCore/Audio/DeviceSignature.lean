/-
The signature of the audio devices. Names are strings of bytes. The shown names of
a section are sorted and each is ended by a bar; nothing in a name is escaped, so
a name may hold the bar, or what begins the second section.
-/

import Mathlib.Data.List.Sort

namespace SipCore.DeviceSignature

abbrev Name := List UInt8

def bytes (text : String) : Name := text.toList.map (fun char => UInt8.ofNat char.toNat)

def vpAggregate : Name := bytes "VPAUAggregateAudioDevice"

def shouldIgnoreDeviceName (name : Name) : Bool := vpAggregate.isPrefixOf name

def shown (names : List Name) : List Name := names.filter (fun name => !shouldIgnoreDeviceName name)

def sorted (names : List Name) : List Name := (shown names).insertionSort (· ≤ ·)

def bar : UInt8 := 0x7C

def appendSection (tag : Name) (names : List Name) : Name :=
  tag ++ bytes ":" ++ (sorted names).flatMap (fun name => name ++ [bar]) ++ bytes ";"

def makeDeviceSignature (captureNames playbackNames : List Name) : Name :=
  appendSection (bytes "c") captureNames ++ appendSection (bytes "p") playbackNames

def SameDevices (capture playback otherCapture otherPlayback : List Name) : Prop :=
  (shown capture).Perm (shown otherCapture) ∧ (shown playback).Perm (shown otherPlayback)

/-- No shown name holds a bar, and no shown capture name begins like the second section. -/
structure Plain (capture playback : List Name) : Prop where
  bars : ∀ name ∈ shown capture ++ shown playback, bar ∉ name
  lead : ∀ name ∈ shown capture, ¬ bytes ";p:" <+: name

private theorem perm_sorted (names : List Name) : (sorted names).Perm (shown names) :=
  List.perm_insertionSort _ _

private theorem sorted_eq_iff (names other : List Name) :
    sorted names = sorted other ↔ (shown names).Perm (shown other) := by
  constructor
  · intro same
    exact (perm_sorted names).symm.trans (same ▸ perm_sorted other)
  · intro same
    apply List.Perm.eq_of_pairwise (fun left right _ _ => List.le_antisymm)
    · exact List.pairwise_insertionSort (· ≤ ·) (shown names)
    · exact List.pairwise_insertionSort (· ≤ ·) (shown other)
    · exact ((perm_sorted names).trans same).trans (perm_sorted other).symm

def joined (names : List Name) : Name := names.flatMap (fun name => name ++ [bar])

private theorem makeDeviceSignature_eq (capture playback : List Name) :
    makeDeviceSignature capture playback =
      bytes "c:" ++ (joined (sorted capture) ++
        (bytes ";p:" ++ (joined (sorted playback) ++ bytes ";"))) := by
  have first : bytes "c:" = bytes "c" ++ bytes ":" := by decide
  have second : bytes ";p:" = bytes ";" ++ (bytes "p" ++ bytes ":") := by decide
  unfold makeDeviceSignature appendSection joined
  rw [first, second]
  simp only [List.append_assoc]

/-- A reordering never changes the signature. -/
theorem signature_eq_of_sameDevices {capture playback otherCapture otherPlayback : List Name}
    (same : SameDevices capture playback otherCapture otherPlayback) :
    makeDeviceSignature capture playback = makeDeviceSignature otherCapture otherPlayback := by
  rw [makeDeviceSignature_eq, makeDeviceSignature_eq, (sorted_eq_iff _ _).mpr same.1,
    (sorted_eq_iff _ _).mpr same.2]

private theorem lead_isPrefix_iff {lead front rest : Name} (plain : bar ∉ lead) :
    lead <+: front ++ bar :: rest ↔ lead <+: front := by
  constructor
  · intro ⟨behind, same⟩
    rcases List.append_eq_append_iff.mp same with ⟨more, within, _⟩ | ⟨more, within, beyond⟩
    · exact ⟨more, within.symm⟩
    · cases more with
      | nil =>
        refine ⟨[], ?_⟩
        rw [List.append_nil, within, List.append_nil]
      | cons byte more =>
        injection beyond with here _
        subst here within
        simp at plain
  · intro starts
    exact starts.trans (List.prefix_append _ _)

private theorem bar_cut {front other rest otherRest : Name} (plain : bar ∉ front)
    (otherPlain : bar ∉ other) (same : front ++ bar :: rest = other ++ bar :: otherRest) :
    front = other ∧ rest = otherRest := by
  have within := (lead_isPrefix_iff plain).mp (same ▸ List.prefix_append front _)
  have around := (lead_isPrefix_iff otherPlain).mp (same ▸ List.prefix_append other _)
  have equal := within.eq_of_length (Nat.le_antisymm within.length_le around.length_le)
  subst equal
  injection List.append_cancel_left same with _ equal
  exact ⟨rfl, equal⟩

-- Both lists are read name by name; neither can end while the other one goes on.
private theorem joined_inj {names others : List Name} {rest otherRest : Name}
    (plain : ∀ name ∈ names, bar ∉ name) (otherPlain : ∀ name ∈ others, bar ∉ name)
    (ends : ∀ name ∈ others, ∀ more, rest ≠ name ++ bar :: more)
    (otherEnds : ∀ name ∈ names, ∀ more, otherRest ≠ name ++ bar :: more)
    (same : joined names ++ rest = joined others ++ otherRest) :
    names = others ∧ rest = otherRest := by
  have shape : ∀ name more text, joined (name :: more) ++ text =
      name ++ bar :: (joined more ++ text) := by
    intro name more text
    unfold joined
    rw [List.flatMap_cons, List.append_assoc, List.append_assoc, List.singleton_append]
  induction names generalizing others with
  | nil =>
    cases others with
    | nil => exact ⟨rfl, same⟩
    | cons other more =>
      rw [shape] at same
      exact absurd same (ends other List.mem_cons_self _)
  | cons name names ih =>
    cases others with
    | nil =>
      rw [shape] at same
      exact absurd same.symm (otherEnds name List.mem_cons_self _)
    | cons other more =>
      rw [shape, shape] at same
      rw [List.forall_mem_cons] at plain otherPlain ends otherEnds
      have first := bar_cut plain.1 otherPlain.1 same
      have behind := ih plain.2 otherPlain.2 ends.2 otherEnds.2 first.2
      exact ⟨by rw [first.1, behind.1], behind.2⟩

private theorem begins_plain {names : List Name} (text : Name)
    (unlike : ∀ name ∈ shown names, ¬ bytes ";p:" <+: name) :
    ∀ name ∈ sorted names, ∀ more, bytes ";p:" ++ text ≠ name ++ bar :: more := by
  intro name member more same
  apply unlike name ((perm_sorted _).mem_iff.mp member)
  exact (lead_isPrefix_iff (by decide)).mp (same ▸ List.prefix_append _ text)

private theorem stops_plain (name more : Name) : bytes ";" ≠ name ++ bar :: more := by
  intro same
  have inside : bar ∈ bytes ";" := same ▸ List.mem_append_right name List.mem_cons_self
  revert inside
  decide

/-- Any two shown names in their order give the signature of one that is cut by a bar. -/
theorem signature_confuses_cut (front rest : Name) (ordered : front ≤ rest)
    (shown : shouldIgnoreDeviceName front = false ∧ shouldIgnoreDeviceName rest = false) :
    makeDeviceSignature [front ++ bar :: rest] [] = makeDeviceSignature [front, rest] [] := by
  have whole : shouldIgnoreDeviceName (front ++ bar :: rest) = false := by
    rw [Bool.eq_false_iff] at shown ⊢
    unfold shouldIgnoreDeviceName at shown ⊢
    rw [ne_eq, List.isPrefixOf_iff_prefix] at shown ⊢
    rw [lead_isPrefix_iff (by decide)]
    exact shown.1
  simp [makeDeviceSignature_eq, sorted, DeviceSignature.shown, joined, whole, shown, ordered]

-- A capture name that begins like the second section is taken for a playback name.
example : makeDeviceSignature [bytes ";p:!"] [bytes "y"] =
    makeDeviceSignature [] [bytes "!", bytes ";p:y"] := by
  decide

end SipCore.DeviceSignature
