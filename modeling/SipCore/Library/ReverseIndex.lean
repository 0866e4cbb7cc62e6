/-
A table together with an index from the handles of its objects back to their keys.
The two invert each other when the index holds exactly the handles of the stored
objects, each with its key. Storing an object with a new handle under a free key,
and dropping an entry from both sides, keep that.
-/

import SipCore.Library.AssocMap

namespace SipCore.ReverseIndex

variable {κ ω η : Type} [DecidableEq κ] [DecidableEq η]

def Inverts (table : AssocMap κ ω) (handle : ω → Option η) (index : AssocMap η κ) : Prop :=
  ∀ h key, index.find? h = some key ↔
    ∃ object, table.find? key = some object ∧ handle object = some h

variable {table : AssocMap κ ω} {handle : ω → Option η} {index : AssocMap η κ}

theorem Inverts.empty : Inverts (.empty : AssocMap κ ω) handle .empty := by
  intro h key
  simp

variable {h : η}

theorem Inverts.not_stored (inverts : Inverts table handle index) {object : ω}
    (own : handle object = some h) (unknown : index.find? h = none) (key : κ) :
    table.find? key ≠ some object := by
  intro stored
  have known := (inverts h key).mpr ⟨object, stored, own⟩
  rw [unknown] at known
  cases known

theorem Inverts.insert (inverts : Inverts table handle index) {key : κ} {object : ω}
    (free : table.find? key = none) (own : handle object = some h) (unknown : index.find? h = none) :
    Inverts (table.assign key object) handle (index.assign h key) := by
  intro other place
  rw [AssocMap.find?_assign, AssocMap.find?_assign]
  by_cases sameHandle : other = h
  · subst other
    rw [if_pos rfl]
    constructor
    · intro found
      cases found
      exact ⟨object, if_pos rfl, own⟩
    · rintro ⟨stored, found, handled⟩
      split at found
      · rename_i sameKey
        rw [sameKey]
      · have known := (inverts h place).mpr ⟨stored, found, handled⟩
        rw [unknown] at known
        cases known
  · rw [if_neg sameHandle, inverts]
    constructor
    · rintro ⟨stored, found, handled⟩
      refine ⟨stored, ?_, handled⟩
      rw [if_neg, found]
      intro sameKey
      rw [sameKey, free] at found
      cases found
    · rintro ⟨stored, found, handled⟩
      split at found
      · cases found
        rw [own] at handled
        exact absurd (Option.some.inj handled).symm sameHandle
      · exact ⟨stored, found, handled⟩

theorem Inverts.remove (inverts : Inverts table handle index) {key : κ}
    (known : index.find? h = some key) : Inverts (table.erase key) handle (index.erase h) := by
  obtain ⟨object, stored, own⟩ := (inverts h key).mp known
  intro other place
  rw [AssocMap.find?_erase, AssocMap.find?_erase]
  by_cases sameHandle : other = h
  · subst other
    rw [if_pos rfl]
    constructor
    · intro impossible
      cases impossible
    · rintro ⟨kept, found, handled⟩
      split at found
      · cases found
      · rename_i different
        have again := (inverts h place).mpr ⟨kept, found, handled⟩
        rw [known] at again
        exact absurd (Option.some.inj again).symm different
  · rw [if_neg sameHandle, inverts]
    constructor
    · rintro ⟨kept, found, handled⟩
      refine ⟨kept, ?_, handled⟩
      rw [if_neg, found]
      intro sameKey
      rw [sameKey, stored] at found
      cases found
      rw [own] at handled
      exact absurd (Option.some.inj handled).symm sameHandle
    · rintro ⟨kept, found, handled⟩
      split at found
      · cases found
      · exact ⟨kept, found, handled⟩

theorem Inverts.congr {changed : ω → Option η} (inverts : Inverts table handle index)
    (same : ∀ key object, table.find? key = some object → changed object = handle object) :
    Inverts table changed index := by
  intro h key
  rw [inverts]
  constructor
  · rintro ⟨object, stored, own⟩
    exact ⟨object, stored, (same key object stored).trans own⟩
  · rintro ⟨object, stored, own⟩
    exact ⟨object, stored, (same key object stored).symm.trans own⟩

end SipCore.ReverseIndex
