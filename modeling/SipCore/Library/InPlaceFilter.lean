/-
Removal loops over an array that shrinks while it is scanned. `eraseWhile` looks
for one more item each time and takes it out; `sweep` goes over the array once,
takes out what is not kept, does something for each such item, and stays where it
is. A loop that does not end within its fuel has no result. Both end, and what is
left is the filtered list.
-/

import Mathlib.Data.List.Basic

namespace SipCore.InPlace

variable {α σ : Type}

def eraseWhile (found : α → Bool) : Nat → List α → Option (List α)
  | 0, _ => none
  | fuel + 1, items =>
    match items.findIdx? found with
    | none => some items
    | some index => eraseWhile found fuel (items.eraseIdx index)

theorem filter_eraseIdx {keep : α → Bool} {items : List α} {index : Nat}
    (inside : index < items.length) (dropped : keep items[index] = false) :
    (items.eraseIdx index).filter keep = items.filter keep := by
  have split : items = items.take index ++ items[index] :: items.drop (index + 1) := by
    rw [List.getElem_cons_drop, List.take_append_drop]
  rw [List.eraseIdx_eq_take_drop_succ]
  conv => rhs; rw [split]
  rw [List.filter_append, List.filter_append, List.filter_cons_of_neg (by rw [dropped]; simp)]

theorem eraseWhile_eq (found : α → Bool) (fuel : Nat) (items : List α)
    (enough : items.length < fuel) :
    eraseWhile found fuel items = some (items.filter (fun item => !found item)) := by
  induction fuel generalizing items with
  | zero => exact absurd enough (Nat.not_lt_zero _)
  | succ fuel ih =>
    unfold eraseWhile
    cases searched : items.findIdx? found with
    | none =>
      have kept : ∀ item ∈ items, (!found item) = true := by
        intro item member
        rw [List.findIdx?_eq_none_iff.mp searched item member]
        rfl
      rw [List.filter_eq_self.mpr kept]
    | some index =>
      rcases List.findIdx?_eq_some_iff_getElem.mp searched with ⟨inside, here, _⟩
      dsimp only
      rw [ih _ (by rw [List.length_eraseIdx_of_lt inside]; omega),
        filter_eraseIdx inside (by rw [here]; rfl)]

def sweep (keep : α → Bool) (act : σ → α → Option σ) :
    Nat → Nat → σ → List α → Option (σ × List α)
  | 0, _, _, _ => none
  | fuel + 1, index, state, items =>
    match items[index]? with
    | none => some (state, items)
    | some item =>
      if keep item then sweep keep act fuel (index + 1) state items
      else
        match act state item with
        | none => none
        | some next => sweep keep act fuel index next (items.eraseIdx index)

theorem sweep_eq (keep : α → Bool) {act : σ → α → Option σ} {next : σ → α → σ}
    (acts : ∀ state item, act state item = some (next state item))
    (fuel index : Nat) (state : σ) (items : List α) (enough : items.length - index < fuel) :
    sweep keep act fuel index state items =
      some (((items.drop index).filter (fun item => !keep item)).foldl next state,
        items.take index ++ (items.drop index).filter keep) := by
  induction fuel generalizing index state items with
  | zero => exact absurd enough (Nat.not_lt_zero _)
  | succ fuel ih =>
    unfold sweep
    cases reached : items[index]? with
    | none =>
      have beyond := List.getElem?_eq_none_iff.mp reached
      rw [List.drop_of_length_le beyond, List.take_of_length_le beyond]
      simp
    | some item =>
      rcases List.getElem?_eq_some_iff.mp reached with ⟨inside, here⟩
      have split : items.drop index = item :: items.drop (index + 1) := by
        rw [← here, List.getElem_cons_drop]
      dsimp only
      cases kept : keep item with
      | true =>
        rw [ih (index + 1) state items (by omega), split,
          List.filter_cons_of_pos kept, List.filter_cons_of_neg (by simp [kept]),
          ← List.take_append_getElem inside, here]
        simp
      | false =>
        have shorter : (items.eraseIdx index).length - index < fuel := by
          rw [List.length_eraseIdx_of_lt inside]
          omega
        have after : (items.eraseIdx index).drop index = items.drop (index + 1) := by
          rw [List.eraseIdx_eq_take_drop_succ,
            List.drop_left' (List.length_take_of_le (Nat.le_of_lt inside))]
        have before : (items.eraseIdx index).take index = items.take index := by
          rw [List.eraseIdx_eq_take_drop_succ,
            List.take_left' (List.length_take_of_le (Nat.le_of_lt inside))]
        rw [acts]
        dsimp only
        rw [ih index (next state item) (items.eraseIdx index) shorter, after, before, split,
          List.filter_cons_of_pos (by simp [kept]), List.filter_cons_of_neg (by simp [kept])]
        rfl

theorem filter_eq_filter_iff {first second : α → Bool} {items : List α} :
    items.filter first = items.filter second ↔ ∀ item ∈ items, first item = second item := by
  constructor
  · intro same item member
    rw [Bool.eq_iff_iff]
    have kept : item ∈ items.filter first ↔ item ∈ items.filter second := by rw [same]
    simpa only [List.mem_filter, member, true_and] using kept
  · exact List.filter_congr

end SipCore.InPlace
