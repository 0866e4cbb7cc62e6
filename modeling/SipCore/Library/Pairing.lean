/-
Lists related element by element: what follows for all elements of one side, for
two relations at once, and for the counts of a predicate on both sides.
-/

import Mathlib.Data.List.Forall2

namespace SipCore.Pairing

variable {α β γ : Type}

variable {lefts : List α} {rights : List β}

theorem forall_left {related : α → β → Prop} {holds : α → Prop}
    (paired : List.Forall₂ related lefts rights)
    (implied : ∀ left, ∀ right ∈ rights, related left right → holds left) :
    ∀ left ∈ lefts, holds left := by
  induction paired with
  | nil =>
    intro left member
    cases member
  | @cons first second _ rest here _ ih =>
    intro left member
    rcases List.mem_cons.mp member with rfl | later
    · exact implied left second List.mem_cons_self here
    · apply ih _ left later
      intro other right inRest
      exact implied other right (List.mem_cons_of_mem second inRest)

theorem forall_right {related : α → β → Prop} {holds : β → Prop}
    (paired : List.Forall₂ related lefts rights)
    (implied : ∀ right, ∀ left ∈ lefts, related left right → holds right) :
    ∀ right ∈ rights, holds right :=
  forall_left paired.flip implied

theorem zip {first : α → β → Prop} {second : α → γ → Prop} {items : List α} {firsts : List β}
    {seconds : List γ} (firstPaired : List.Forall₂ first items firsts)
    (secondPaired : List.Forall₂ second items seconds) :
    List.Forall₂ (fun item pair => first item pair.1 ∧ second item pair.2) items
      (firsts.zip seconds) := by
  induction firstPaired generalizing seconds with
  | nil =>
    cases secondPaired
    exact .nil
  | cons here _ ih =>
    cases secondPaired with
    | cons there rest => exact .cons ⟨here, there⟩ (ih rest)

theorem map_eq {left : α → γ} {right : β → γ}
    (paired : List.Forall₂ (fun first second => left first = right second) lefts rights) :
    lefts.map left = rights.map right := by
  induction paired with
  | nil => rfl
  | cons here _ ih => rw [List.map_cons, List.map_cons, here, ih]

theorem length_filter_eq {keepLeft : α → Bool} {keepRight : β → Bool}
    (same : lefts.map keepLeft = rights.map keepRight) :
    (lefts.filter keepLeft).length = (rights.filter keepRight).length := by
  have left := List.countP_map (p := id) (f := keepLeft) (l := lefts)
  have right := List.countP_map (p := id) (f := keepRight) (l := rights)
  rw [← List.countP_eq_length_filter, ← List.countP_eq_length_filter]
  exact left.symm.trans ((congrArg (List.countP id) same).trans right)

end SipCore.Pairing
