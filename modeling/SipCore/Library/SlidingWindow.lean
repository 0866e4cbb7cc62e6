/-
Times in a linear order, recorded in the order in which they passed, and the part of
them that lies in a closed interval. A queue that drops its oldest entries below a
cutoff keeps exactly the recorded times from the cutoff on, as long as the cutoffs do
not go back.
-/

import Mathlib.Order.Lattice
import Mathlib.Data.List.Basic

namespace SipCore.SlidingWindow

variable {τ : Type} [LinearOrder τ]

def since (cutoff : τ) (times : List τ) : List τ := times.filter (fun time => cutoff ≤ time)

def within (first last : τ) (times : List τ) : List τ :=
  times.filter (fun time => first ≤ time ∧ time ≤ last)

variable {times : List τ}

theorem mem_since {cutoff time : τ} : time ∈ since cutoff times ↔ time ∈ times ∧ cutoff ≤ time := by
  unfold since
  rw [List.mem_filter, decide_eq_true_iff]

theorem dropWhile_eq_since (ordered : times.Pairwise (· ≤ ·)) (cutoff : τ) :
    times.dropWhile (fun time => time < cutoff) = since cutoff times := by
  induction times with
  | nil => rfl
  | cons first rest ih =>
    obtain ⟨least, restOrdered⟩ := List.pairwise_cons.mp ordered
    unfold since at ih ⊢
    by_cases old : first < cutoff
    · rw [List.dropWhile_cons_of_pos (by simpa using old), ih restOrdered,
        List.filter_cons_of_neg (by simpa using old)]
    · -- nothing behind a time that is kept is dropped either
      have kept : cutoff ≤ first := not_lt.mp old
      have all : ∀ time ∈ first :: rest, decide (cutoff ≤ time) = true := by
        intro time member
        apply decide_eq_true
        rcases List.mem_cons.mp member with rfl | later
        · exact kept
        · exact le_trans kept (least time later)
      rw [List.dropWhile_cons_of_neg (by simpa using old), List.filter_eq_self.mpr all]

theorem since_since {earlier later : τ} (le : earlier ≤ later) (times : List τ) :
    since later (since earlier times) = since later times := by
  unfold since
  rw [List.filter_filter]
  apply List.filter_congr
  intro time _
  rw [← Bool.decide_and, decide_eq_decide]
  exact and_iff_left_of_imp (le_trans le)

theorem since_append (cutoff : τ) (times others : List τ) :
    since cutoff (times ++ others) = since cutoff times ++ since cutoff others :=
  List.filter_append times others

theorem since_pairwise (ordered : times.Pairwise (· ≤ ·)) (cutoff : τ) :
    (since cutoff times).Pairwise (· ≤ ·) :=
  ordered.sublist List.filter_sublist

theorem within_eq_since {first last : τ} (bounded : ∀ time ∈ times, time ≤ last) :
    within first last times = since first times := by
  apply List.filter_congr
  intro time member
  rw [decide_eq_decide]
  exact and_iff_left (bounded time member)

theorem since_length_le {earlier later : τ} (le : earlier ≤ later) (times : List τ) :
    (since later times).length ≤ (since earlier times).length := by
  rw [← since_since le]
  exact List.length_filter_le _ _

theorem within_concat_of_outside {first last time : τ} (outside : ¬ (first ≤ time ∧ time ≤ last))
    (times : List τ) : within first last (times ++ [time]) = within first last times := by
  unfold within
  rw [List.filter_append, List.filter_cons_of_neg (by simpa using outside), List.filter_nil,
    List.append_nil]

theorem within_concat_length_le (first last : τ) (times : List τ) (time : τ) :
    (within first last (times ++ [time])).length ≤ (within first last times).length + 1 := by
  unfold within
  rw [List.filter_append, List.length_append]
  exact Nat.add_le_add_left (List.length_filter_le _ [time]) _

end SipCore.SlidingWindow
