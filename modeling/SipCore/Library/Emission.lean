/-
Computations that make calls to the outside and may throw. A throw ends the computation,
the calls made before it stay made. Two questions are asked of such a computation: which
calls it makes, and whether it comes to its end.
-/

import Mathlib.Data.List.Basic

namespace SipCore

structure Emission (ε κ α : Type) where
  calls : List κ
  result : Except ε α

namespace Emission

variable {ε κ α β : Type}

def call (made : κ) : Emission ε κ Unit := ⟨[made], .ok ()⟩

def lift (computed : Except ε α) : Emission ε κ α := ⟨[], computed⟩

def andThen (first : Emission ε κ α) (next : α → Emission ε κ β) : Emission ε κ β :=
  match first.result with
  | .error error => ⟨first.calls, .error error⟩
  | .ok value => ⟨first.calls ++ (next value).calls, (next value).result⟩

instance : Monad (Emission ε κ) where
  pure value := ⟨[], .ok value⟩
  bind := andThen

def forEach (items : List α) (act : α → Emission ε κ Unit) : Emission ε κ Unit :=
  match items with
  | [] => pure ()
  | item :: rest => do
      act item
      forEach rest act

def foldEach {σ : Type} (items : List α) (state : σ) (act : σ → α → Emission ε κ σ) :
    Emission ε κ σ :=
  match items with
  | [] => pure state
  | item :: rest => do
      let next ← act state item
      foldEach rest next act

structure Emits (allowed : κ → Prop) (computation : Emission ε κ α) : Prop where
  made : ∀ made ∈ computation.calls, allowed made

variable {allowed : κ → Prop}

theorem emits_pure (value : α) : Emits allowed (pure value : Emission ε κ α) := by
  constructor
  intro made member
  cases member

theorem emits_lift (computed : Except ε α) : Emits allowed (lift computed : Emission ε κ α) := by
  constructor
  intro made member
  cases member

theorem emits_call {made : κ} (fine : allowed made) :
    Emits allowed (call made : Emission ε κ Unit) := by
  constructor
  intro other member
  rw [List.mem_singleton.mp member]
  exact fine

theorem Emits.bind {first : Emission ε κ α} {next : α → Emission ε κ β}
    (before : Emits allowed first) (after : ∀ value, Emits allowed (next value)) :
    Emits allowed (first >>= next) := by
  constructor
  intro made member
  change made ∈ (andThen first next).calls at member
  unfold andThen at member
  cases result : first.result with
  | error error =>
    rw [result] at member
    exact before.made made member
  | ok value =>
    rw [result] at member
    rcases List.mem_append.mp member with early | late
    · exact before.made made early
    · exact (after value).made made late

theorem emits_forEach {items : List α} {act : α → Emission ε κ Unit}
    (each : ∀ item ∈ items, Emits allowed (act item)) : Emits allowed (forEach items act) := by
  induction items with
  | nil => exact emits_pure ()
  | cons item rest ih =>
    apply Emits.bind
    · exact each item List.mem_cons_self
    · intro _
      exact ih (fun later member => each later (List.mem_cons_of_mem item member))

def Finishes (computation : Emission ε κ α) : Prop :=
  ∃ value, computation.result = .ok value

theorem finishes_pure (value : α) : Finishes (pure value : Emission ε κ α) := ⟨value, rfl⟩

theorem finishes_call (made : κ) : Finishes (call made : Emission ε κ Unit) := ⟨(), rfl⟩

theorem finishes_bind_iff (first : Emission ε κ α) (next : α → Emission ε κ β) :
    Finishes (first >>= next) ↔ ∃ value, first.result = .ok value ∧ Finishes (next value) := by
  change (∃ value, (andThen first next).result = .ok value) ↔ _
  unfold andThen
  cases result : first.result with
  | error error =>
    constructor
    · rintro ⟨value, equal⟩
      cases equal
    · rintro ⟨value, equal, _⟩
      cases equal
  | ok value =>
    constructor
    · intro finishes
      exact ⟨value, rfl, finishes⟩
    · rintro ⟨other, equal, finishes⟩
      cases equal
      exact finishes

theorem finishes_seq_iff (first : Emission ε κ Unit) (next : Emission ε κ β) :
    Finishes (first >>= fun _ => next) ↔ Finishes first ∧ Finishes next := by
  rw [finishes_bind_iff]
  exact exists_and_right

theorem finishes_lift_bind_iff (computed : Except ε α) (next : α → Emission ε κ β) :
    Finishes (lift computed >>= next) ↔ ∃ value, computed = .ok value ∧ Finishes (next value) :=
  finishes_bind_iff (lift computed) next

theorem finishes_lift_ok_bind_iff (value : α) (next : α → Emission ε κ β) :
    Finishes (lift (.ok value) >>= next) ↔ Finishes (next value) := Iff.rfl

theorem finishes_forEach_iff (items : List α) (act : α → Emission ε κ Unit) :
    Finishes (forEach items act) ↔ ∀ item ∈ items, Finishes (act item) := by
  induction items with
  | nil => exact ⟨nofun, fun _ => finishes_pure ()⟩
  | cons item rest ih =>
    change Finishes (act item >>= fun _ => forEach rest act) ↔ _
    rw [finishes_seq_iff, ih, List.forall_mem_cons]

theorem exists_bind_ok_iff (computed : Except ε α) (next : α → Except ε β) :
    (∃ result, (computed >>= next) = .ok result) ↔
      ∃ value, computed = .ok value ∧ ∃ result, next value = .ok result := by
  cases computed with
  | error error =>
    constructor
    · rintro ⟨result, equal⟩
      cases equal
    · rintro ⟨value, equal, _⟩
      cases equal
  | ok value =>
    constructor
    · intro finishes
      exact ⟨value, rfl, finishes⟩
    · rintro ⟨other, equal, finishes⟩
      cases equal
      exact finishes

theorem finishes_foldEach_iff {σ : Type} {act : σ → α → Emission ε κ σ} {fine : α → Prop}
    (each : ∀ state item, Finishes (act state item) ↔ fine item) (items : List α) (state : σ) :
    Finishes (foldEach items state act) ↔ ∀ item ∈ items, fine item := by
  induction items generalizing state with
  | nil => exact ⟨nofun, fun _ => finishes_pure state⟩
  | cons item rest ih =>
    change Finishes (act state item >>= fun next => foldEach rest next act) ↔ _
    rw [finishes_bind_iff, List.forall_mem_cons, ← each state item]
    constructor
    · rintro ⟨next, result, later⟩
      exact ⟨⟨next, result⟩, (ih next).mp later⟩
    · rintro ⟨⟨next, result⟩, later⟩
      exact ⟨next, result, (ih next).mpr later⟩

end Emission

end SipCore
