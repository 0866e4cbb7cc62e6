/-
Sequences of statements, any of which may throw. A throw ends the sequence, and what
the statements before it did stays done. Whether a statement throws does not depend on
the state, so a sequence can be cut at its first failing statement.
-/

import Mathlib.Data.List.Basic

namespace SipCore

structure Statement (ε σ : Type) where
  failure : Option ε
  effect : σ → σ

namespace Statement

variable {ε σ β : Type}

def change (effect : σ → σ) : Statement ε σ := ⟨none, effect⟩

@[simp]
theorem change_failure (effect : σ → σ) : (change effect : Statement ε σ).failure = none := rfl

def run : List (Statement ε σ) → σ → σ × Option ε
  | [], state => (state, none)
  | statement :: rest, state =>
    match statement.failure with
    | some error => (state, some error)
    | none => run rest (statement.effect state)

def Passable (statements : List (Statement ε σ)) : Prop :=
  ∀ statement ∈ statements, statement.failure = none

@[simp]
theorem passable_nil : Passable ([] : List (Statement ε σ)) :=
  nofun

@[simp]
theorem passable_cons {statement : Statement ε σ} {rest : List (Statement ε σ)} :
    Passable (statement :: rest) ↔ statement.failure = none ∧ Passable rest :=
  List.forall_mem_cons

theorem passable_append {first second : List (Statement ε σ)} :
    Passable (first ++ second) ↔ Passable first ∧ Passable second :=
  List.forall_mem_append

theorem run_cons_of_passes {statement : Statement ε σ} (passes : statement.failure = none)
    (rest : List (Statement ε σ)) (state : σ) :
    run (statement :: rest) state = run rest (statement.effect state) := by
  rw [run]
  simp only [passes]

theorem run_cons_of_throws {statement : Statement ε σ} {error : ε}
    (throws : statement.failure = some error) (rest : List (Statement ε σ)) (state : σ) :
    run (statement :: rest) state = (state, some error) := by
  rw [run]
  simp only [throws]

theorem run_of_passable {statements : List (Statement ε σ)} (passable : Passable statements)
    (state : σ) :
    run statements state =
      (statements.foldl (fun current statement => statement.effect current) state, none) := by
  induction statements generalizing state with
  | nil => rfl
  | cons statement rest ih =>
    rw [run_cons_of_passes (passable statement List.mem_cons_self)]
    exact ih (fun later member => passable later (List.mem_cons_of_mem _ member)) _

theorem run_keeps (relation : σ → σ → Prop) (refl : ∀ state, relation state state)
    (trans : ∀ first second third, relation first second → relation second third →
      relation first third)
    {statements : List (Statement ε σ)}
    (each : ∀ statement ∈ statements, ∀ state, relation state (statement.effect state)) (state : σ) :
    relation state (run statements state).1 := by
  induction statements generalizing state with
  | nil => exact refl state
  | cons statement rest ih =>
    cases failure : statement.failure with
    | some error =>
      rw [run_cons_of_throws failure]
      exact refl state
    | none =>
      rw [run_cons_of_passes failure]
      apply trans _ (statement.effect state)
      · exact each statement List.mem_cons_self state
      · exact ih (fun later member => each later (List.mem_cons_of_mem _ member)) _

def Untouched (observe : σ → β) (statements : List (Statement ε σ)) : Prop :=
  ∀ statement ∈ statements, ∀ state, observe (statement.effect state) = observe state

theorem untouched_nil {observe : σ → β} : Untouched observe ([] : List (Statement ε σ)) :=
  nofun

theorem untouched_cons {observe : σ → β} {statement : Statement ε σ}
    {rest : List (Statement ε σ)} :
    Untouched observe (statement :: rest) ↔
      (∀ state, observe (statement.effect state) = observe state) ∧ Untouched observe rest :=
  List.forall_mem_cons

theorem untouched_append {observe : σ → β} {first second : List (Statement ε σ)} :
    Untouched observe (first ++ second) ↔ Untouched observe first ∧ Untouched observe second :=
  List.forall_mem_append

theorem run_untouched {observe : σ → β} {statements : List (Statement ε σ)}
    (untouched : Untouched observe statements) (state : σ) :
    observe (run statements state).1 = observe state :=
  run_keeps (fun before after => observe after = observe before) (fun _ => rfl)
    (fun _ _ _ earlier later => later.trans earlier) untouched state

/-- One statement of a sequence writes the observed part, from its present value. -/
structure Writes (observe : σ → β) (write : β → β) (before : List (Statement ε σ))
    (statement : Statement ε σ) (after : List (Statement ε σ)) : Prop where
  before : Untouched observe before
  written : ∀ state, observe (statement.effect state) = write (observe state)
  after : Untouched observe after

namespace Writes

variable {observe : σ → β} {write : β → β} {before after : List (Statement ε σ)}
  {statement : Statement ε σ}

theorem run (writes : Writes observe write before statement after) (state : σ) :
    (Passable (before ++ [statement]) →
      observe (run (before ++ statement :: after) state).1 = write (observe state)) ∧
    (¬ Passable (before ++ [statement]) →
      observe (run (before ++ statement :: after) state).1 = observe state) := by
  obtain ⟨untouchedBefore, written, untouchedAfter⟩ := writes
  induction before generalizing state with
  | nil =>
    rw [List.nil_append, List.nil_append, passable_cons]
    cases failure : statement.failure with
    | none =>
      constructor
      · intro _
        rw [run_cons_of_passes failure, run_untouched untouchedAfter, written]
      · intro stuck
        exact absurd ⟨rfl, passable_nil⟩ stuck
    | some error =>
      constructor
      · intro passable
        cases passable.1
      · intro _
        rw [run_cons_of_throws failure]
  | cons first rest ih =>
    obtain ⟨firstKept, restKept⟩ := untouched_cons.mp untouchedBefore
    rw [List.cons_append, List.cons_append, passable_cons]
    cases failure : first.failure with
    | some error =>
      constructor
      · intro passable
        cases passable.1
      · intro _
        rw [run_cons_of_throws failure]
    | none =>
      obtain ⟨reached, missed⟩ := ih (first.effect state) restKept
      rw [run_cons_of_passes failure, ← firstKept state]
      constructor
      · intro passable
        exact reached passable.2
      · intro stuck
        exact missed (fun passable => stuck ⟨rfl, passable⟩)

/-- The observed part is kept unless the statement is reached and writes something
that differs. -/
theorem keeps_iff (writes : Writes observe write before statement after) (keeps : β → β → Prop)
    (refl : ∀ part, keeps part part) (state : σ) :
    keeps (observe state) (observe (Statement.run (before ++ statement :: after) state).1) ↔
      (Passable (before ++ [statement]) → keeps (observe state) (write (observe state))) := by
  obtain ⟨reached, missed⟩ := writes.run state
  by_cases passable : Passable (before ++ [statement])
  · rw [reached passable]
    exact ⟨fun kept _ => kept, fun kept => kept passable⟩
  · rw [missed passable]
    exact ⟨fun _ passed => absurd passed passable, fun _ => refl _⟩

end Writes

end Statement

end SipCore
