/-
Runs of a deterministic transition function over arbitrary states and labels. `Always`
speaks about every state a run visits, `Guarded` about every step it takes.
-/

import Mathlib.Data.List.Basic

namespace SipCore.Run

variable {σ ι : Type} (step : σ → ι → σ)

def after (start : σ) (operations : List ι) : σ :=
  operations.foldl step start

@[simp] theorem after_nil (start : σ) : after step start [] = start := rfl

@[simp] theorem after_cons (start : σ) (operation : ι) (rest : List ι) :
    after step start (operation :: rest) = after step (step start operation) rest := rfl

theorem after_append (start : σ) (first second : List ι) :
    after step start (first ++ second) = after step (after step start first) second :=
  List.foldl_append

theorem after_keeps {β : Type} (observe : σ → β)
    (kept : ∀ state operation, observe (step state operation) = observe state)
    (start : σ) (operations : List ι) : observe (after step start operations) = observe start := by
  induction operations generalizing start with
  | nil => rfl
  | cons operation rest ih => rw [after_cons, ih, kept]

def Guarded (ok : σ → ι → Prop) : σ → List ι → Prop
  | _, [] => True
  | start, operation :: rest => ok start operation ∧ Guarded ok (step start operation) rest

def Always (property : σ → Prop) : σ → List ι → Prop
  | start, [] => property start
  | start, operation :: rest => property start ∧ Always property (step start operation) rest

instance decidableGuarded (ok : σ → ι → Prop) [∀ state operation, Decidable (ok state operation)] :
    ∀ start operations, Decidable (Guarded step ok start operations)
  | _, [] => isTrue trivial
  | start, operation :: rest =>
    have := decidableGuarded ok (step start operation) rest
    inferInstanceAs (Decidable (ok start operation ∧ Guarded step ok (step start operation) rest))

instance decidableAlways (property : σ → Prop) [DecidablePred property] :
    ∀ start operations, Decidable (Always step property start operations)
  | start, [] => inferInstanceAs (Decidable (property start))
  | start, operation :: rest =>
    have := decidableAlways property (step start operation) rest
    inferInstanceAs (Decidable (property start ∧ Always step property (step start operation) rest))

variable {step}

variable {operations : List ι} {start : σ} {invariant : σ → Prop}

variable {property : σ → Prop} {ok : σ → ι → Prop}

theorem Always.first (always : Always step property start operations) : property start := by
  cases operations with
  | nil => exact always
  | cons operation rest => exact always.1

theorem Always.last (always : Always step property start operations) :
    property (after step start operations) := by
  induction operations generalizing start with
  | nil => exact always
  | cons operation rest ih => exact ih always.2

theorem Always.imp {weaker : σ → Prop} (weaken : ∀ state, property state → weaker state)
    (always : Always step property start operations) : Always step weaker start operations := by
  induction operations generalizing start with
  | nil => exact weaken start always
  | cons operation rest ih => exact ⟨weaken start always.1, ih always.2⟩

theorem Guarded.of_append {first second : List ι}
    (guarded : Guarded step ok start (first ++ second)) : Guarded step ok start first := by
  induction first generalizing start with
  | nil => trivial
  | cons operation rest ih => exact ⟨guarded.1, ih guarded.2⟩

theorem Guarded.and {also : σ → ι → Prop} (guarded : Guarded step ok start operations)
    (alsoGuarded : Guarded step also start operations) :
    Guarded step (fun state operation => ok state operation ∧ also state operation)
      start operations := by
  induction operations generalizing start with
  | nil => trivial
  | cons operation rest ih =>
    exact ⟨⟨guarded.1, alsoGuarded.1⟩, ih guarded.2 alsoGuarded.2⟩

/-- The invariant rule: preserved by admissible steps, so true along every
admissible run. -/
theorem always_of_guarded
    (preserved : ∀ state operation, invariant state → ok state operation →
      invariant (step state operation))
    (initially : invariant start) (guarded : Guarded step ok start operations) :
    Always step invariant start operations := by
  induction operations generalizing start with
  | nil => exact initially
  | cons operation rest ih =>
    exact ⟨initially, ih (preserved start operation initially guarded.1) guarded.2⟩

theorem guarded_of_invariant {good : σ → ι → Prop}
    (preserved : ∀ state operation, invariant state → ok state operation →
      invariant (step state operation))
    (implied : ∀ state operation, invariant state → ok state operation → good state operation)
    (initially : invariant start) (guarded : Guarded step ok start operations) :
    Guarded step good start operations := by
  induction operations generalizing start with
  | nil => trivial
  | cons operation rest ih =>
    constructor
    · exact implied start operation initially guarded.1
    · exact ih (preserved start operation initially guarded.1) guarded.2

theorem guarded_of_forall {ok : ι → Prop} (each : ∀ operation ∈ operations, ok operation) :
    Guarded step (fun _ operation => ok operation) start operations := by
  induction operations generalizing start with
  | nil => trivial
  | cons operation rest ih =>
    constructor
    · exact each operation List.mem_cons_self
    · exact ih (fun later member => each later (List.mem_cons_of_mem operation member))

theorem always_of_preserved
    (preserved : ∀ state operation, invariant state → invariant (step state operation))
    (initially : invariant start) (operations : List ι) :
    Always step invariant start operations := by
  induction operations generalizing start with
  | nil => exact initially
  | cons operation rest ih => exact ⟨initially, ih (preserved start operation initially)⟩

/-- The converse rule. An inadmissible step breaks the property at once, so a
run that keeps the property took admissible steps only. `side` holds what the
breaking argument needs to know about the steps. -/
theorem guarded_of_always {side : σ → ι → Prop}
    (preserved : ∀ state operation, invariant state → ok state operation →
      invariant (step state operation))
    (broken : ∀ state operation, invariant state → side state operation →
      ¬ ok state operation → ¬ property (step state operation))
    (initially : invariant start) (sideGuarded : Guarded step side start operations)
    (always : Always step property start operations) : Guarded step ok start operations := by
  induction operations generalizing start with
  | nil => trivial
  | cons operation rest ih =>
    have admissible : ok start operation := by
      by_contra inadmissible
      exact broken start operation initially sideGuarded.1 inadmissible always.2.first
    exact ⟨admissible, ih (preserved start operation initially admissible) sideGuarded.2 always.2⟩

end SipCore.Run
