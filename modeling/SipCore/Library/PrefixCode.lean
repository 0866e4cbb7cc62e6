/-
Texts over a code whose code words cannot be mistaken for one another when read
from the left: the longest front of an input that is a text, and the repair of an
input, in which each symbol at which such a front ends is replaced.
-/

import Mathlib.Data.List.Basic

namespace SipCore

/-- Two code words that both begin one input belong to one character. -/
structure PrefixCode (χ α : Type*) where
  encode : χ → List α
  encode_ne_nil : ∀ char, encode char ≠ []
  unique : ∀ input first second,
    encode first <+: input → encode second <+: input → first = second

namespace PrefixCode

variable {χ α : Type*} {code : PrefixCode χ α} {input front rest : List α} {char : χ}

def IsText (code : PrefixCode χ α) (input : List α) : Prop :=
  ∃ text : List χ, input = text.flatMap code.encode

theorem isText_nil : code.IsText [] := ⟨[], rfl⟩

theorem isText_append {left right : List α} (first : code.IsText left)
    (second : code.IsText right) : code.IsText (left ++ right) := by
  rcases first with ⟨before, rfl⟩
  rcases second with ⟨behind, rfl⟩
  exact ⟨before ++ behind, (List.flatMap_append).symm⟩

theorem isText_encode : code.IsText (code.encode char) := ⟨[char], by simp⟩

theorem isText_encode_append : code.IsText (code.encode char ++ rest) ↔ code.IsText rest := by
  constructor
  · rintro ⟨text, spelled⟩
    cases text with
    | nil => exact absurd (List.append_eq_nil_iff.mp spelled).1 (code.encode_ne_nil char)
    | cons head tail =>
      have begins : code.encode head <+: code.encode char ++ rest := by
        rw [spelled]
        exact List.prefix_append _ _
      have same : char = head := code.unique _ char head (List.prefix_append _ _) begins
      subst head
      exact ⟨tail, List.append_cancel_left spelled⟩
  · exact isText_append isText_encode

/-- The front of an input at which a scan for whole characters ends. -/
structure IsLongest (code : PrefixCode χ α) (input front : List α) : Prop where
  begins : front <+: input
  text : code.IsText front
  longest : ∀ other, other <+: input → code.IsText other → other.length ≤ front.length

namespace IsLongest

theorem encode_append (char : χ) (here : code.IsLongest rest front) :
    code.IsLongest (code.encode char ++ rest) (code.encode char ++ front) where
  begins := (List.prefix_append_right_inj _).mpr here.begins
  text := isText_encode_append.mpr here.text
  longest := by
    rintro other begins ⟨text, rfl⟩
    cases text with
    | nil => exact Nat.zero_le _
    | cons head tail =>
      rw [List.flatMap_cons] at begins ⊢
      have same : char = head :=
        code.unique _ char head (List.prefix_append _ _)
          ((List.prefix_append _ _).trans begins)
      subst head
      have shorter := here.longest _ ((List.prefix_append_right_inj _).mp begins) ⟨tail, rfl⟩
      simp only [List.length_append]
      omega

theorem nil (stuck : ∀ char, ¬ code.encode char <+: input) : code.IsLongest input [] where
  begins := List.nil_prefix
  text := isText_nil
  longest := by
    rintro other begins ⟨text, rfl⟩
    cases text with
    | nil => exact Nat.le_refl _
    | cons head tail =>
      exact absurd ((List.prefix_append _ _).trans begins) (stuck head)

theorem eq {other : List α} (here : code.IsLongest input front)
    (there : code.IsLongest input other) : front = other := by
  have shorter := there.longest front here.begins here.text
  have longer := here.longest other there.begins there.text
  exact (List.prefix_of_prefix_length_le here.begins there.begins shorter).eq_of_length_le longer

theorem of_isText (text : code.IsText input) : code.IsLongest input input :=
  ⟨List.prefix_refl _, text, fun _ begins _ => begins.length_le⟩

theorem isText_iff (here : code.IsLongest input front) : code.IsText input ↔ front = input := by
  constructor
  · intro text
    exact here.eq (of_isText text)
  · intro whole
    rw [← whole]
    exact here.text

theorem not_isText {symbol : α} (here : code.IsLongest (front ++ symbol :: rest) front) :
    ¬ code.IsText (front ++ symbol :: rest) := by
  intro text
  have whole := here.isText_iff.mp text
  simp at whole

theorem congr {other : List α} (here : code.IsLongest input front)
    (same : ∀ left, code.IsText left → (left <+: input ↔ left <+: other)) :
    code.IsLongest other front where
  begins := (same front here.text).mp here.begins
  text := here.text
  longest := fun left begins text => here.longest left ((same left text).mpr begins) text

end IsLongest

/-- The input with each symbol at which a scan ends replaced; the scan goes on
right behind it. -/
inductive Repaired (code : PrefixCode χ α) (replacement : List α) : List α → List α → Prop
  | whole {input : List α} : code.IsText input → Repaired code replacement input input
  | stop {front : List α} {symbol : α} {rest output : List α} :
      code.IsLongest (front ++ symbol :: rest) front →
      Repaired code replacement rest output →
      Repaired code replacement (front ++ symbol :: rest) (front ++ replacement ++ output)

/-- A scan of the input ends at one symbol at the most. -/
def StopsAtMostOnce (code : PrefixCode χ α) (input : List α) : Prop :=
  code.IsText input ∨
    ∃ front symbol rest, input = front ++ symbol :: rest ∧ code.IsLongest input front ∧
      code.IsText rest

namespace Repaired

variable {replacement output : List α} {symbol : α}

theorem of_stop (repaired : code.Repaired replacement (front ++ symbol :: rest) output)
    (here : code.IsLongest (front ++ symbol :: rest) front) :
    ∃ later, code.Repaired replacement rest later ∧ output = front ++ replacement ++ later := by
  generalize given : front ++ symbol :: rest = source at repaired here
  cases repaired with
  | whole text =>
    rw [← given] at text here
    exact absurd text here.not_isText
  | @stop other found remaining later there behind =>
    have same : front = other := here.eq there
    subst other
    have tails := List.append_cancel_left given
    injection tails with _ tails
    subst remaining
    exact ⟨later, behind, rfl⟩

end Repaired

theorem stopsAtMostOnce_stop {symbol : α}
    (here : code.IsLongest (front ++ symbol :: rest) front) :
    code.StopsAtMostOnce (front ++ symbol :: rest) ↔ code.IsText rest := by
  constructor
  · rintro (text | ⟨other, found, remaining, given, there, behind⟩)
    · exact absurd text here.not_isText
    · have same : front = other := here.eq there
      subst other
      injection List.append_cancel_left given with _ tails
      exact tails ▸ behind
  · intro text
    exact .inr ⟨front, symbol, rest, rfl, here, text⟩

end PrefixCode

end SipCore
