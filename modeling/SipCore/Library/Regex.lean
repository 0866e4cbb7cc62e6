/-
Regular expressions with ordered alternatives, greedy repetition and capture groups,
over any alphabet. `paths` lists the ways to match a front part of the input in the
order a backtracking matcher tries them, so the match such a matcher reports is the
first one.
-/

import Mathlib.Data.List.TakeWhile
import Mathlib.Data.List.Infix

namespace SipCore.Regex

inductive Pattern (α : Type) where
  | literal (text : List α)
  | repeated (accepts : α → Bool) (least : Nat) (most : Option Nat)
  | seq (first second : Pattern α)
  | alt (first second : Pattern α)
  | optional (inner : Pattern α)
  | group (index : Nat) (inner : Pattern α)

structure Path (α : Type) where
  taken : List α
  rest : List α
  groups : List (Nat × List α)
deriving DecidableEq, Repr

def Path.captured {α : Type} (path : Path α) (index : Nat) : List α :=
  (path.groups.lookup index).getD []

variable {α : Type}

def mostTaken (accepts : α → Bool) (most : Option Nat) (input : List α) : Nat :=
  match most with
  | none => (input.takeWhile accepts).length
  | some bound => min bound (input.takeWhile accepts).length

def Path.splitAt (input : List α) (count : Nat) : Path α :=
  ⟨input.take count, input.drop count, []⟩

def Path.append (earlier later : Path α) : Path α :=
  ⟨earlier.taken ++ later.taken, later.rest, earlier.groups ++ later.groups⟩

def Path.capture (index : Nat) (path : Path α) : Path α :=
  { path with groups := (index, path.taken) :: path.groups }

theorem mostTaken_le (accepts : α → Bool) (most : Option Nat) (input : List α) :
    mostTaken accepts most input ≤ (input.takeWhile accepts).length := by
  cases most with
  | none => exact Nat.le_refl _
  | some bound => exact Nat.min_le_right _ _

variable {input : List α} {path : Path α} {first inner pattern : Pattern α} {index : Nat}

theorem take_takeWhile {accepts : α → Bool} {count : Nat}
    (bound : count ≤ (input.takeWhile accepts).length) :
    input.take count = (input.takeWhile accepts).take count := by
  have split : input = input.takeWhile accepts ++ input.dropWhile accepts :=
    List.takeWhile_append_dropWhile.symm
  calc input.take count
      = (input.takeWhile accepts ++ input.dropWhile accepts).take count := by rw [← split]
    _ = (input.takeWhile accepts).take count := List.take_append_of_le_length bound

variable [DecidableEq α]

variable {second : Pattern α}

namespace Pattern

def paths : Pattern α → List α → List (Path α)
  | .literal text, input =>
    if text.isPrefixOf input then [Path.splitAt input text.length] else []
  | .repeated accepts least most, input =>
    (List.range (mostTaken accepts most input + 1 - least)).map
      (fun fewer => Path.splitAt input (mostTaken accepts most input - fewer))
  | .seq first second, input =>
    (first.paths input).flatMap (fun path => (second.paths path.rest).map path.append)
  | .alt first second, input => first.paths input ++ second.paths input
  | .optional inner, input => inner.paths input ++ [⟨[], input, []⟩]
  | .group index inner, input => (inner.paths input).map (Path.capture index)

def matchStart (pattern : Pattern α) (input : List α) : Option (Path α) :=
  (pattern.paths input).head?

def search (pattern : Pattern α) (input : List α) : Option (Path α) :=
  input.tails.findSome? pattern.matchStart

def fullMatch (pattern : Pattern α) (input : List α) : Option (Path α) :=
  (pattern.paths input).find? (fun path => path.rest.isEmpty)

theorem mem_paths_literal {text : List α} (member : path ∈ (literal text).paths input) :
    path.taken = text ∧ input = text ++ path.rest := by
  unfold paths at member
  split at member
  · rename_i isFront
    obtain ⟨rest, rfl⟩ := List.isPrefixOf_iff_prefix.mp isFront
    rw [List.mem_singleton.mp member]
    unfold Path.splitAt
    rw [List.take_left, List.drop_left]
    exact ⟨rfl, rfl⟩
  · cases member

theorem mem_paths_repeated {accepts : α → Bool} {least : Nat} {most : Option Nat}
    (member : path ∈ (repeated accepts least most).paths input) :
    ∃ count ≤ mostTaken accepts most input, least ≤ mostTaken accepts most input ∧
      path = Path.splitAt input count := by
  obtain ⟨fewer, inRange, same⟩ := List.mem_map.mp member
  have bound := List.mem_range.mp inRange
  exact ⟨_, Nat.sub_le _ fewer, by omega, same.symm⟩

theorem mem_paths_seq (member : path ∈ (seq first second).paths input) :
    ∃ earlier ∈ first.paths input, ∃ later ∈ second.paths earlier.rest,
      path = earlier.append later := by
  obtain ⟨earlier, inFirst, inSecond⟩ := List.mem_flatMap.mp member
  obtain ⟨later, found, same⟩ := List.mem_map.mp inSecond
  exact ⟨earlier, inFirst, later, found, same.symm⟩

theorem mem_paths_group (member : path ∈ (group index inner).paths input) :
    ∃ within ∈ inner.paths input, path = within.capture index := by
  obtain ⟨within, found, same⟩ := List.mem_map.mp member
  exact ⟨within, found, same.symm⟩

theorem head_group {first : Path α} (found : (inner.paths input).head? = some first) :
    ((group index inner).paths input).head? = some (first.capture index) := by
  unfold paths
  rw [List.head?_map, found]
  rfl

theorem head_seq {earlier later : Path α} (found : (first.paths input).head? = some earlier)
    (foundNext : (second.paths earlier.rest).head? = some later) :
    ((seq first second).paths input).head? = some (earlier.append later) := by
  unfold paths
  obtain ⟨others, split⟩ := List.head?_eq_some_iff.mp found
  obtain ⟨othersNext, splitNext⟩ := List.head?_eq_some_iff.mp foundNext
  rw [split, List.flatMap_cons, splitNext]
  rfl

theorem taken_append_rest (member : path ∈ pattern.paths input) :
    path.taken ++ path.rest = input := by
  induction pattern generalizing input path with
  | literal text =>
    obtain ⟨taken, whole⟩ := mem_paths_literal member
    rw [taken, whole]
  | repeated accepts least most =>
    obtain ⟨count, _, _, rfl⟩ := mem_paths_repeated member
    exact List.take_append_drop count input
  | seq first second ihFirst ihSecond =>
    obtain ⟨earlier, inFirst, later, inSecond, rfl⟩ := mem_paths_seq member
    change (earlier.taken ++ later.taken) ++ later.rest = input
    rw [List.append_assoc, ihSecond inSecond, ihFirst inFirst]
  | alt first second ihFirst ihSecond =>
    rcases List.mem_append.mp member with left | right
    · exact ihFirst left
    · exact ihSecond right
  | optional inner ih =>
    rcases List.mem_append.mp member with left | right
    · exact ih left
    · rw [List.mem_singleton.mp right]
      rfl
  | group index inner ih =>
    obtain ⟨within, found, rfl⟩ := mem_paths_group member
    change within.taken ++ within.rest = input
    exact ih found

/-- The first path leaves no more than any other. -/
structure LongestFirst (pattern : Pattern α) : Prop where
  first : ∀ input path, path ∈ pattern.paths input →
    ∃ first, (pattern.paths input).head? = some first ∧ first.rest.length ≤ path.rest.length

structure Determined (pattern : Pattern α) : Prop where
  same : ∀ input left right, left ∈ pattern.paths input → right ∈ pattern.paths input →
    left.rest = right.rest

/-- A path that takes less than the first one stops before an accepted element. -/
structure Greedy (accepts : α → Bool) (pattern : Pattern α) : Prop where
  first : ∀ input path, path ∈ pattern.paths input →
    ∃ first, (pattern.paths input).head? = some first ∧
      (first.rest = path.rest ∨
        first.rest.length < path.rest.length ∧
          ∃ element tail, path.rest = element :: tail ∧ accepts element = true)

structure Within (accepts : α → Bool) (pattern : Pattern α) : Prop where
  taken : ∀ input path, path ∈ pattern.paths input → ∀ element ∈ path.taken, accepts element = true

/-- What is taken begins with an element that is not accepted. -/
structure StartsOutside (accepts : α → Bool) (pattern : Pattern α) : Prop where
  start : ∀ input path, path ∈ pattern.paths input →
    ∃ element tail, input = element :: tail ∧ accepts element = false

theorem head_of_mem (member : path ∈ pattern.paths input) :
    ∃ first ∈ pattern.paths input, (pattern.paths input).head? = some first := by
  cases listed : pattern.paths input with
  | nil =>
    rw [listed] at member
    cases member
  | cons first others => exact ⟨first, List.mem_cons_self, rfl⟩

theorem Determined.longestFirst (determined : pattern.Determined) : pattern.LongestFirst := by
  constructor
  intro input path member
  obtain ⟨first, listed, head⟩ := head_of_mem member
  refine ⟨first, head, Nat.le_of_eq ?_⟩
  rw [determined.same input first path listed member]

theorem determined_literal (text : List α) : (literal text).Determined := by
  constructor
  intro input left right inLeft inRight
  have same := (mem_paths_literal inLeft).2.symm.trans (mem_paths_literal inRight).2
  exact List.append_cancel_left same

theorem Determined.group (determined : inner.Determined) : (group index inner).Determined := by
  constructor
  intro input left right inLeft inRight
  obtain ⟨innerLeft, foundLeft, rfl⟩ := mem_paths_group inLeft
  obtain ⟨innerRight, foundRight, rfl⟩ := mem_paths_group inRight
  exact determined.same input innerLeft innerRight foundLeft foundRight

theorem Within.determined {accepts : α → Bool} (within : first.Within accepts) {delimiter : α}
    (outside : accepts delimiter = false) (text : List α) :
    (seq first (literal (delimiter :: text))).Determined := by
  have remaining : ∀ input path, path ∈ (seq first (literal (delimiter :: text))).paths input →
      input.dropWhile accepts = delimiter :: (text ++ path.rest) := by
    intro input path member
    obtain ⟨earlier, inFirst, later, inSecond, rfl⟩ := mem_paths_seq member
    rw [← taken_append_rest inFirst, (mem_paths_literal inSecond).2,
      List.dropWhile_append_of_pos (within.taken input earlier inFirst)]
    exact List.dropWhile_cons_of_neg (by rw [outside]; exact Bool.false_ne_true)
  constructor
  intro input left right inLeft inRight
  have same := (remaining input left inLeft).symm.trans (remaining input right inRight)
  exact List.append_cancel_left (List.cons.inj same).2

theorem within_literal {accepts : α → Bool} {text : List α} (all : text.all accepts = true) :
    (literal text).Within accepts := by
  constructor
  intro input path member element taken
  rw [(mem_paths_literal member).1] at taken
  exact List.all_eq_true.mp all element taken

theorem within_repeated (accepts : α → Bool) (least : Nat) (most : Option Nat) :
    (repeated accepts least most).Within accepts := by
  constructor
  intro input path member element taken
  obtain ⟨count, bound, _, rfl⟩ := mem_paths_repeated member
  change element ∈ input.take count at taken
  rw [take_takeWhile (Nat.le_trans bound (mostTaken_le accepts most input))] at taken
  exact List.mem_takeWhile_imp (List.mem_of_mem_take taken)

section

variable {accepts : α → Bool}

theorem Within.alt (left : first.Within accepts) (right : second.Within accepts) :
    (alt first second).Within accepts := by
  constructor
  intro input path member
  rcases List.mem_append.mp member with inFirst | inSecond
  · exact left.taken input path inFirst
  · exact right.taken input path inSecond

theorem Within.group (within : inner.Within accepts) : (group index inner).Within accepts := by
  constructor
  intro input path member
  obtain ⟨innerPath, found, rfl⟩ := mem_paths_group member
  exact within.taken input innerPath found

theorem startsOutside_literal {element : α} (outside : accepts element = false) (text : List α) :
    (literal (element :: text)).StartsOutside accepts := by
  constructor
  intro input path member
  exact ⟨element, text ++ path.rest, (mem_paths_literal member).2, outside⟩

theorem StartsOutside.group (outside : inner.StartsOutside accepts) :
    (group index inner).StartsOutside accepts := by
  constructor
  intro input path member
  obtain ⟨innerPath, found, _⟩ := mem_paths_group member
  exact outside.start input innerPath found

theorem StartsOutside.seq (outside : first.StartsOutside accepts) (second : Pattern α) :
    (seq first second).StartsOutside accepts := by
  constructor
  intro input path member
  obtain ⟨earlier, inFirst, _⟩ := mem_paths_seq member
  exact outside.start input earlier inFirst

theorem head_repeated {least : Nat} {most : Option Nat}
    (enough : least ≤ mostTaken accepts most input) :
    ((repeated accepts least most).paths input).head? =
      some (Path.splitAt input (mostTaken accepts most input)) := by
  unfold paths
  rw [List.head?_map, List.head?_range, if_neg (by omega)]
  rfl

end

theorem greedy_repeated (accepts : α → Bool) (least : Nat) (most : Option Nat) :
    (repeated accepts least most).Greedy accepts := by
  constructor
  intro input path member
  obtain ⟨count, bound, enough, rfl⟩ := mem_paths_repeated member
  refine ⟨_, head_repeated enough, ?_⟩
  rcases Nat.lt_or_eq_of_le bound with fewer | all
  · right
    have run := mostTaken_le accepts most input
    have inside : count < (input.takeWhile accepts).length := Nat.lt_of_lt_of_le fewer run
    have whole : (input.takeWhile accepts).length ≤ input.length :=
      (List.takeWhile_prefix accepts).length_le
    have here : count < input.length := Nat.lt_of_lt_of_le inside whole
    constructor
    · change (input.drop _).length < (input.drop count).length
      rw [List.length_drop, List.length_drop]
      omega
    · refine ⟨input[count], input.drop (count + 1), List.drop_eq_getElem_cons here, ?_⟩
      -- the element at which the shorter path stops belongs to the run
      have same : (input.takeWhile accepts)[count] = input[count] :=
        (List.takeWhile_prefix accepts).getElem inside
      rw [← same]
      exact List.mem_takeWhile_imp (List.getElem_mem inside)
  · left
    rw [all]

theorem Greedy.group {accepts : α → Bool} (greedy : inner.Greedy accepts) :
    (group index inner).Greedy accepts := by
  constructor
  intro input path member
  obtain ⟨innerPath, found, rfl⟩ := mem_paths_group member
  obtain ⟨first, head, stops⟩ := greedy.first input innerPath found
  exact ⟨first.capture index, head_group head, stops⟩

theorem Greedy.longestFirst {accepts : α → Bool} (greedy : pattern.Greedy accepts) :
    pattern.LongestFirst := by
  constructor
  intro input path member
  obtain ⟨first, head, stops⟩ := greedy.first input path member
  refine ⟨first, head, ?_⟩
  rcases stops with same | ⟨less, _⟩
  · exact Nat.le_of_eq (congrArg List.length same)
  · exact Nat.le_of_lt less

theorem LongestFirst.group (longest : inner.LongestFirst) : (group index inner).LongestFirst := by
  constructor
  intro input path member
  obtain ⟨innerPath, found, rfl⟩ := mem_paths_group member
  obtain ⟨first, head, shorter⟩ := longest.first input innerPath found
  exact ⟨first.capture index, head_group head, shorter⟩

theorem LongestFirst.optional (longest : inner.LongestFirst) : (optional inner).LongestFirst := by
  constructor
  intro input path member
  cases listed : inner.paths input with
  | nil =>
    unfold paths at member ⊢
    rw [listed] at member ⊢
    rw [List.mem_singleton.mp member]
    exact ⟨_, rfl, Nat.le_refl _⟩
  | cons first others =>
    have head : ((Pattern.optional inner).paths input).head? = some first := by
      unfold paths
      rw [listed]
      rfl
    refine ⟨first, head, ?_⟩
    rcases List.mem_append.mp member with inside | skipped
    · obtain ⟨best, innerHead, shorter⟩ := longest.first input path inside
      rw [listed] at innerHead
      cases innerHead
      exact shorter
    · have inside : first ∈ inner.paths input := by
        rw [listed]
        exact List.mem_cons_self
      have split := taken_append_rest inside
      rw [List.mem_singleton.mp skipped]
      rw [← split, List.length_append]
      exact Nat.le_add_left _ _

theorem Determined.seq (determined : first.Determined) (longest : second.LongestFirst) :
    (seq first second).LongestFirst := by
  constructor
  intro input path member
  obtain ⟨earlier, inFirst, later, inSecond, rfl⟩ := mem_paths_seq member
  obtain ⟨head, listed, isHead⟩ := head_of_mem inFirst
  rw [determined.same input earlier head inFirst listed] at inSecond
  obtain ⟨best, nextHead, shorter⟩ := longest.first head.rest later inSecond
  exact ⟨_, head_seq isHead nextHead, shorter⟩

/-- An optional part can only follow the longest repetition if it begins with an
element the repetition does not take. -/
theorem Greedy.optional {accepts : α → Bool} (greedy : first.Greedy accepts)
    (outside : second.StartsOutside accepts) (longest : second.LongestFirst) :
    (Pattern.seq first (.optional second)).LongestFirst := by
  constructor
  intro input path member
  obtain ⟨earlier, inFirst, later, inSecond, rfl⟩ := mem_paths_seq member
  obtain ⟨head, isHead, stops⟩ := greedy.first input earlier inFirst
  rcases stops with same | ⟨less, element, tail, next, accepted⟩
  · rw [← same] at inSecond
    obtain ⟨best, nextHead, shorter⟩ := longest.optional.first head.rest later inSecond
    exact ⟨_, head_seq isHead nextHead, shorter⟩
  · have skipped : later.rest = earlier.rest := by
      rcases List.mem_append.mp inSecond with inside | skipped
      · obtain ⟨other, _, starts, refused⟩ := outside.start earlier.rest later inside
        rw [next] at starts
        cases starts
        rw [accepted] at refused
        cases refused
      · rw [List.mem_singleton.mp skipped]
    have skips : (⟨[], head.rest, []⟩ : Path α) ∈ (Pattern.optional second).paths head.rest :=
      List.mem_append_right _ List.mem_cons_self
    obtain ⟨best, nextHead, shorter⟩ := longest.optional.first head.rest _ skips
    refine ⟨_, head_seq isHead nextHead, ?_⟩
    change best.rest.length ≤ later.rest.length
    rw [skipped]
    exact Nat.le_of_lt (Nat.lt_of_le_of_lt shorter less)

/-! ### Search and full match -/

theorem LongestFirst.matchStart_of_fullMatch (longest : pattern.LongestFirst)
    (whole : pattern.fullMatch input = some path) : pattern.matchStart input = some path := by
  unfold fullMatch at whole
  have member := List.mem_of_find?_eq_some whole
  have nothing : path.rest.isEmpty = true := by
    simpa using List.find?_some whole
  obtain ⟨first, head, shorter⟩ := longest.first input path member
  obtain ⟨others, listed⟩ := List.head?_eq_some_iff.mp head
  rw [List.isEmpty_iff.mp nothing] at shorter
  have empty : first.rest.isEmpty = true :=
    List.isEmpty_iff.mpr (List.length_eq_zero_iff.mp (Nat.le_zero.mp shorter))
  rw [listed] at whole
  simp only [List.find?_cons, empty] at whole
  unfold matchStart
  rw [head]
  exact whole

theorem search_of_matchStart (found : pattern.matchStart input = some path) :
    pattern.search input = some path := by
  unfold search
  cases input with
  | nil =>
    change List.findSome? pattern.matchStart [[]] = _
    rw [List.findSome?_cons, found]
  | cons element tail =>
    rw [List.tails_cons, List.findSome?_cons, found]

end Pattern

end SipCore.Regex
