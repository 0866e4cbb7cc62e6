/-
Joining strings by a separator and splitting at its characters. The split scans with
two pointers, here positions; it leaves the empty pieces out and stops once the
second pointer is at the end, or the first.
-/

import Mathlib.Data.Finset.Sort

namespace SipCore.StringUtils

abbrev Text := List UInt8

variable {α : Type} [DecidableEq α]

def stringJoinVec (vec : List (List α)) (separator : List α) : List α := separator.intercalate vec

def stringJoinSet (set : Finset Text) (separator : Text) : Text :=
  stringJoinVec (set.sort (· ≤ ·)) separator

def findFirstOf (str separator : List α) (first : Nat) : Nat :=
  first + (str.drop first).findIdx (fun char => separator.contains char)

def slice (str : List α) (first second : Nat) : List α := (str.drop first).take (second - first)

/-- The loop of both splits. No result means that the rounds given were not enough. -/
def splitLoop {β : Type} (emplace : β → List α → β) (str separator : List α) :
    Nat → Nat → Nat → β → Option β
  | 0, _, _, _ => none
  | rounds + 1, first, second, output =>
    if second ≠ str.length ∧ first ≠ str.length then
      splitLoop emplace str separator rounds (findFirstOf str separator first + 1)
        (findFirstOf str separator first)
        (if first ≠ findFirstOf str separator first then
          emplace output (slice str first (findFirstOf str separator first))
        else output)
    else some output

def stringSplitVec (str separator : List α) : Option (List (List α)) :=
  splitLoop (fun output piece => output ++ [piece]) str separator (str.length + 1) 0 0 []

def stringSplitSet (str separator : List α) : Option (Finset (List α)) :=
  splitLoop (fun output piece => insert piece output) str separator (str.length + 1) 0 0 ∅

def pieces (str separator : List α) : List (List α) :=
  (str.splitOnP (fun char => separator.contains char)).filter (fun piece => piece ≠ [])

section Loop

variable {β : Type} (emplace : β → List α → β) (str separator : List α)

private theorem splitLoop_of_end (rounds : Nat) {first second : Nat} (output : β)
    (ended : second = str.length ∨ first = str.length) :
    splitLoop emplace str separator (rounds + 1) first second output = some output := by
  apply if_neg
  rintro ⟨notSecond, notFirst⟩
  rcases ended with second | first
  · exact notSecond second
  · exact notFirst first

theorem pieces_of_plain {rest : List α} (plain : ∀ char ∈ rest, separator.contains char = false) :
    pieces rest separator = [rest].filter (fun piece => piece ≠ []) := by
  unfold pieces
  rw [List.splitOnP_eq_singleton plain]

private theorem pieces_of_found {before after : List α} {char : α}
    (plain : ∀ char ∈ before, separator.contains char = false)
    (found : separator.contains char = true) :
    pieces (before ++ char :: after) separator =
      [before].filter (fun piece => piece ≠ []) ++ pieces after separator := by
  unfold pieces
  rw [List.splitOnP_append_cons_of_forall_mem plain _ found, ← List.singleton_append,
    List.filter_append]

omit [DecidableEq α] in
theorem emplace_slice (first length : Nat) (output : β) (inside : length ≤ (str.drop first).length) :
    (if first ≠ first + length then emplace output (slice str first (first + length)) else output) =
      ([(str.drop first).take length].filter (fun piece => piece ≠ [])).foldl emplace output := by
  unfold slice
  rw [Nat.add_sub_cancel_left]
  cases length with
  | zero => simp
  | succ length =>
    have nonempty : (str.drop first).take (length + 1) ≠ [] := by
      intro empty
      have size := congrArg List.length empty
      rw [List.length_take, List.length_nil] at size
      omega
    rw [if_pos (by omega), List.filter_singleton, decide_eq_true nonempty]
    rfl

private theorem splitLoop_eq (rounds : Nat) :
    ∀ (first second : Nat) (output : β), first ≤ str.length → str.length - first < rounds →
      (second = str.length → first = str.length) →
      splitLoop emplace str separator rounds first second output =
        some ((pieces (str.drop first) separator).foldl emplace output) := by
  induction rounds with
  | zero =>
    intro first second output inside enough
    exact absurd enough (Nat.not_lt_zero _)
  | succ rounds ih =>
    intro first second output inside enough ended
    by_cases atEnd : first = str.length
    · rw [splitLoop_of_end emplace str separator rounds output (.inr atEnd), atEnd,
        List.drop_length]
      rfl
    · let rest := str.drop first
      let index := rest.findIdx (fun char => separator.contains char)
      have size : rest.length = str.length - first := List.length_drop
      have bound : index ≤ rest.length := List.findIdx_le_length
      have front : ∀ char ∈ rest.take index, separator.contains char = false := by
        intro char member
        obtain ⟨position, within, rfl⟩ := List.getElem_of_mem member
        rw [List.getElem_take]
        exact List.not_of_lt_findIdx (Nat.lt_of_lt_of_le within (List.length_take_le _ _))
      unfold splitLoop
      rw [if_pos ⟨fun second => atEnd (ended second), atEnd⟩]
      change splitLoop emplace str separator rounds (first + index + 1) (first + index)
        (if first ≠ first + index then emplace output (slice str first (first + index))
          else output) = some ((pieces rest separator).foldl emplace output)
      rw [emplace_slice emplace str first index output bound]
      by_cases found : index < rest.length
      · have split : rest = rest.take index ++ rest[index] :: str.drop (first + index + 1) := by
          rw [Nat.add_assoc, ← List.drop_drop, List.getElem_cons_drop, List.take_append_drop]
        rw [ih _ _ _ (by omega) (by omega) (by omega), split,
          pieces_of_found separator front List.findIdx_getElem, List.foldl_append]
      · have whole : index = rest.length := by omega
        have second : first + index = str.length := by omega
        obtain ⟨more, rfl⟩ : ∃ more, rounds = more + 1 := ⟨rounds - 1, by omega⟩
        rw [splitLoop_of_end emplace str separator more _ (.inl second), whole,
          List.take_length, pieces_of_plain separator (List.findIdx_eq_length.mp whole)]

end Loop

theorem foldl_insert (items : List (List α)) (output : Finset (List α)) :
    items.foldl (fun output piece => insert piece output) output = output ∪ items.toFinset := by
  induction items generalizing output with
  | nil => simp
  | cons item rest ih =>
    rw [List.foldl_cons, ih, List.toFinset_cons, Finset.insert_union, Finset.union_insert]

theorem splitLoop_start {β : Type} (emplace : β → List α → β) (str separator : List α)
    (output : β) :
    splitLoop emplace str separator (str.length + 1) 0 0 output =
      some ((pieces str separator).foldl emplace output) :=
  splitLoop_eq emplace str separator _ 0 0 output (Nat.zero_le _) (Nat.lt_succ_self _) id

theorem stringSplitVec_eq (str separator : List α) :
    stringSplitVec str separator = some (pieces str separator) := by
  unfold stringSplitVec
  rw [splitLoop_start, List.foldl_append_eq_append, List.nil_append, ← List.flatMap_def,
    List.flatMap_singleton']

-- The last piece ends the scan by the first pointer, not by the second.
example : stringSplitVec (α := UInt8) [0x2F, 0x61, 0x2F, 0x2F, 0x62, 0x2F] [0x2F] =
    some [[0x61], [0x62]] := by
  decide

theorem stringSplitSet_eq (str separator : List α) :
    stringSplitSet str separator = some (pieces str separator).toFinset := by
  unfold stringSplitSet
  rw [splitLoop_start, foldl_insert, Finset.empty_union]

def Plain (char : α) (text : List α) : Prop := text ≠ [] ∧ char ∉ text

instance (char : α) (text : List α) : Decidable (Plain char text) :=
  inferInstanceAs (Decidable (_ ∧ _))

theorem pieces_stringJoinVec (char : α) (vec : List (List α))
    (plain : ∀ text ∈ vec, Plain char text) : pieces (stringJoinVec vec [char]) [char] = vec := by
  have single : (fun other => [char].contains other) = (fun other : α => other == char) := by
    funext other
    rw [List.contains_cons, List.contains_nil, Bool.or_false]
  unfold pieces stringJoinVec
  rw [single, ← List.splitOn_eq_splitOnP]
  by_cases empty : vec = []
  · rw [empty]
    rfl
  · rw [List.splitOn_intercalate char (fun text member => (plain text member).2) empty,
      List.filter_eq_self]
    intro text member
    exact decide_eq_true (plain text member).1

def slash : UInt8 := 0x2F

/-- A list of strings, or a set of them, is read back from the joined string. -/
theorem split_join (vec : List Text) (set : Finset Text)
    (listed : ∀ text ∈ vec, Plain slash text) (collected : ∀ text ∈ set, Plain slash text) :
    stringSplitVec (stringJoinVec vec [slash]) [slash] = some vec ∧
      stringSplitSet (stringJoinSet set [slash]) [slash] = some set := by
  constructor
  · rw [stringSplitVec_eq, pieces_stringJoinVec slash vec listed]
  · have sorted : ∀ text ∈ set.sort (· ≤ ·), Plain slash text := by
      intro text member
      exact collected text ((Finset.mem_sort _).mp member)
    unfold stringJoinSet
    rw [stringSplitSet_eq, pieces_stringJoinVec slash _ sorted, Finset.sort_toFinset]

theorem two_texts_read_back :
    stringSplitVec (stringJoinVec [[0x62], [0x61, 0x63]] [slash]) [slash] =
        some [[0x62], [0x61, 0x63]] ∧
      stringSplitSet (stringJoinSet {[0x62], [0x61, 0x63]} [slash]) [slash] =
        some {[0x62], [0x61, 0x63]} :=
  split_join [[0x62], [0x61, 0x63]] {[0x62], [0x61, 0x63]} (by decide) (by decide)

end SipCore.StringUtils
