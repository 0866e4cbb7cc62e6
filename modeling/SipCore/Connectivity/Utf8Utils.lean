/-
The UTF-8 validator and the repair of names. Memory is the list of bytes from a
pointer on, a pointer the number of bytes in front of it. `left` is what is left
of `max_len`; the variant for terminated strings has none. A byte behind the end
of the list is never asked for where the code's own conditions hold: the list
then goes on to the terminator or beyond the length.
-/

import SipCore.Library.Utf8Text

namespace SipCore.Utf8

open Utf8Text

def unicodeValid (char : UInt32) : Bool :=
  char < 0x110000 && char &&& 0xFFFFF800 != 0xD800

def appendSix (val : UInt32) (p : UInt8) : UInt32 := val <<< 6 ||| (p &&& 0x3f).toUInt32

/-- `CONTINUATION_CHAR` and the pointer moved behind it; `none` is the jump to `error`. -/
def continuationChar (val : UInt32) : List UInt8 → Option (UInt32 × List UInt8)
  | [] => none
  | p :: rest => if p &&& 0xc0 != 0x80 then none else some (appendSix val p, rest)

def twoRemaining (min val : UInt32) (p : List UInt8) : Bool :=
  match continuationChar val p with
  | none => false
  | some (val, p) =>
    match continuationChar val p with
    | none => false
    | some (val, _) => !(val < min) && unicodeValid val

def threeRemaining (min val : UInt32) (p : List UInt8) : Bool :=
  match continuationChar val p with
  | none => false
  | some (val, p) => twoRemaining min val p

def tooShort (left : Option Nat) (needed : Nat) : Bool :=
  match left with
  | none => false
  | some left => left < needed

/-- One round of the loop: how far `p` moves, `none` if the round ends at `error`. -/
def sequenceLength (left : Option Nat) : List UInt8 → Option Nat
  | [] => none
  | p :: rest =>
    if p < 128 then some 1
    else if p &&& 0xe0 == 0xc0 then
      if tooShort left 2 then none
      else if p &&& 0x1e == 0 then none
      else
        match rest with
        | [] => none
        | next :: _ => if next &&& 0xc0 != 0x80 then none else some 2
    else if p &&& 0xf0 == 0xe0 then
      if tooShort left 3 then none
      else if twoRemaining ((1 : UInt32) <<< 11) (p &&& 0x0f).toUInt32 rest then some 3
      else none
    else if p &&& 0xf8 == 0xf0 then
      if tooShort left 4 then none
      else if threeRemaining ((1 : UInt32) <<< 16) (p &&& 0x07).toUInt32 rest then some 4
      else none
    else none

/-- The loop of both variants; every round moves on by a byte at least. -/
def validateLoop : Nat → Option Nat → List UInt8 → Nat
  | 0, _, _ => 0
  | _ + 1, _, [] => 0
  | fuel + 1, left, p :: rest =>
    if left = some 0 || p = 0 then 0
    else
      match sequenceLength left (p :: rest) with
      | none => 0
      | some moved =>
        moved + validateLoop fuel (left.map (· - moved)) ((p :: rest).drop moved)

def fastValidate (str : List UInt8) : Nat := validateLoop str.length none str

def fastValidateLen (str : List UInt8) (maxLen : Nat) : Nat :=
  validateLoop str.length (some maxLen) str

def utf8ValidateCStr (str : List UInt8) (maxLen : Int) : Bool × Nat :=
  let p := if maxLen < 0 then fastValidate str else fastValidateLen str maxLen.toNat
  if (maxLen ≥ 0 && (p : Int) != maxLen) || (maxLen < 0 && str[p]? != some 0) then (false, p)
  else (true, p)

def utf8Validate (str : List UInt8) (size : Nat) : Bool :=
  str[fastValidateLen str size]? == some 0

def replacement : List UInt8 := [0xEF, 0xBF, 0xBD]

/-- The loop with `str` as the bytes from it to `pos`, where it is set. Each round
puts `pos` back to `str`, so what earlier rounds wrote is written over. -/
def makeValidLoop : Nat → List UInt8 → Option (List UInt8) → Option (List UInt8) × List UInt8
  | 0, remainder, str => (str, remainder)
  | fuel + 1, remainder, str =>
    if remainder.length = 0 then (str, remainder)
    else
      match utf8ValidateCStr remainder remainder.length with
      | (true, _) => (str, remainder)
      | (false, invalid) =>
        makeValidLoop fuel (remainder.drop (invalid + 1))
          (some (remainder.take invalid ++ replacement))

variable (val : UInt32) {rest remainder : List UInt8} (fuel : Nat)

variable (byte lead : UInt8) (bytes str name : List UInt8) {front : List UInt8}

def utf8MakeValid (name : List UInt8) : List UInt8 :=
  match makeValidLoop name.length name none with
  | (none, _) => name
  | (some str, remainder) => str ++ remainder

section OneCharacter

open ByteArray.utf8DecodeChar?

theorem forall_byte {property : UInt8 → Prop} (each : ∀ value < 256, property (UInt8.ofNat value)) :
    ∀ byte, property byte := by
  intro byte
  have here := each byte.toNat byte.toNat_lt
  rwa [UInt8.ofNat_toNat] at here

private theorem lt_128_iff : byte < 128 ↔ byte &&& 0x80 = 0 := by
  revert byte
  apply forall_byte
  decide +kernel

theorem surrogate_iff : val &&& 0xFFFFF800 = 0xD800 ↔ 0xD800 ≤ val.toNat ∧ val.toNat ≤ 0xDFFF := by
  rw [← UInt32.toNat_inj]
  have bounded := val.toNat_lt
  simp only [UInt32.toNat_and, UInt32.reduceToNat]
  generalize val.toNat = number at bounded
  -- The mask keeps the upper 21 bits and clears the 11 below them.
  have high : (number &&& 0xFFFFF800) / 2 ^ 11 = number / 2 ^ 11 % 2 ^ 21 := by
    rw [Nat.and_div_two_pow, ← Nat.and_two_pow_sub_one_eq_mod]
  have low : (number &&& 0xFFFFF800) % 2 ^ 11 = 0 := by
    rw [Nat.and_mod_two_pow]
    exact Nat.and_zero _
  omega

theorem toNat_appendSix (small : val.toNat < 67108864) :
    (appendSix val byte).toNat = val.toNat * 64 + (byte &&& 0x3f).toNat := by
  have low : (byte &&& 0x3f).toNat < 2 ^ 6 := UInt8.and_lt_add_one (by decide)
  unfold appendSix
  rw [UInt32.toNat_or, UInt32.toNat_shiftLeft, UInt8.toNat_toUInt32]
  simp only [UInt32.reduceToNat, Nat.reduceMod, Nat.shiftLeft_eq]
  rw [Nat.mod_eq_of_lt (by omega), Nat.mul_comm, ← Nat.two_pow_add_eq_or_of_lt low]

theorem toNat_appendSix_lt (bound : Nat) (small : val.toNat < bound) (fits : bound ≤ 67108864) :
    (appendSix val byte).toNat < bound * 64 := by
  have low : (byte &&& 0x3f).toNat < 2 ^ 6 := UInt8.and_lt_add_one (by decide)
  rw [toNat_appendSix val byte (Nat.lt_of_lt_of_le small fits)]
  omega

theorem shiftLeft_shiftLeft_six : val <<< 6 <<< 6 = val <<< 12 ∧ val <<< 6 <<< 12 = val <<< 18 := by
  constructor
  all_goals
    apply UInt32.toNat.inj
    simp only [UInt32.toNat_shiftLeft, UInt32.reduceToNat, Nat.reduceMod, Nat.shiftLeft_eq]
    omega

private theorem assemble₃Unchecked_eq (lead first second : UInt8) :
    assemble₃Unchecked lead first second =
      appendSix (appendSix (lead &&& 0x0f).toUInt32 first) second := by
  unfold appendSix
  rw [UInt32.shiftLeft_or, (shiftLeft_shiftLeft_six _).1]
  rfl

private theorem assemble₄Unchecked_eq (lead first second third : UInt8) :
    assemble₄Unchecked lead first second third =
      appendSix (appendSix (appendSix (lead &&& 0x07).toUInt32 first) second) third := by
  unfold appendSix
  rw [UInt32.shiftLeft_or, UInt32.shiftLeft_or, UInt32.shiftLeft_or, (shiftLeft_shiftLeft_six _).1,
    (shiftLeft_shiftLeft_six _).1, (shiftLeft_shiftLeft_six _).2]
  rfl

theorem unicodeValid_iff :
    unicodeValid val = true ↔
      val.toNat < 0x110000 ∧ ¬ (0xD800 ≤ val.toNat ∧ val.toNat ≤ 0xDFFF) := by
  unfold unicodeValid
  rw [Bool.and_eq_true, decide_eq_true_eq, bne_iff_ne, Ne, surrogate_iff]
  rfl

theorem continuationChar_cons (rest : List UInt8) :
    continuationChar val (byte :: rest) =
      if isInvalidContinuationByte byte then none else some (appendSix val byte, rest) := rfl

theorem twoRemaining_eq_true (min val : UInt32) (first second : UInt8) (rest : List UInt8) :
    twoRemaining min val (first :: second :: rest) = true ↔
      isInvalidContinuationByte first = false ∧ isInvalidContinuationByte second = false ∧
        min.toNat ≤ (appendSix (appendSix val first) second).toNat ∧
        unicodeValid (appendSix (appendSix val first) second) = true := by
  unfold twoRemaining
  rw [continuationChar_cons]
  cases bad : isInvalidContinuationByte first with
  | true => simp
  | false =>
    simp only [Bool.false_eq_true, if_false, continuationChar_cons]
    cases worse : isInvalidContinuationByte second with
    | true => simp
    | false => simp [UInt32.le_iff_toNat_le]

theorem verify₂_eq (lead next : UInt8) :
    verify₂ lead next = (!(lead &&& 0x1e == 0) && !(next &&& 0xc0 != 0x80)) := by
  have high : ∀ byte : UInt8, 2 ≤ (byte &&& 0x1f).toNat ↔ byte &&& 0x1e ≠ 0 := by
    apply forall_byte
    decide +kernel
  have low : (next &&& 0x3f).toNat < 64 := UInt8.and_lt_add_one (by decide)
  have small : (lead &&& 0x1f).toNat < 32 := UInt8.and_lt_add_one (by decide)
  have value : (assemble₂Unchecked lead next).toNat =
      (lead &&& 0x1f).toNat * 64 + (next &&& 0x3f).toNat :=
    toNat_appendSix (lead &&& 0x1f).toUInt32 next (Nat.lt_trans small (by decide))
  have overlong : (0x80 ≤ assemble₂Unchecked lead next) ↔ lead &&& 0x1e ≠ 0 := by
    rw [UInt32.le_iff_toNat_le, ← high]
    change 128 ≤ _ ↔ _
    omega
  unfold verify₂ isInvalidContinuationByte
  cases bad : next &&& 0xc0 != 0x80 with
  | true => simp
  | false =>
    rw [Bool.eq_iff_iff]
    simp [overlong]

private theorem verify₃_eq (lead first second : UInt8) (rest : List UInt8) :
    verify₃ lead first second =
      twoRemaining ((1 : UInt32) <<< 11) (lead &&& 0x0f).toUInt32 (first :: second :: rest) := by
  have small : (lead &&& 0x0f).toNat < 16 := UInt8.and_lt_add_one (by decide)
  have bounded := toNat_appendSix_lt _ second _
    (toNat_appendSix_lt (lead &&& 0x0f).toUInt32 first 16 small (by decide)) (by decide)
  rw [Bool.eq_iff_iff, twoRemaining_eq_true, unicodeValid_iff]
  unfold verify₃
  rw [assemble₃Unchecked_eq]
  change _ ↔ _ ∧ _ ∧ 0x800 ≤ _ ∧ _
  cases isInvalidContinuationByte first with
  | true => simp
  | false =>
    cases isInvalidContinuationByte second with
    | true => simp
    | false =>
      simp only [UInt32.le_iff_toNat_le, UInt32.lt_iff_toNat_lt, UInt32.reduceToNat,
        Bool.or_false, Bool.false_eq_true, if_false, decide_eq_true_eq, true_and]
      omega

private theorem verify₄_eq (lead first second third : UInt8) (rest : List UInt8) :
    verify₄ lead first second third =
      threeRemaining ((1 : UInt32) <<< 16) (lead &&& 0x07).toUInt32
        (first :: second :: third :: rest) := by
  rw [Bool.eq_iff_iff]
  unfold verify₄ threeRemaining
  rw [assemble₄Unchecked_eq, continuationChar_cons]
  cases isInvalidContinuationByte first with
  | true => simp
  | false =>
    simp only [Bool.false_eq_true, if_false, twoRemaining_eq_true, unicodeValid_iff]
    change _ ↔ _ ∧ _ ∧ 0x10000 ≤ _ ∧ _
    cases isInvalidContinuationByte second with
    | true => simp
    | false =>
      cases isInvalidContinuationByte third with
      | true => simp
      | false =>
        simp only [UInt32.le_iff_toNat_le, UInt32.reduceToNat, Bool.or_false,
          Bool.false_eq_true, if_false, decide_eq_true_eq, true_and]
        omega

theorem twoRemaining_short (min val : UInt32) (short : rest.length < 2) :
    twoRemaining min val rest = false := by
  rcases rest with _ | ⟨first, _ | ⟨second, behind⟩⟩
  · rfl
  · unfold twoRemaining
    rw [continuationChar_cons]
    cases isInvalidContinuationByte first with
    | true => rfl
    | false => rfl
  · simp only [List.length_cons] at short
    omega

theorem threeRemaining_short (min val : UInt32) (short : rest.length < 3) :
    threeRemaining min val rest = false := by
  cases rest with
  | nil => rfl
  | cons first behind =>
    unfold threeRemaining
    rw [continuationChar_cons]
    cases isInvalidContinuationByte first with
    | true => rfl
    | false => exact twoRemaining_short min _ (Nat.lt_of_succ_lt_succ short)

theorem isSome_accepted (accepted : Bool) (moved : Nat) :
    (if accepted then some moved else none).isSome = accepted := by
  cases accepted with
  | true => rfl
  | false => rfl

theorem sequenceLength_cons (rest : List UInt8) :
    sequenceLength none (lead :: rest) =
      match parseFirstByte lead with
      | .invalid => none
      | .done => some 1
      | .oneMore =>
        match rest with
        | [] => none
        | next :: _ => if verify₂ lead next then some 2 else none
      | .twoMore =>
        if twoRemaining ((1 : UInt32) <<< 11) (lead &&& 0x0f).toUInt32 rest then some 3 else none
      | .threeMore =>
        if threeRemaining ((1 : UInt32) <<< 16) (lead &&& 0x07).toUInt32 rest then some 4
        else none := by
  unfold parseFirstByte sequenceLength
  dsimp only
  by_cases one : lead < 128
  · rw [if_pos one, if_pos (beq_iff_eq.mpr ((lt_128_iff lead).mp one))]
  · rw [if_neg one, if_neg (fun zero => one ((lt_128_iff lead).mpr (beq_iff_eq.mp zero)))]
    by_cases two : (lead &&& 0xe0 == 0xc0) = true
    · rw [if_pos two, if_pos two]
      cases rest with
      | nil => simp [tooShort]
      | cons next behind =>
        simp only [tooShort, Bool.false_eq_true, if_false, verify₂_eq]
        cases lead &&& 0x1e == 0 with
        | true => simp
        | false => cases next &&& 0xc0 != 0x80 with | true => simp | false => simp
    · rw [if_neg two, if_neg two]
      by_cases three : (lead &&& 0xf0 == 0xe0) = true
      · rw [if_pos three, if_pos three]
        rfl
      · rw [if_neg three, if_neg three]
        by_cases four : (lead &&& 0xf8 == 0xf0) = true
        · rw [if_pos four, if_pos four]
          rfl
        · rw [if_neg four, if_neg four]

private theorem isSome_sequenceLength :
    (sequenceLength none bytes).isSome = bytes.toByteArray.validateUTF8At 0 := by
  cases bytes with
  | nil => rfl
  | cons lead rest =>
    unfold ByteArray.validateUTF8At
    rw [dif_pos (by simp)]
    split
    all_goals
      rename_i kind
      rw [List.getElem_toByteArray, List.getElem_cons_zero] at kind
      rw [sequenceLength_cons, kind]
    -- by the kind of the first byte, then by how many bytes follow it
    · rfl
    · rfl
    · rcases rest with _ | ⟨next, behind⟩
      · rfl
      · simp [isSome_accepted]
    · rcases rest with _ | ⟨first, _ | ⟨second, behind⟩⟩
      · rfl
      · rw [twoRemaining_short _ _ (by simp)]
        rfl
      · rw [isSome_accepted, ← verify₃_eq]
        simp
    · rcases rest with _ | ⟨first, _ | ⟨second, _ | ⟨third, behind⟩⟩⟩
      · rfl
      · rw [threeRemaining_short _ _ (by simp)]
        rfl
      · rw [threeRemaining_short _ _ (by simp)]
        rfl
      · rw [isSome_accepted, ← verify₄_eq]
        simp

private theorem utf8ByteSize_eq (begins : lead.IsUTF8FirstByte) :
    lead.utf8ByteSize begins =
      match parseFirstByte lead with
      | .done => 1
      | .oneMore => 2
      | .twoMore => 3
      | .threeMore | .invalid => 4 := by
  unfold UInt8.utf8ByteSize parseFirstByte
  simp only [beq_iff_eq]
  split_ifs
  all_goals rfl

theorem sequenceLength_eq_utf8ByteSize {lead : UInt8} {moved : Nat}
    (accepted : sequenceLength none (lead :: rest) = some moved) (begins : lead.IsUTF8FirstByte) :
    lead.utf8ByteSize begins = moved := by
  rw [utf8ByteSize_eq]
  rw [sequenceLength_cons] at accepted
  cases kind : parseFirstByte lead with
  | invalid =>
    rw [kind] at accepted
    cases accepted
  | done =>
    rw [kind] at accepted
    exact Option.some.inj accepted
  | oneMore =>
    rw [kind] at accepted
    cases rest with
    | nil => cases accepted
    | cons next behind => exact Option.some.inj (Option.ite_none_right_eq_some.mp accepted).2
  | twoMore =>
    rw [kind] at accepted
    exact Option.some.inj (Option.ite_none_right_eq_some.mp accepted).2
  | threeMore =>
    rw [kind] at accepted
    exact Option.some.inj (Option.ite_none_right_eq_some.mp accepted).2

private theorem utf8Size_of_sequenceLength {bytes : List UInt8} {moved : Nat} {char : Char}
    (accepted : sequenceLength none bytes = some moved)
    (decoded : bytes.toByteArray.utf8DecodeChar? 0 = some char) : char.utf8Size = moved := by
  have known : (bytes.toByteArray.utf8DecodeChar? 0).isSome := by
    rw [decoded]
    rfl
  have same : bytes.toByteArray.utf8DecodeChar 0 known = char := by
    exact Option.get_of_eq_some known decoded
  have size := ByteArray.utf8Size_utf8DecodeChar (h := known)
  rw [same] at size
  cases bytes with
  | nil => cases accepted
  | cons lead rest =>
    rw [size]
    simp only [List.getElem_toByteArray, List.getElem_cons_zero]
    exact sequenceLength_eq_utf8ByteSize accepted _

theorem sequenceLength_eq_some (moved : Nat) :
    sequenceLength none bytes = some moved ↔
      ∃ char, String.utf8EncodeChar char <+: bytes ∧
        (String.utf8EncodeChar char).length = moved := by
  have accepts := isSome_sequenceLength bytes
  rw [ByteArray.validateUTF8At_eq_isSome_utf8DecodeChar?] at accepts
  simp only [String.length_utf8EncodeChar, encode_isPrefix]
  constructor
  · intro accepted
    rw [accepted] at accepts
    rcases Option.isSome_iff_exists.mp accepts.symm with ⟨char, decoded⟩
    exact ⟨char, decoded, utf8Size_of_sequenceLength accepted decoded⟩
  · rintro ⟨char, decoded, size⟩
    rw [decoded] at accepts
    rcases Option.isSome_iff_exists.mp accepts with ⟨other, accepted⟩
    rw [accepted, ← size, utf8Size_of_sequenceLength accepted decoded]

theorem twoRemaining_take (min val : UInt32) (rest : List UInt8) {count : Nat}
    (enough : 2 ≤ count) : twoRemaining min val (rest.take count) = twoRemaining min val rest := by
  rcases rest with _ | ⟨first, _ | ⟨second, behind⟩⟩
  · rw [List.take_nil]
  · rw [List.take_of_length_le (by simp only [List.length_singleton]; omega)]
  · obtain ⟨more, rfl⟩ : ∃ more, count = more + 2 := ⟨count - 2, by omega⟩
    rw [Bool.eq_iff_iff, List.take_succ_cons, List.take_succ_cons, twoRemaining_eq_true,
      twoRemaining_eq_true]

private theorem threeRemaining_take (min val : UInt32) (rest : List UInt8) {count : Nat}
    (enough : 3 ≤ count) :
    threeRemaining min val (rest.take count) = threeRemaining min val rest := by
  cases rest with
  | nil => rw [List.take_nil]
  | cons first behind =>
    obtain ⟨more, rfl⟩ : ∃ more, count = more + 1 := ⟨count - 1, by omega⟩
    unfold threeRemaining
    rw [List.take_succ_cons, continuationChar_cons, continuationChar_cons]
    cases isInvalidContinuationByte first with
    | true => rfl
    | false => exact twoRemaining_take min _ behind (by omega)

theorem tooShort_none (needed : Nat) : tooShort none needed = false := rfl

theorem tooShort_some (left needed : Nat) : tooShort (some left) needed = true ↔ left < needed :=
  decide_eq_true_iff

private theorem guarded_check {check : List UInt8 → Bool} {needed : Nat} (moved : Nat)
    (refused : ∀ bytes : List UInt8, bytes.length < needed → check bytes = false)
    (within : ∀ (bytes : List UInt8) (count : Nat), needed ≤ count →
      check (bytes.take count) = check bytes) (rest : List UInt8) (count : Nat) :
    (if tooShort (some (count + 1)) (needed + 1) then none
      else if check rest then some moved else none) =
      if check (rest.take count) then some moved else none := by
  by_cases short : tooShort (some (count + 1)) (needed + 1) = true
  · rw [if_pos short]
    rw [tooShort_some] at short
    rw [refused _ (by rw [List.length_take]; omega)]
    rfl
  · rw [if_neg short]
    rw [tooShort_some] at short
    rw [within rest count (by omega)]

private theorem sequenceLength_some (rest : List UInt8) (count : Nat) :
    sequenceLength (some (count + 1)) (lead :: rest) =
      sequenceLength none (lead :: rest.take count) := by
  unfold sequenceLength
  simp only [tooShort_none, Bool.false_eq_true, if_false]
  split
  · rfl
  split
  · by_cases short : tooShort (some (count + 1)) 2 = true
    · rw [if_pos short]
      rw [tooShort_some] at short
      have zero : count = 0 := by omega
      subst zero
      split
      · rfl
      · rfl
    · rw [tooShort_some] at short
      obtain ⟨more, rfl⟩ : ∃ more, count = more + 1 := ⟨count - 1, by omega⟩
      cases rest with
      | nil => rfl
      | cons next behind => rfl
  split
  · exact guarded_check 3 (fun _ => twoRemaining_short _ _) (fun _ _ => twoRemaining_take _ _ _)
      rest count
  split
  · exact guarded_check 4 (fun _ => threeRemaining_short _ _)
      (fun _ _ => threeRemaining_take _ _ _) rest count
  · rfl

end OneCharacter

section Loop

theorem validateLoop_cons (left : Option Nat) (p : UInt8) (rest : List UInt8) :
    validateLoop (fuel + 1) left (p :: rest) =
      if left = some 0 || p = 0 then 0
      else
        match sequenceLength left (p :: rest) with
        | none => 0
        | some moved =>
          moved + validateLoop fuel (left.map (· - moved)) ((p :: rest).drop moved) := rfl

private theorem validateLoop_some (fuel left : Nat) (memory : List UInt8) :
    validateLoop fuel (some left) memory = validateLoop fuel none (memory.take left) := by
  induction fuel generalizing left memory with
  | zero => rfl
  | succ fuel ih =>
    cases memory with
    | nil =>
      rw [List.take_nil]
      rfl
    | cons p rest =>
      cases left with
      | zero => rfl
      | succ count =>
        rw [List.take_succ_cons, validateLoop_cons, validateLoop_cons, sequenceLength_some]
        simp only [Option.some.injEq, Nat.add_eq_zero_iff, Nat.one_ne_zero, and_false,
          reduceCtorEq]
        cases sequenceLength none (p :: rest.take count) with
        | none => rfl
        | some moved =>
          simp only [Option.map_some, Option.map_none]
          rw [ih, ← List.take_succ_cons, List.drop_take]

private theorem nul_iff_of_begins {char : Char} {p : UInt8}
    (begins : String.utf8EncodeChar char <+: p :: rest) : char = '\x00' ↔ p = 0 := by
  constructor
  · intro nul
    subst char
    exact (List.cons_prefix_cons.mp begins).1.symm
  · intro zero
    subst p
    apply zero_mem_encode.mp
    cases word : String.utf8EncodeChar char with
    | nil => exact absurd word String.utf8EncodeChar_ne_nil
    | cons head tail =>
      rw [word] at begins
      rw [(List.cons_prefix_cons.mp begins).1]
      exact List.mem_cons_self

theorem isLongest_validateLoop (enough : bytes.length ≤ fuel) :
    validateLoop fuel none bytes ≤ bytes.length ∧
      nulFree.IsLongest bytes (bytes.take (validateLoop fuel none bytes)) := by
  induction fuel generalizing bytes with
  | zero =>
    have empty : bytes = [] := List.length_eq_zero_iff.mp (Nat.le_zero.mp enough)
    subst bytes
    exact ⟨Nat.le_refl _, .of_isText PrefixCode.isText_nil⟩
  | succ fuel ih =>
    cases bytes with
    | nil => exact ⟨Nat.le_refl _, .of_isText PrefixCode.isText_nil⟩
    | cons p rest =>
      rw [validateLoop_cons]
      by_cases zero : p = 0
      · rw [if_pos (by simp [zero])]
        refine ⟨Nat.zero_le _, .nil ?_⟩
        intro char begins
        exact char.property ((nul_iff_of_begins begins).mpr zero)
      · rw [if_neg (by simp [zero])]
        cases round : sequenceLength none (p :: rest) with
        | none =>
          refine ⟨Nat.zero_le _, .nil ?_⟩
          intro char begins
          have accepted := (sequenceLength_eq_some _ _).mpr ⟨char.val, begins, rfl⟩
          rw [round] at accepted
          cases accepted
        | some moved =>
          rcases (sequenceLength_eq_some _ _).mp round with ⟨char, begins, size⟩
          have plain : char ≠ '\x00' := fun nul => zero ((nul_iff_of_begins begins).mp nul)
          rcases begins with ⟨behind, split⟩
          have positive : 0 < moved := by
            rw [← size]
            exact List.length_pos_iff.mpr String.utf8EncodeChar_ne_nil
          have total := congrArg List.length split
          rw [List.length_append, List.length_cons] at total
          rw [List.length_cons] at enough
          have later := ih behind (by omega)
          dsimp only
          rw [← split, ← size, List.drop_left, List.take_length_add_append,
            List.length_append]
          have longer := later.2.encode_append ⟨char, plain⟩
          exact ⟨Nat.add_le_add_left later.1 _, longer⟩

private theorem fastValidateLen_append (bytes beyond : List UInt8) :
    fastValidateLen (bytes ++ beyond) bytes.length =
      validateLoop (bytes ++ beyond).length none bytes := by
  unfold fastValidateLen
  rw [validateLoop_some, List.take_left]

theorem isLongest_fastValidateLen (bytes beyond : List UInt8) :
    fastValidateLen (bytes ++ beyond) bytes.length ≤ bytes.length ∧
      nulFree.IsLongest bytes
        (bytes.take (fastValidateLen (bytes ++ beyond) bytes.length)) := by
  rw [fastValidateLen_append]
  apply isLongest_validateLoop
  rw [List.length_append]
  exact Nat.le_add_right _ _

private theorem isLongest_terminated {text beyond : List UInt8}
    (here : nulFree.IsLongest (text ++ 0 :: beyond) front) : nulFree.IsLongest text front := by
  apply here.congr
  intro left valid
  constructor
  · intro begins
    by_cases short : left.length ≤ text.length
    · exact List.prefix_of_prefix_length_le begins (List.prefix_append _ _) short
    · have closed : text ++ [0] <+: text ++ 0 :: beyond :=
        (List.prefix_append_right_inj text).mpr ⟨beyond, rfl⟩
      have inside : text ++ [0] <+: left := by
        apply List.prefix_of_prefix_length_le closed begins
        rw [List.length_append, List.length_singleton]
        omega
      exact absurd (inside.subset (List.mem_append_right _ List.mem_cons_self))
        (nulFree_isText.mp valid).2
  · intro begins
    exact begins.trans (List.prefix_append _ _)

private theorem fastValidate_terminated (text beyond : List UInt8) :
    fastValidate (text ++ 0 :: beyond) = fastValidateLen (text ++ 0 :: beyond) text.length := by
  have whole := isLongest_validateLoop _ (text ++ 0 :: beyond) (Nat.le_refl _)
  have limited := isLongest_fastValidateLen text (0 :: beyond)
  have same := congrArg List.length ((isLongest_terminated whole.2).eq limited.2)
  rw [List.length_take_of_le whole.1, List.length_take_of_le limited.1] at same
  exact same

theorem utf8ValidateCStr_length (size : Nat) :
    utf8ValidateCStr str size =
      (decide (fastValidateLen str size = size), fastValidateLen str size) := by
  unfold utf8ValidateCStr
  have positive : ¬ (size : Int) < 0 := by omega
  simp only [Int.toNat_natCast, positive]
  by_cases all : fastValidateLen str size = size
  · simp [all]
  · have apart : (fastValidateLen str size : Int) ≠ size := by omega
    simp [all, apart]

private theorem utf8ValidateCStr_terminated :
    utf8ValidateCStr str (-1) =
      (decide (str[fastValidate str]? = some 0), fastValidate str) := by
  unfold utf8ValidateCStr
  by_cases closed : str[fastValidate str]? = some 0
  · simp [closed]
  · simp [closed]

theorem getElem?_stop {view : List UInt8} {stop : Nat} (inside : stop ≤ view.length)
    (next : UInt8) (beyond : List UInt8) :
    (stop = view.length ∧ (view ++ next :: beyond)[stop]? = some next) ∨
      ∃ byte rest, view = view.take stop ++ byte :: rest ∧
        (view ++ next :: beyond)[stop]? = some byte := by
  rcases Nat.lt_or_eq_of_le inside with before | whole
  · refine .inr ⟨view[stop], view.drop (stop + 1), ?_, ?_⟩
    · rw [List.getElem_cons_drop, List.take_append_drop]
    · rw [List.getElem?_append_left before, List.getElem?_eq_getElem before]
  · refine .inl ⟨whole, ?_⟩
    rw [whole, List.getElem?_append_right (Nat.le_refl _), Nat.sub_self]
    rfl

theorem accepts_iff (bytes beyond : List UInt8) :
    (utf8ValidateCStr (bytes ++ beyond) bytes.length).1 = true ↔ nulFree.IsText bytes := by
  have stop := isLongest_fastValidateLen bytes beyond
  rw [utf8ValidateCStr_length, stop.2.isText_iff, decide_eq_true_eq]
  constructor
  · intro whole
    rw [whole, List.take_length]
  · intro whole
    have sizes := congrArg List.length whole
    rwa [List.length_take_of_le stop.1] at sizes

/-- The verdict and the end of `utf8_validate_c_str`, with what lies behind the
bytes left open, and the agreement of its two variants on terminated strings. -/
theorem utf8ValidateCStr_correct (bytes beyond : List UInt8) :
    ((utf8ValidateCStr (bytes ++ beyond) bytes.length).1 = true ↔
        WellFormed bytes ∧ 0 ∉ bytes) ∧
      (utf8ValidateCStr (bytes ++ beyond) bytes.length).2 ≤ bytes.length ∧
      nulFree.IsLongest bytes
        (bytes.take (utf8ValidateCStr (bytes ++ beyond) bytes.length).2) ∧
      (0 ∉ bytes →
        utf8ValidateCStr (bytes ++ 0 :: beyond) (-1) =
          utf8ValidateCStr (bytes ++ 0 :: beyond) bytes.length) := by
  refine ⟨?_, ?_, ?_, ?_⟩
  · rw [accepts_iff, nulFree_isText]
  · rw [utf8ValidateCStr_length]
    exact (isLongest_fastValidateLen bytes beyond).1
  · rw [utf8ValidateCStr_length]
    exact (isLongest_fastValidateLen bytes beyond).2
  · intro absent
    rw [utf8ValidateCStr_terminated, utf8ValidateCStr_length, fastValidate_terminated]
    congr 1
    apply decide_eq_decide.mpr
    rcases getElem?_stop (isLongest_fastValidateLen bytes (0 :: beyond)).1 0 beyond with
      ⟨whole, found⟩ | ⟨byte, rest, split, found⟩
    · rw [found]
      exact iff_of_true rfl whole
    · rw [found]
      refine iff_of_false ?_ ?_
      · intro zero
        apply absent
        rw [split, ← Option.some.inj zero]
        exact List.mem_append_right _ List.mem_cons_self
      · intro whole
        rw [whole] at split
        simp at split

end Loop

/-- Where the scan of a view ends tells whether it is over: the byte right behind
a valid view is NUL, and a scan that ends inside the view does not end at a NUL. -/
def EndsTellingly (view : List UInt8) (next : UInt8) : Prop :=
  (nulFree.IsText view → next = 0) ∧
    ∀ front rest, nulFree.IsLongest view front → view ≠ front ++ 0 :: rest

theorem exists_stop (view : List UInt8) (next : UInt8) (beyond : List UInt8) :
    ∃ front byte, nulFree.IsLongest view front ∧
      (view ++ next :: beyond)[fastValidateLen (view ++ next :: beyond) view.length]? = some byte ∧
      ((front = view ∧ byte = next) ∨ ∃ rest, view = front ++ byte :: rest) := by
  have stop := isLongest_fastValidateLen view (next :: beyond)
  rcases getElem?_stop stop.1 next beyond with ⟨whole, found⟩ | ⟨byte, rest, split, found⟩
  · refine ⟨_, next, stop.2, found, .inl ⟨?_, rfl⟩⟩
    rw [whole, List.take_length]
  · exact ⟨_, byte, stop.2, found, .inr ⟨rest, split⟩⟩

/-- `utf8_validate` agrees with `utf8_validate_c_str` on the view exactly if the
scan ends tellingly. -/
theorem utf8Validate_agrees_iff (view : List UInt8) (next : UInt8) (beyond : List UInt8) :
    (utf8Validate (view ++ next :: beyond) view.length = true ↔
        (utf8ValidateCStr (view ++ next :: beyond) view.length).1 = true) ↔
      EndsTellingly view next := by
  rcases exists_stop view next beyond with ⟨front, byte, here, found, stopped⟩
  unfold utf8Validate EndsTellingly
  rw [beq_iff_eq, found, accepts_iff]
  rcases stopped with ⟨whole, same⟩ | ⟨rest, split⟩
  · subst front byte
    constructor
    · intro agrees
      refine ⟨fun text => Option.some.inj (agrees.mpr text), ?_⟩
      intro front rest there inside
      have whole := there.eq here
      subst front
      simp at inside
    · intro tells
      exact iff_of_true (congrArg some (tells.1 here.text)) here.text
  · subst split
    have invalid := here.not_isText
    constructor
    · intro agrees
      refine ⟨fun text => absurd text invalid, ?_⟩
      intro other behind there inside
      have same := there.eq here
      subst other
      injection List.append_cancel_left inside with zero _
      exact invalid (agrees.mp (congrArg some zero))
    · intro tells
      refine iff_of_false ?_ invalid
      intro zero
      exact tells.2 front rest here (by rw [Option.some.inj zero])

/-- Display names and texts come as views into received packets. A valid name
with a quote behind it is refused and the same name with a NUL behind it accepted;
a text with a NUL inside is accepted whatever follows the NUL. -/
theorem utf8Validate_misjudges :
    utf8Validate [0x42, 0x6F, 0x62, 0x22] 3 = false ∧
      (utf8ValidateCStr [0x42, 0x6F, 0x62, 0x22] 3).1 = true ∧
      utf8Validate [0x42, 0x6F, 0x62, 0x00] 3 = true ∧
      utf8Validate [0x68, 0x69, 0x00, 0xFF, 0x0D] 4 = true ∧
      (utf8ValidateCStr [0x68, 0x69, 0x00, 0xFF, 0x0D] 4).1 = false ∧
      ¬ WellFormed [0x68, 0x69, 0x00, 0xFF] := by
  refine ⟨by decide, by decide, by decide, by decide, by decide, ?_⟩
  intro whole
  have behind : ∀ char rest, utf8.IsText (utf8.encode char ++ rest) → utf8.IsText rest :=
    fun char rest => PrefixCode.isText_encode_append.mp
  have last : utf8.IsText [0xFF] :=
    behind '\x00' [0xFF] (behind 'i' [0x00, 0xFF] (behind 'h' [0x69, 0x00, 0xFF] whole))
  rcases last with ⟨text, spelled⟩
  cases text with
  | nil => cases spelled
  | cons char rest =>
    have accepted := (sequenceLength_eq_some [0xFF] _).mpr
      ⟨char, ⟨rest.flatMap utf8.encode, spelled.symm⟩, rfl⟩
    cases accepted

section MakeValid

theorem isText_replacement : nulFree.IsText replacement := ⟨[⟨'\uFFFD', by decide⟩], by decide⟩

theorem makeValidLoop_text (str : Option (List UInt8)) (text : nulFree.IsText remainder) :
    makeValidLoop fuel remainder str = (str, remainder) := by
  cases fuel with
  | zero => rfl
  | succ fuel =>
    have accepted := (accepts_iff remainder []).mpr text
    rw [List.append_nil] at accepted
    unfold makeValidLoop
    split
    · rfl
    · split
      · rfl
      · rename_i refused
        rw [refused] at accepted
        cases accepted

theorem makeValidLoop_stop {byte : UInt8} (str : Option (List UInt8))
    (here : nulFree.IsLongest (front ++ byte :: rest) front) :
    makeValidLoop (fuel + 1) (front ++ byte :: rest) str =
      makeValidLoop fuel rest (some (front ++ replacement)) := by
  have stop := isLongest_fastValidateLen (front ++ byte :: rest) []
  rw [List.append_nil] at stop
  have same := congrArg List.length (stop.2.eq here)
  rw [List.length_take_of_le stop.1] at same
  have refused : utf8ValidateCStr (front ++ byte :: rest) (front ++ byte :: rest).length =
      (false, front.length) := by
    rw [utf8ValidateCStr_length, same]
    simp
  rw [makeValidLoop, if_neg (by simp), refused]
  dsimp only
  rw [List.take_left, ← List.drop_drop, List.drop_left]
  rfl

private theorem makeValidLoop_some (remainder str : List UInt8) :
    ∃ last, makeValidLoop fuel remainder (some str) =
      (some last, (makeValidLoop fuel remainder (some str)).2) := by
  induction fuel generalizing remainder str with
  | zero => exact ⟨str, rfl⟩
  | succ fuel ih =>
    unfold makeValidLoop
    split
    · exact ⟨str, rfl⟩
    · split
      · exact ⟨str, rfl⟩
      · exact ih _ _

def joined (fuel : Nat) (remainder str : List UInt8) : List UInt8 :=
  match makeValidLoop fuel remainder (some str) with
  | (none, remainder) => remainder
  | (some str, remainder) => str ++ remainder

theorem joined_text (text : nulFree.IsText remainder) :
    joined fuel remainder str = str ++ remainder := by
  unfold joined
  rw [makeValidLoop_text fuel _ text]

theorem joined_stop {byte : UInt8} (here : nulFree.IsLongest (front ++ byte :: rest) front) :
    joined (fuel + 1) (front ++ byte :: rest) str = joined fuel rest (front ++ replacement) := by
  unfold joined
  rw [makeValidLoop_stop fuel _ here]

theorem utf8MakeValid_text {name : List UInt8} (text : nulFree.IsText name) :
    utf8MakeValid name = name := by
  unfold utf8MakeValid
  rw [makeValidLoop_text _ _ text]

theorem utf8MakeValid_stop {byte : UInt8} (here : nulFree.IsLongest (front ++ byte :: rest) front) :
    utf8MakeValid (front ++ byte :: rest) =
      joined (front.length + rest.length) rest (front ++ replacement) := by
  have size : (front ++ byte :: rest).length = front.length + rest.length + 1 := by
    rw [List.length_append, List.length_cons, Nat.add_assoc]
  unfold utf8MakeValid joined
  rw [size, makeValidLoop_stop _ _ here]
  rcases makeValidLoop_some (front.length + rest.length) rest (front ++ replacement) with
    ⟨last, ended⟩
  rw [ended]

theorem exists_repaired : ∃ fixed, nulFree.Repaired replacement name fixed := by
  induction size : name.length using Nat.strongRecOn generalizing name with
  | _ bound ih =>
    rcases exists_stop name 0 [] with ⟨front, byte, here, _, ⟨whole, _⟩ | ⟨rest, split⟩⟩
    · subst front
      exact ⟨name, .whole here.text⟩
    · subst name
      rw [List.length_append, List.length_cons] at size
      rcases ih rest.length (by omega) rest rfl with ⟨fixed, repaired⟩
      exact ⟨front ++ replacement ++ fixed, .stop here repaired⟩

theorem isText_joined {fixed : List UInt8} (repaired : nulFree.Repaired replacement remainder fixed)
    (fuel : Nat) (str : List UInt8) (enough : remainder.length ≤ fuel)
    (written : nulFree.IsText str) : nulFree.IsText (joined fuel remainder str) := by
  induction repaired generalizing fuel str with
  | whole text =>
    rw [joined_text fuel str text]
    exact PrefixCode.isText_append written text
  | @stop front byte rest output here later ih =>
    rw [List.length_append, List.length_cons] at enough
    obtain ⟨less, rfl⟩ : ∃ less, fuel = less + 1 := ⟨fuel - 1, by omega⟩
    rw [joined_stop less str here]
    exact ih less _ (by omega) (PrefixCode.isText_append here.text isText_replacement)

private theorem length_joined_le {fixed : List UInt8}
    (repaired : nulFree.Repaired replacement remainder fixed) (fuel : Nat) (str : List UInt8)
    (enough : remainder.length ≤ fuel) :
    (joined fuel remainder str).length ≤ str.length + fixed.length := by
  induction repaired generalizing fuel str with
  | whole text =>
    have size := congrArg List.length (joined_text fuel str text)
    rw [List.length_append] at size
    exact Nat.le_of_eq size
  | @stop front byte rest output here later ih =>
    rw [List.length_append, List.length_cons] at enough
    obtain ⟨less, rfl⟩ : ∃ less, fuel = less + 1 := ⟨fuel - 1, by omega⟩
    rw [joined_stop less str here]
    have shorter := ih less (front ++ replacement) (by omega)
    simp only [List.length_append] at shorter ⊢
    omega

theorem isText_utf8MakeValid : nulFree.IsText (utf8MakeValid name) := by
  rcases exists_repaired name with ⟨fixed, repaired⟩
  cases repaired with
  | whole text =>
    rw [utf8MakeValid_text text]
    exact text
  | @stop front byte rest output here later =>
    rw [utf8MakeValid_stop here]
    exact isText_joined later _ _ (Nat.le_add_left _ _)
      (PrefixCode.isText_append here.text isText_replacement)

theorem repaired_iff :
    nulFree.Repaired replacement name (utf8MakeValid name) ↔ nulFree.StopsAtMostOnce name := by
  rcases exists_repaired name with ⟨fixed, repaired⟩
  cases repaired with
  | whole text =>
    rw [utf8MakeValid_text text]
    exact iff_of_true (.whole text) (.inl text)
  | @stop front byte rest output here later =>
    rw [PrefixCode.stopsAtMostOnce_stop here, utf8MakeValid_stop here]
    cases later with
    | whole text =>
      refine iff_of_true ?_ text
      rw [joined_text _ _ text]
      exact .stop here (.whole text)
    | @stop second found behind fixed there later =>
      refine iff_of_false ?_ there.not_isText
      -- the second stop writes over what the first one left
      intro claimed
      rcases claimed.of_stop here with ⟨last, redone, same⟩
      rcases redone.of_stop there with ⟨tail, finished, spelled⟩
      have size : (second ++ found :: behind).length = second.length + behind.length + 1 := by
        rw [List.length_append, List.length_cons, Nat.add_assoc]
      have again := joined_stop (front.length + (second.length + behind.length))
        (front ++ replacement) there
      rw [size, ← Nat.add_assoc, again] at same
      have bounded := length_joined_le finished
        (front.length + (second.length + behind.length)) (second ++ replacement) (by omega)
      rw [same, spelled] at bounded
      simp only [List.length_append, replacement, List.length_cons] at bounded
      omega

/-- The name comes back repaired, byte for byte, exactly if the scan stops at one
byte at the most; what comes back is well formed in any case. -/
theorem utf8MakeValid_correct_iff (name : List UInt8) :
    (nulFree.Repaired replacement name (utf8MakeValid name) ∧ WellFormed (utf8MakeValid name)) ↔
      nulFree.StopsAtMostOnce name := by
  rw [repaired_iff]
  have valid := (nulFree_isText.mp (isText_utf8MakeValid name)).1
  exact and_iff_left valid

/-- With two invalid bytes the text in front of the first one is lost. -/
theorem utf8MakeValid_loses_text :
    utf8MakeValid [0x61, 0xFF, 0x62, 0xFF] = [0x62, 0xEF, 0xBF, 0xBD] ∧
      nulFree.Repaired replacement [0x61, 0xFF, 0x62, 0xFF]
        [0x61, 0xEF, 0xBF, 0xBD, 0x62, 0xEF, 0xBF, 0xBD] ∧
      ¬ nulFree.Repaired replacement [0x61, 0xFF, 0x62, 0xFF]
        (utf8MakeValid [0x61, 0xFF, 0x62, 0xFF]) := by
  have first : nulFree.IsLongest ([0x61] ++ 0xFF :: [0x62, 0xFF]) [0x61] :=
    (isLongest_fastValidateLen [0x61, 0xFF, 0x62, 0xFF] []).2
  have second : nulFree.IsLongest ([0x62] ++ 0xFF :: []) [0x62] :=
    (isLongest_fastValidateLen [0x62, 0xFF] []).2
  refine ⟨by decide, .stop first (.stop second (.whole PrefixCode.isText_nil)), ?_⟩
  rw [repaired_iff]
  intro once
  exact second.not_isText ((PrefixCode.stopsAtMostOnce_stop first).mp once)

def parseDisplayName (display : List UInt8) (next : UInt8) (beyond : List UInt8) : List UInt8 :=
  if display = [] then []
  else if !utf8Validate (display ++ next :: beyond) display.length then utf8MakeValid display
  else display

/-- A valid name that is taken for an invalid one is repaired into itself, so only
a NUL in the place of the first invalid byte lets an invalid name through. -/
theorem isText_parseDisplayName_iff (display : List UInt8) (next : UInt8) (beyond : List UInt8) :
    nulFree.IsText (parseDisplayName display next beyond) ↔
      ∀ front rest, nulFree.IsLongest display front → display ≠ front ++ 0 :: rest := by
  rcases exists_stop display next beyond with ⟨front, byte, here, found, stopped⟩
  unfold parseDisplayName utf8Validate
  rw [found]
  rcases stopped with ⟨whole, _⟩ | ⟨rest, split⟩
  · subst front
    refine iff_of_true ?_ ?_
    · split
      · exact PrefixCode.isText_nil
      · split
        · exact isText_utf8MakeValid display
        · exact here.text
    · intro front rest there inside
      have whole := there.eq here
      subst front
      simp at inside
  · subst split
    rw [if_neg (by simp)]
    by_cases zero : byte = 0
    · subst byte
      exact iff_of_false here.not_isText (fun plain => plain front rest here rfl)
    · rw [if_pos (by simp [zero])]
      refine iff_of_true (isText_utf8MakeValid _) ?_
      intro other behind there inside
      have same := there.eq here
      subst other
      injection List.append_cancel_left inside with nul _
      exact zero nul

end MakeValid

end SipCore.Utf8
