/-
Fractions of two integers. A denominator may be negative: dividing by a negative
value makes one, and nothing brings the sign back to the numerator. The arithmetic
follows the fractions denoted all the same; the order does not always.
-/

import Mathlib.Algebra.Order.Field.Basic
import Mathlib.Algebra.Order.Ring.Int
import Mathlib.Data.Int.GCD
import Mathlib.Data.Rat.Cast.Order
import Mathlib.Tactic.FieldSimp
import Mathlib.Tactic.Ring

namespace SipCore

structure Rational where
  num : Int := 0
  den : Int := 1
  deriving DecidableEq, Repr

namespace Rational

theorem natAbs_tmod_lt (a : Int) {b : Int} (nonzero : b ≠ 0) : (a.tmod b).natAbs < b.natAbs := by
  rw [Int.natAbs_tmod]
  exact Nat.mod_lt _ (Int.natAbs_pos.mpr nonzero)

/-- `std::modulus` is the remainder of the division that truncates. -/
def gcd (a b : Int) : Int :=
  if b = 0 then a else gcd b (a.tmod b)
termination_by b.natAbs
decreasing_by
  rename_i nonzero
  exact natAbs_tmod_lt a nonzero

def divisor (r : Rational) : Int :=
  gcd (if r.num ≥ 0 then r.num else -r.num) (if r.den ≥ 0 then r.den else -r.den)

def reduce (r : Rational) : Rational :=
  if r.num ≠ 0 ∧ r.den ≠ 0 then
    if r.divisor > 1 then ⟨r.num.tdiv r.divisor, r.den.tdiv r.divisor⟩ else r
  else r

def make (n d : Int) : Rational := reduce ⟨n, d⟩

def ofInt (n : Int) : Rational := { num := n }

def add (l r : Rational) : Rational := make (l.num * r.den + r.num * l.den) (l.den * r.den)

def sub (l r : Rational) : Rational := make (l.num * r.den - r.num * l.den) (l.den * r.den)

def mul (l r : Rational) : Rational := make (l.num * r.num) (l.den * r.den)

def div (l r : Rational) : Rational := make (l.num * r.den) (l.den * r.num)

instance : Add Rational := ⟨add⟩
instance : Sub Rational := ⟨sub⟩
instance : Mul Rational := ⟨mul⟩
instance : Div Rational := ⟨div⟩

def mulAssign (l r : Rational) : Rational := reduce ⟨l.num * r.num, l.den * r.den⟩

def divAssign (l r : Rational) : Rational := reduce ⟨l.num * r.den, l.den * r.num⟩

def addAssignInt (l : Rational) (i : Int) : Rational := { l with num := l.num + i * l.den }

def subAssignInt (l : Rational) (i : Int) : Rational := { l with num := l.num - i * l.den }

def mulAssignInt (l : Rational) (i : Int) : Rational := reduce { l with num := l.num * i }

def divAssignInt (l : Rational) (i : Int) : Rational := reduce { l with den := l.den * i }

def intDiv (i : Int) (r : Rational) : Rational := make (i * r.den) r.num

def lt (l r : Rational) : Bool :=
  (decide (l.den > 0) != decide (r.den > 0)) != decide (l.num * r.den < l.den * r.num)

def gt (l r : Rational) : Bool :=
  (decide (l.den > 0) != decide (r.den > 0)) != decide (l.num * r.den > l.den * r.num)

def eq (l r : Rational) : Bool := l.num * r.den == l.den * r.num

def ne (l r : Rational) : Bool := l.num * r.den != l.den * r.num

def ltInt (l : Rational) (i : Int) : Bool :=
  if l.den < 0 then decide (l.num > i * l.den) else decide (l.num < i * l.den)

def gtInt (l : Rational) (i : Int) : Bool :=
  if l.den < 0 then decide (l.num < i * l.den) else decide (l.num > i * l.den)

def eqInt (l : Rational) (i : Int) : Bool := l.num == i * l.den

def neInt (l : Rational) (i : Int) : Bool := l.num != i * l.den

/-! ### What a fraction denotes -/

def value (r : Rational) : ℚ := r.num / r.den

private theorem gcd_eq (b : Int) : ∀ a : Int, 0 ≤ a → 0 ≤ b → gcd a b = Int.gcd a b := by
  induction size : b.natAbs using Nat.strongRecOn generalizing b with
  | ind size ih =>
    intro a first second
    rw [gcd]
    split
    · rename_i zero
      rw [zero, Int.gcd_zero_right, Int.natAbs_of_nonneg first]
    · rename_i nonzero
      rw [ih _ (size ▸ natAbs_tmod_lt a nonzero) _ rfl b second (Int.tmod_nonneg b first),
        Int.tmod_eq_emod_of_nonneg first, Int.gcd_comm, Int.gcd_emod]

theorem divisor_eq (r : Rational) : r.divisor = Int.gcd r.num r.den := by
  unfold divisor
  rw [gcd_eq _ _ (by split <;> omega) (by split <;> omega)]
  split <;> split <;> simp only [Int.gcd_neg, Int.neg_gcd]

theorem value_tdiv {n d g : Int} (nonzero : g ≠ 0) (numerator : g ∣ n) (denominator : g ∣ d) :
    value ⟨n.tdiv g, d.tdiv g⟩ = value ⟨n, d⟩ := by
  obtain ⟨a, rfl⟩ := numerator
  obtain ⟨b, rfl⟩ := denominator
  unfold value
  rw [Int.mul_tdiv_cancel_left _ nonzero, Int.mul_tdiv_cancel_left _ nonzero]
  push_cast
  rw [mul_div_mul_left _ _ (Int.cast_ne_zero.mpr nonzero)]

theorem value_reduce (r : Rational) : r.reduce.value = r.value := by
  unfold reduce
  split
  · split
    · apply value_tdiv (by omega)
      · rw [divisor_eq]
        exact Int.gcd_dvd_left ..
      · rw [divisor_eq]
        exact Int.gcd_dvd_right ..
    · rfl
  · rfl

theorem value_make (n d : Int) : (make n d).value = n / d := value_reduce ⟨n, d⟩

section Arithmetic

variable {l r : Rational}

theorem value_add (left : l.den ≠ 0) (right : r.den ≠ 0) : (l + r).value = l.value + r.value := by
  change (make _ _).value = _
  rw [value_make]
  unfold value
  rw [div_add_div _ _ (Int.cast_ne_zero.mpr left) (Int.cast_ne_zero.mpr right)]
  push_cast
  rw [mul_comm (r.num : ℚ)]

theorem value_sub (left : l.den ≠ 0) (right : r.den ≠ 0) : (l - r).value = l.value - r.value := by
  change (make _ _).value = _
  rw [value_make]
  unfold value
  rw [div_sub_div _ _ (Int.cast_ne_zero.mpr left) (Int.cast_ne_zero.mpr right)]
  push_cast
  rw [mul_comm (r.num : ℚ)]

private theorem value_product (l r : Rational) :
    value ⟨l.num * r.num, l.den * r.den⟩ = l.value * r.value := by
  unfold value
  rw [div_mul_div_comm]
  push_cast
  rfl

theorem value_quotient (l r : Rational) :
    value ⟨l.num * r.den, l.den * r.num⟩ = l.value / r.value := by
  unfold value
  rw [div_div_div_eq]
  push_cast
  rfl

theorem value_mul (l r : Rational) : (l * r).value = l.value * r.value :=
  (value_reduce _).trans (value_product l r)

private theorem value_div (l r : Rational) : (l / r).value = l.value / r.value :=
  (value_reduce _).trans (value_quotient l r)

theorem value_addAssignInt (left : l.den ≠ 0) (i : Int) :
    (l.addAssignInt i).value = l.value + i := by
  have nonzero : (l.den : ℚ) ≠ 0 := Int.cast_ne_zero.mpr left
  unfold value addAssignInt
  push_cast
  rw [add_div, mul_div_cancel_right₀ _ nonzero]

theorem value_subAssignInt (left : l.den ≠ 0) (i : Int) :
    (l.subAssignInt i).value = l.value - i := by
  have nonzero : (l.den : ℚ) ≠ 0 := Int.cast_ne_zero.mpr left
  unfold value subAssignInt
  push_cast
  rw [sub_div, mul_div_cancel_right₀ _ nonzero]

theorem value_mulAssignInt (l : Rational) (i : Int) : (l.mulAssignInt i).value = l.value * i := by
  unfold mulAssignInt
  rw [value_reduce]
  unfold value
  push_cast
  rw [div_mul_eq_mul_div]

theorem value_divAssignInt (l : Rational) (i : Int) : (l.divAssignInt i).value = l.value / i := by
  unfold divAssignInt
  rw [value_reduce]
  unfold value
  push_cast
  rw [div_div]

theorem value_intDiv (i : Int) (r : Rational) : (intDiv i r).value = i / r.value := by
  unfold intDiv
  rw [value_make]
  unfold value
  push_cast
  rw [div_div_eq_mul_div]

end Arithmetic

section Order

variable {l r : Rational}

def SameSign (l r : Rational) : Prop := l.den > 0 ↔ r.den > 0

instance : Decidable (SameSign l r) := inferInstanceAs (Decidable (_ ↔ _))

section

variable (left : l.den ≠ 0) (right : r.den ≠ 0)
include left right

theorem sameSign_iff : SameSign l r ↔ 0 < l.den * r.den := by
  rw [mul_pos_iff]
  unfold SameSign
  omega

theorem value_eq_iff : l.value = r.value ↔ l.num * r.den = l.den * r.num := by
  unfold value
  rw [div_eq_div_iff (Int.cast_ne_zero.mpr left) (Int.cast_ne_zero.mpr right), mul_comm l.den]
  exact_mod_cast Iff.rfl

theorem value_sub_value :
    l.value - r.value =
      ((l.num * r.den - l.den * r.num : Int) : ℚ) / ((l.den * r.den : Int) : ℚ) := by
  unfold value
  rw [div_sub_div _ _ (Int.cast_ne_zero.mpr left) (Int.cast_ne_zero.mpr right)]
  push_cast
  rfl

private theorem value_lt_iff :
    l.value < r.value ↔ SameSign l r ∧ l.num * r.den < l.den * r.num ∨
      ¬SameSign l r ∧ l.den * r.num < l.num * r.den := by
  have product : l.den * r.den ≠ 0 := mul_ne_zero left right
  rw [← sub_neg, value_sub_value left right, div_neg_iff, sameSign_iff left right]
  simp only [Int.cast_pos, Int.cast_lt_zero, sub_pos, sub_neg, not_lt]
  constructor
  · rintro (⟨above, negative⟩ | ⟨below, positive⟩)
    · exact .inr ⟨negative.le, above⟩
    · exact .inl ⟨positive, below⟩
  · rintro (⟨positive, below⟩ | ⟨negative, above⟩)
    · exact .inr ⟨below, positive⟩
    · exact .inl ⟨above, lt_of_le_of_ne negative product⟩

end

private theorem lt_iff (l r : Rational) :
    l.lt r = true ↔ (SameSign l r ↔ l.num * r.den < l.den * r.num) := by
  unfold lt SameSign
  by_cases first : l.den > 0 <;> by_cases second : r.den > 0 <;>
    by_cases below : l.num * r.den < l.den * r.num <;> simp [first, second, below]

theorem lt_agrees_iff (left : l.den ≠ 0) (right : r.den ≠ 0) :
    (l.lt r = true ↔ l.value < r.value) ↔ SameSign l r ∨ l.value ≠ r.value := by
  rw [lt_iff, value_lt_iff left right, ne_eq, value_eq_iff left right]
  by_cases same : SameSign l r
  · simp only [same, true_iff, true_and, not_true, false_and, or_false, true_or]
  · simp only [same, false_iff, false_and, false_or, not_false_eq_true, true_and]
    omega

private theorem gt_eq (l r : Rational) : l.gt r = r.lt l := by
  have products : decide (l.num * r.den > l.den * r.num) =
      decide (r.num * l.den < r.den * l.num) := by
    rw [mul_comm l.num, mul_comm l.den]
  have signs : (decide (l.den > 0) != decide (r.den > 0)) =
      (decide (r.den > 0) != decide (l.den > 0)) := bne_comm
  unfold gt lt
  rw [products, signs]

private theorem gt_agrees_iff (left : l.den ≠ 0) (right : r.den ≠ 0) :
    (l.gt r = true ↔ l.value > r.value) ↔ SameSign l r ∨ l.value ≠ r.value := by
  rw [gt_eq, lt_agrees_iff right left, ne_comm]
  exact or_congr_left iff_comm

theorem value_lt_int_iff (left : l.den ≠ 0) (i : Int) :
    l.value < i ↔ l.ltInt i = true := by
  unfold value ltInt
  split
  · rename_i negative
    rw [div_lt_iff_of_neg (Int.cast_lt_zero.mpr negative), decide_eq_true_eq]
    exact_mod_cast Iff.rfl
  · have positive : 0 < l.den := by omega
    rw [div_lt_iff₀ (Int.cast_pos.mpr positive), decide_eq_true_eq]
    exact_mod_cast Iff.rfl

private theorem int_lt_value_iff (left : l.den ≠ 0) (i : Int) :
    i < l.value ↔ l.gtInt i = true := by
  unfold value gtInt
  split
  · rename_i negative
    rw [lt_div_iff_of_neg (Int.cast_lt_zero.mpr negative), decide_eq_true_eq]
    exact_mod_cast Iff.rfl
  · have positive : 0 < l.den := by omega
    rw [lt_div_iff₀ (Int.cast_pos.mpr positive), decide_eq_true_eq]
    exact_mod_cast Iff.rfl

theorem value_eq_int_iff (left : l.den ≠ 0) (i : Int) : l.value = i ↔ l.num = i * l.den := by
  unfold value
  rw [div_eq_iff (Int.cast_ne_zero.mpr left)]
  exact_mod_cast Iff.rfl

end Order

structure ArithmeticAgrees (l r : Rational) : Prop where
  add : (l + r).value = l.value + r.value
  sub : (l - r).value = l.value - r.value
  mul : (l * r).value = l.value * r.value
  div : r.value ≠ 0 → (l / r).value = l.value / r.value
  mulAssign : (l.mulAssign r).value = l.value * r.value
  divAssign : r.value ≠ 0 → (l.divAssign r).value = l.value / r.value

structure IntArithmeticAgrees (l : Rational) (i : Int) : Prop where
  converted : ArithmeticAgrees l (ofInt i)
  addAssign : (l.addAssignInt i).value = l.value + i
  subAssign : (l.subAssignInt i).value = l.value - i
  mulAssign : (l.mulAssignInt i).value = l.value * i
  divAssign : i ≠ 0 → (l.divAssignInt i).value = l.value / i
  intDiv : l.value ≠ 0 → (intDiv i l).value = i / l.value

structure OrderAgrees (l r : Rational) : Prop where
  lt : l.lt r = true ↔ l.value < r.value
  gt : l.gt r = true ↔ l.value > r.value
  eq : l.eq r = true ↔ l.value = r.value
  ne : l.ne r = true ↔ l.value ≠ r.value

structure IntOrderAgrees (l : Rational) (i : Int) : Prop where
  lt : l.ltInt i = true ↔ l.value < i
  gt : l.gtInt i = true ↔ l.value > i
  eq : l.eqInt i = true ↔ l.value = i
  ne : l.neInt i = true ↔ l.value ≠ i

theorem arithmeticAgrees {l r : Rational} (left : l.den ≠ 0) (right : r.den ≠ 0) :
    ArithmeticAgrees l r where
  add := value_add left right
  sub := value_sub left right
  mul := value_mul l r
  div := fun _ => value_div l r
  mulAssign := value_mul l r
  divAssign := fun _ => value_div l r

private theorem intArithmeticAgrees {l : Rational} (left : l.den ≠ 0) (i : Int) :
    IntArithmeticAgrees l i where
  converted := arithmeticAgrees left Int.one_ne_zero
  addAssign := value_addAssignInt left i
  subAssign := value_subAssignInt left i
  mulAssign := value_mulAssignInt l i
  divAssign := fun _ => value_divAssignInt l i
  intDiv := fun _ => value_intDiv i l

theorem intOrderAgrees {l : Rational} (left : l.den ≠ 0) (i : Int) : IntOrderAgrees l i where
  lt := (value_lt_int_iff left i).symm
  gt := (int_lt_value_iff left i).symm
  eq := by rw [value_eq_int_iff left, eqInt, beq_iff_eq]
  ne := by rw [ne_eq, value_eq_int_iff left, neInt, bne_iff_ne]

private theorem orderAgrees_iff {l r : Rational} (left : l.den ≠ 0) (right : r.den ≠ 0) :
    OrderAgrees l r ↔ SameSign l r ∨ l.value ≠ r.value := by
  constructor
  · intro agrees
    exact (lt_agrees_iff left right).mp agrees.lt
  · intro condition
    constructor
    · exact (lt_agrees_iff left right).mpr condition
    · exact (gt_agrees_iff left right).mpr condition
    · rw [value_eq_iff left right, eq, beq_iff_eq]
    · rw [ne_eq, value_eq_iff left right, ne, bne_iff_ne]

/-- Every operator means what it does on the fractions denoted, unless the same
fraction is compared with itself over a denominator of the other sign. -/
theorem operators_agree_iff (l r : Rational) (i : Int) (left : l.den ≠ 0) (right : r.den ≠ 0) :
    (ArithmeticAgrees l r ∧ IntArithmeticAgrees l i ∧ OrderAgrees l r ∧ IntOrderAgrees l i) ↔
      SameSign l r ∨ l.value ≠ r.value := by
  rw [orderAgrees_iff left right]
  constructor
  · intro agrees
    exact agrees.2.2.1
  · intro condition
    exact ⟨arithmeticAgrees left right, intArithmeticAgrees left i, condition,
      intOrderAgrees left i⟩

theorem negative_denominators_agree :
    ArithmeticAgrees ⟨1, -2⟩ ⟨1, -3⟩ ∧ IntArithmeticAgrees ⟨1, -2⟩ 5 ∧
      OrderAgrees ⟨1, -2⟩ ⟨1, -3⟩ ∧ IntOrderAgrees ⟨1, -2⟩ 5 :=
  (operators_agree_iff ⟨1, -2⟩ ⟨1, -3⟩ 5 (by decide) (by decide)).mpr (.inl (by decide))

private theorem make_of_coprime {n d : Int} (coprime : Int.gcd n d = 1) : make n d = ⟨n, d⟩ := by
  have single : (Rational.mk n d).divisor = 1 := by
    rw [divisor_eq, coprime]
    rfl
  unfold make reduce
  rw [single, if_neg (Int.lt_irrefl 1), ite_self]

/-- One divided by minus two against minus one divided by two: equal, and less. -/
theorem half_below_itself :
    ofInt 1 / ofInt (-2) = ⟨1, -2⟩ ∧ ofInt (-1) / ofInt 2 = ⟨-1, 2⟩ ∧
      (ofInt 1 / ofInt (-2)).value = (ofInt (-1) / ofInt 2).value ∧
      (ofInt 1 / ofInt (-2)).lt (ofInt (-1) / ofInt 2) = true ∧
      (ofInt 1 / ofInt (-2)).gt (ofInt (-1) / ofInt 2) = true := by
  have first : make 1 (-2) = ⟨1, -2⟩ := make_of_coprime (by decide)
  have second : make (-1) 2 = ⟨-1, 2⟩ := make_of_coprime (by decide)
  change make 1 (-2) = _ ∧ make (-1) 2 = _ ∧ (make 1 (-2)).value = (make (-1) 2).value ∧
    (make 1 (-2)).lt (make (-1) 2) = true ∧ (make 1 (-2)).gt (make (-1) 2) = true
  rw [first, second]
  refine ⟨rfl, rfl, ?_, by decide, by decide⟩
  exact (value_eq_iff (by decide) (by decide)).mpr (by decide)

end Rational
end SipCore
