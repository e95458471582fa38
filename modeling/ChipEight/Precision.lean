import ChipEight.Failure

/-!
# Precision and extents

How far integers reach.  Exact integers have no bounds.  Bounded ones have sixty-four bits with a
sign: a number that is given must fit, and a product loses the bits that do not.

Each side of a grid, and the number of places that the sides span together, must be within reach of
the integers that count them.  A side of length zero does not count towards that number.
-/

namespace ChipEight

/-! ## Rounding

Quotients are rounded to the nearest integer, and numbers to fifty-three significant bits.  Of two
nearest integers the even one is taken.
-/

namespace Rounding

/-- The nearest integer to a quotient. -/
def nearest (value unit : Nat) : Nat :=
  let below := value / unit
  let excess := 2 * (value % unit)
  if unit < excess ∨ excess = unit ∧ below % 2 = 1 then below + 1 else below

/-- The nearest natural number with at most fifty-three significant bits. -/
def significantNat (number : Nat) : Nat :=
  let unit := 1 <<< (number.log2 - 52)
  unit * nearest number unit

/-- The nearest number with at most fifty-three significant bits. -/
def significant (number : Int) : Int :=
  number.sign * significantNat number.natAbs

/-- Rounding moves a quotient by at most a half. -/
theorem nearest_error (value unit : Nat) (positive : 0 < unit) :
    2 * value ≤ 2 * (unit * nearest value unit) + unit ∧
      2 * (unit * nearest value unit) ≤ 2 * value + unit := by
  have parts := Nat.div_add_mod value unit
  have bound := Nat.mod_lt value positive
  simp only [nearest]
  split
  · rw [Nat.mul_add, Nat.mul_one]
    omega
  · omega

/-- What a number is rounded to a multiple of is at most the number itself. -/
theorem significantNat_le (number : Nat) : 2 * significantNat number ≤ 3 * number := by
  rcases Nat.eq_zero_or_pos number with rfl | positive
  · decide
  · have shifted : 1 <<< (number.log2 - 52) = 2 ^ (number.log2 - 52) := by
      rw [Nat.shiftLeft_eq, Nat.one_mul]
    have unit : 2 ^ (number.log2 - 52) ≤ number := calc
      2 ^ (number.log2 - 52) ≤ 2 ^ number.log2 := Nat.pow_le_pow_right Nat.two_pos (Nat.sub_le ..)
      _ ≤ number := Nat.log2_self_le (Nat.ne_of_gt positive)
    have error := (nearest_error number (2 ^ (number.log2 - 52)) (Nat.two_pow_pos _)).2
    rw [significantNat, shifted]
    omega

theorem natAbs_significant_le (number : Int) :
    2 * (significant number).natAbs ≤ 3 * number.natAbs := by
  rw [significant, Int.natAbs_mul, Int.natAbs_sign, Int.natAbs_natCast]
  split
  · rw [Nat.zero_mul]
    omega
  · rw [Nat.one_mul]
    exact significantNat_le _

end Rounding

/-! ## Extents of grids -/

/-- How far integers reach. -/
inductive Precision
  | exact
  | bounded
  deriving DecidableEq, Repr

namespace Precision

/-- Whether a number that is given can be taken. -/
def admits : Precision → Int → Bool
  | exact, _ => true
  | bounded, number => Int64.minValue.toInt ≤ number && number ≤ Int64.maxValue.toInt

/-- Whether a number that is given can be kept, as one that has a sign or as one that has none. -/
def keeps : Precision → Int → Bool
  | exact, _ => true
  | bounded, number => Int64.minValue.toInt ≤ number && number ≤ 18446744073709551615

/-- Whether a length can be measured. It is measured with fifty-three significant bits. -/
def measures : Precision → Int → Bool
  | exact, _ => true
  | bounded, length => (Rounding.significant length).natAbs ≤ 9223372036854775808

/-- What remains of a product. -/
def reduce : Precision → Int → Int
  | exact, number => number
  | bounded, number => (Int64.ofInt number).toInt

theorem admits_bounded {number : Int} (natural : 0 ≤ number)
    (held : number ≤ Int64.maxValue.toInt) : bounded.admits number = true := by
  have lowest : Int64.minValue.toInt ≤ 0 := by decide
  simp only [admits, Bool.and_eq_true, decide_eq_true_eq]
  exact ⟨Int.le_trans lowest natural, held⟩

theorem le_of_admits_bounded {number : Int} (fits : bounded.admits number = true) :
    number ≤ Int64.maxValue.toInt := by
  simp only [admits, Bool.and_eq_true, decide_eq_true_eq] at fits
  exact fits.2

theorem reduce_of_admits (precision : Precision) (number : Int)
    (fits : precision.admits number = true) : precision.reduce number = number := by
  cases precision with
  | exact => rfl
  | bounded =>
      simp only [admits, Bool.and_eq_true, decide_eq_true_eq] at fits
      exact Int64.toInt_ofInt_of_le (Int.le_trans (by decide) fits.1)
        (Int.lt_of_le_of_lt fits.2 (by decide))

end Precision

namespace Extent

/-- How many places the sides span that are not of length zero. -/
def span (sides : List Int) : Int :=
  (sides.filter (· ≠ 0)).foldl (· * ·) 1

/-- Whether there can be a grid with these sides. -/
def check (precision : Precision) (sides : List Int) : Except Failure Unit :=
  if !sides.all precision.admits then .error .dimensionTooLarge
  else if sides.any (· < 0) then .error .negativeDimension
  else if !precision.admits (span sides) then .error .gridTooLarge
  else .ok ()

end Extent

end ChipEight
