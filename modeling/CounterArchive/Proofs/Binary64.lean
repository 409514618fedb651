import CounterArchive.Binary64
import Mathlib.Algebra.Order.Field.Power
import Mathlib.Data.Rat.Floor
import Mathlib.Tactic.FieldSimp
import Mathlib.Tactic.Linarith
import Mathlib.Tactic.LinearCombination
import Mathlib.Tactic.NormNum
import Mathlib.Tactic.Positivity

/-! How far rounding takes a number. A rational is rounded by at most half a unit in the last place; where
it lies less than half a unit from a whole number of units, it is rounded to that one. -/
namespace CounterArchive.Binary64

variable {q : Rat} {n e : Int}

/-! Whole numbers near a rational -/

theorem floor_eq_iff : q.floor = n ↔ n ≤ q ∧ q < n + 1 := Int.floor_eq_iff (a := q)

theorem roundHalfEven_near (q : Rat) : |(roundHalfEven q : Rat) - q| ≤ 1 / 2 := by
  have below := Rat.floor_le q
  have above := Rat.lt_floor_add_one q
  push_cast at above
  rw [abs_le, roundHalfEven]
  split_ifs <;> push_cast <;> constructor <;> linarith

theorem roundHalfEven_nonneg (nonneg : 0 ≤ q) : 0 ≤ roundHalfEven q := by
  have floor : 0 ≤ q.floor := Rat.le_floor_iff.mpr (by simpa using nonneg)
  rw [roundHalfEven]
  split_ifs <;> omega

/-- A rational is rounded to the whole number that is less than a half away. -/
theorem roundHalfEven_of_close (close : |q - n| < 1 / 2) : roundHalfEven q = n := by
  have near := roundHalfEven_near q
  rw [abs_le] at near
  rw [abs_lt] at close
  have low : (roundHalfEven q : Rat) < (n + 1 : Int) := by push_cast; linarith
  have high : (n : Rat) < (roundHalfEven q + 1 : Int) := by push_cast; linarith
  have := Rat.intCast_lt_intCast.mp low
  have := Rat.intCast_lt_intCast.mp high
  omega

/-- Of two whole numbers that are a half away the even one is taken. -/
theorem roundHalfEven_of_even (even : n % 2 = 0) (close : |q - n| ≤ 1 / 2) : roundHalfEven q = n := by
  rcases close.lt_or_eq with less | half
  · exact roundHalfEven_of_close less
  · rcases (abs_eq (by norm_num)).mp half with above | below
    · have floor : q.floor = n := floor_eq_iff.mpr ⟨by linarith, by linarith⟩
      simp [roundHalfEven, floor, above, even]
    · have floor : q.floor = n - 1 := floor_eq_iff.mpr ⟨by push_cast; linarith, by push_cast; linarith⟩
      have excess : q - (n - 1) = 2⁻¹ := by linarith
      have odd : ¬ (n - 1) % 2 = 0 := by omega
      simp [roundHalfEven, floor, excess, odd]

/-- A quotient that is less than a half away from a whole number. -/
theorem roundHalfEven_div {d : Int} (positive : 0 < d) (low : 2 * d * n - d < 2 * e)
    (high : 2 * e < 2 * d * n + d) : roundHalfEven ((e : Rat) / d) = n := by
  have divisor : (0 : Rat) < d := by exact_mod_cast positive
  have lowRat : (2 * d * n - d : Rat) < 2 * e := by exact_mod_cast low
  have highRat : (2 * e : Rat) < 2 * d * n + d := by exact_mod_cast high
  apply roundHalfEven_of_close
  rw [abs_lt, lt_sub_iff_add_lt, sub_lt_iff_lt_add, lt_div_iff₀ divisor, div_lt_iff₀ divisor]
  constructor <;> linarith

/-- A quotient that is at most a half away from an even number. -/
theorem roundHalfEven_div_of_even {d : Int} (positive : 0 < d) (even : n % 2 = 0)
    (low : 2 * d * n - d ≤ 2 * e) (high : 2 * e ≤ 2 * d * n + d) :
    roundHalfEven ((e : Rat) / d) = n := by
  have divisor : (0 : Rat) < d := by exact_mod_cast positive
  have lowRat : (2 * d * n - d : Rat) ≤ 2 * e := by exact_mod_cast low
  have highRat : (2 * e : Rat) ≤ 2 * d * n + d := by exact_mod_cast high
  apply roundHalfEven_of_even even
  rw [abs_le, le_sub_iff_add_le, sub_le_iff_le_add, le_div_iff₀ divisor, div_le_iff₀ divisor]
  constructor <;> linarith

theorem truncateRat_eq_iff (nonneg : 0 ≤ q) : truncateRat q = n ↔ n ≤ q ∧ q < n + 1 := by
  rw [truncateRat, if_pos nonneg, floor_eq_iff]

/-! The order of magnitude -/

theorem powerOfTwo_eq (e : Int) : powerOfTwo e = 2 ^ e := by
  cases e with
  | ofNat n => simp [powerOfTwo]
  | negSucc n => simp [powerOfTwo, zpow_negSucc]

theorem magnitude_eq (q : Rat) : magnitude q = |q| := by
  unfold magnitude
  split_ifs with negative
  · exact (abs_of_neg negative).symm
  · exact (abs_of_nonneg (not_lt.mp negative)).symm

/-- A natural number between two powers of two. -/
theorem log2_bounds {n : Nat} (positive : 0 < n) :
    (2 : Rat) ^ (n.log2 : Int) ≤ n ∧ (n : Rat) < 2 ^ ((n.log2 : Int) + 1) := by
  have lower := Nat.log2_self_le (Nat.ne_of_gt positive)
  have upper := Nat.lt_log2_self (n := n)
  exact ⟨by exact_mod_cast lower, by exact_mod_cast upper⟩

/-- A positive number between two powers of two. -/
theorem logTwo_spec (positive : 0 < q) : (2 : Rat) ^ logTwo q ≤ q ∧ q < 2 ^ (logTwo q + 1) := by
  have numerator : 0 < q.num := Rat.num_pos.mpr positive
  obtain ⟨numLower, numUpper⟩ := log2_bounds (Int.natAbs_pos.mpr numerator.ne')
  obtain ⟨denLower, denUpper⟩ := log2_bounds q.den_pos
  have size : ((q.num.natAbs : Nat) : Rat) = q * q.den := by
    rw [Rat.mul_den_eq_num, ← Int.cast_natCast, Int.natAbs_of_nonneg numerator.le]
  rw [size] at numLower numUpper
  set a : Int := (q.num.natAbs.log2 : Int)
  set b : Int := (q.den.log2 : Int)
  have den : (0 : Rat) < q.den := by exact_mod_cast q.den_pos
  -- The guess, the difference of the two logarithms, is right or one too great.
  have lower : (2 : Rat) ^ (a - b - 1) < q := by
    refine lt_of_mul_lt_mul_right ?_ den.le
    calc (2 : Rat) ^ (a - b - 1) * q.den < 2 ^ (a - b - 1) * 2 ^ (b + 1) := by gcongr
      _ = 2 ^ a := by rw [← zpow_add₀ two_ne_zero]; congr 1; ring
      _ ≤ q * q.den := numLower
  have upper : q < 2 ^ (a - b + 1) := by
    refine lt_of_mul_lt_mul_right ?_ den.le
    calc q * q.den < 2 ^ (a + 1) := numUpper
      _ = 2 ^ (a - b + 1) * 2 ^ b := by rw [← zpow_add₀ two_ne_zero]; congr 1; ring
      _ ≤ 2 ^ (a - b + 1) * q.den := by gcongr
  have guess : logTwo q = if q < 2 ^ (a - b) then a - b - 1 else a - b := by
    rw [logTwo, magnitude_eq, abs_of_pos positive, powerOfTwo_eq]
  rw [guess]
  split_ifs with less
  · exact ⟨lower.le, by simpa using less⟩
  · exact ⟨not_lt.mp less, upper⟩

theorem logTwo_eq (lower : 2 ^ e ≤ q) (upper : q < 2 ^ (e + 1)) : logTwo q = e := by
  have positive : 0 < q := lt_of_lt_of_le (by positivity) lower
  obtain ⟨below, above⟩ := logTwo_spec positive
  have first := (zpow_lt_zpow_iff_right₀ (by norm_num)).mp (lower.trans_lt above)
  have second := (zpow_lt_zpow_iff_right₀ (by norm_num)).mp (below.trans_lt upper)
  omega

/-! Rounding -/

/-- The unit in the last place around a number. -/
def unit (q : Rat) : Rat := 2 ^ unitExponent q

theorem unit_pos (q : Rat) : 0 < unit q := zpow_pos two_pos _

theorem unit_eq (lower : 2 ^ e ≤ q) (upper : q < 2 ^ (e + 1)) (normal : -1022 ≤ e) :
    unit q = 2 ^ (e - 52) := by
  rw [unit, unitExponent, logTwo_eq lower upper, max_eq_right (by omega)]

theorem unit_le (positive : 0 < q) (upper : q < 2 ^ (e + 1)) (normal : -1022 ≤ e) :
    unit q ≤ 2 ^ (e - 52) := by
  have log := (zpow_lt_zpow_iff_right₀ (by norm_num)).mp ((logTwo_spec positive).1.trans_lt upper)
  rw [unit, unitExponent]
  exact zpow_le_zpow_right₀ (by norm_num) (by omega)

/-- Rounding to a whole number of units takes a number by at most half a unit. -/
theorem rounded_near (q : Rat) :
    |(roundHalfEven (q / unit q) : Rat) * unit q - q| ≤ unit q / 2 := by
  have positive := unit_pos q
  have apart : (roundHalfEven (q / unit q) : Rat) * unit q - q =
      (roundHalfEven (q / unit q) - q / unit q) * unit q := by field_simp
  calc |(roundHalfEven (q / unit q) : Rat) * unit q - q|
      = |(roundHalfEven (q / unit q) : Rat) - q / unit q| * unit q := by
        rw [apart, abs_mul, abs_of_pos positive]
    _ ≤ 1 / 2 * unit q := by gcongr; exact roundHalfEven_near _
    _ = unit q / 2 := by ring

/-- A positive number that is not too great is rounded to a whole number of units. -/
theorem ofRat_eq (positive : 0 < q) (moderate : q < 2 ^ (1023 : Int)) :
    ofRat q = .finite (roundHalfEven (q / unit q) * unit q) := by
  have small : unit q ≤ 2 ^ (1023 : Int) :=
    (unit_le (e := 1022) positive moderate (by norm_num)).trans
      (zpow_le_zpow_right₀ (by norm_num) (by norm_num))
  have near := rounded_near q
  have fits : |(roundHalfEven (q / unit q) : Rat) * unit q| < 2 ^ (1024 : Int) := by
    rw [show (2 : Rat) ^ (1024 : Int) = 2 ^ (1023 : Int) * 2 from zpow_add_one₀ two_ne_zero 1023]
    generalize (2 : Rat) ^ (1023 : Int) = bound at *
    rw [abs_le] at near
    rw [abs_lt]
    constructor <;> linarith
  have finite : ¬ powerOfTwo 1024 ≤ magnitude ((roundHalfEven (q / unit q) : Rat) * unit q) := by
    rw [powerOfTwo_eq, magnitude_eq]
    exact not_le.mpr fits
  rw [ofRat, if_neg positive.ne']
  simp only [powerOfTwo_eq (unitExponent q)]
  exact if_neg finite

/-- A number that is not negative and lies below a power of two is rounded by at most half a unit in the
last place of the numbers right below that power. -/
theorem ofRat_near (nonneg : 0 ≤ q) (upper : q < 2 ^ (e + 1)) (normal : -1022 ≤ e) (finite : e < 1023) :
    ∃ r, ofRat q = .finite r ∧ 0 ≤ r ∧ |r - q| ≤ 2 ^ (e - 53) := by
  rcases nonneg.eq_or_lt with rfl | positive
  · exact ⟨0, if_pos rfl, le_refl 0, by simpa using (zpow_pos two_pos _).le⟩
  · have moderate := upper.trans_le (zpow_le_zpow_right₀ (by norm_num) (show e + 1 ≤ 1023 by omega))
    have unitPos := unit_pos q
    have count : (0 : Rat) ≤ roundHalfEven (q / unit q) := by
      exact_mod_cast roundHalfEven_nonneg (div_nonneg nonneg unitPos.le)
    refine ⟨_, ofRat_eq positive moderate, mul_nonneg count unitPos.le, (rounded_near q).trans ?_⟩
    calc unit q / 2 ≤ 2 ^ (e - 52) / 2 := by gcongr; exact unit_le positive upper normal
      _ = 2 ^ (e - 53) := by rw [show e - 52 = e - 53 + 1 by ring, zpow_add_one₀ two_ne_zero]; ring

/-- A number between two powers of two is rounded to the nearest whole number of units. -/
theorem ofRat_of_rounds (lower : 2 ^ e ≤ q) (upper : q < 2 ^ (e + 1)) (normal : -1022 ≤ e)
    (finite : e < 1023) (rounds : roundHalfEven (q / 2 ^ (e - 52)) = n) :
    ofRat q = .finite (n * 2 ^ (e - 52)) := by
  have positive : 0 < q := lt_of_lt_of_le (by positivity) lower
  have moderate := upper.trans_le (zpow_le_zpow_right₀ (by norm_num) (show e + 1 ≤ 1023 by omega))
  rw [ofRat_eq positive moderate, unit_eq lower upper normal, rounds]

/-- Whole numbers of up to 53 binary digits stay as they are. -/
theorem ofRat_natCast {n : Nat} (short : n < 2 ^ 53) : ofRat n = .finite n := by
  rcases Nat.eq_zero_or_pos n with rfl | positive
  · simp [ofRat]
  · obtain ⟨lower, upper⟩ := log2_bounds positive
    have log : n.log2 < 53 := (Nat.log2_lt positive.ne').mpr short
    have whole : (n : Rat) / 2 ^ ((n.log2 : Int) - 52) = (n * 2 ^ (52 - n.log2) : Nat) := by
      have power : (2 : Rat) ^ ((n.log2 : Int) - 52) * 2 ^ (52 - n.log2) = 1 := by
        rw [← zpow_natCast, ← zpow_add₀ two_ne_zero, Nat.cast_sub (by omega)]
        simp
      rw [div_eq_iff (by positivity), Nat.cast_mul, Nat.cast_pow, Nat.cast_ofNat]
      linear_combination -(n : Rat) * power
    rw [ofRat_of_rounds lower upper (by omega) (by omega)
      (roundHalfEven_of_close (n := (n * 2 ^ (52 - n.log2) : Nat)) (by rw [whole]; simp))]
    rw [Int.cast_natCast, ← whole, div_mul_cancel₀ _ (by positivity)]

end CounterArchive.Binary64
