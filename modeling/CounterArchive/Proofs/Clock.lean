import CounterArchive.Clock
import CounterArchive.Proofs.Binary64
import CounterArchive.Retention

/-! The whole seconds and milliseconds of a clock. The milliseconds are taken from seconds that were
rounded, by a product that is rounded once more. -/
namespace CounterArchive

open Binary64

namespace Clock

variable {clock : Clock} {n j a : Nat} {N K : Int}

/-- A clock that stamps files with the time it shows can do so from the last second before 1970 on, for
136 years. -/
theorem stamps_showing_iff {micros : Int} :
    (showing micros).Stamps ↔ -1000000 < micros ∧ micros < 4294967296000000 := by
  have room : ((Nat.pow 2 32 : Nat) : Int) = 4294967296 := rfl
  have seconds : micros.tdiv 1000000 =
      if 0 ≤ micros then micros / 1000000 else -(-micros / 1000000) := by
    split
    · exact Int.tdiv_eq_ediv_of_nonneg ‹_›
    · rw [← Int.tdiv_eq_ediv_of_nonneg (by omega), Int.neg_tdiv, neg_neg]
  simp only [Stamps, showing, room, seconds]
  split <;> omega

/-! Whole milliseconds -/

/-- The seconds to a number of milliseconds, in units of the last place, where the milliseconds lie
within a factor of two of 125/128 of a power of two. -/
theorem ofRat_seconds (lower : 1000 * 2 ^ j ≤ 1024 * n) (upper : 1024 * n < 2000 * 2 ^ j)
    (early : j ≤ 48) :
    ofRat (n / 1000) =
      .finite (roundHalfEven ((n * 2 ^ (62 - j) : Nat) / 1000) * 2 ^ ((j : Int) - 62)) := by
  have lowerRat : (1000 * 2 ^ j : Rat) ≤ 1024 * n := by exact_mod_cast lower
  have upperRat : (1024 * n : Rat) < 2000 * 2 ^ j := by exact_mod_cast upper
  have power : (2 : Rat) ^ ((j : Int) - 10) = 2 ^ j / 1024 := by
    rw [zpow_sub₀ two_ne_zero, zpow_natCast]
    norm_num
  have whole : (n / 1000 : Rat) / 2 ^ ((j : Int) - 62) = (n * 2 ^ (62 - j) : Nat) / 1000 := by
    have inverse : (2 : Rat) ^ ((j : Int) - 62) * 2 ^ (62 - j) = 1 := by
      rw [← zpow_natCast, ← zpow_add₀ two_ne_zero, Nat.cast_sub (by omega)]
      simp
    rw [div_eq_iff (by positivity)]
    push_cast
    linear_combination (-n / 1000 : Rat) * inverse
  have rounds : roundHalfEven ((n / 1000 : Rat) / 2 ^ ((j : Int) - 10 - 52)) =
      roundHalfEven ((n * 2 ^ (62 - j) : Nat) / 1000) := by
    rw [show (j : Int) - 10 - 52 = j - 62 by ring, whole]
  rw [ofRat_of_rounds (e := j - 10) (by rw [power]; linarith)
    (by rw [zpow_add_one₀ two_ne_zero, power]; linarith) (by omega) (by omega) rounds]
  rw [show (j : Int) - 10 - 52 = j - 62 by ring]

/-- Rounding to units takes the seconds by at most 500 thousandths of a unit. -/
theorem thousandths_near (M : Nat) : |M - 1000 * roundHalfEven ((M : Rat) / 1000)| ≤ 500 := by
  have near := roundHalfEven_near ((M : Rat) / 1000)
  rw [abs_le] at near ⊢
  have low : ((M - 500 : Int) : Rat) ≤ (1000 * roundHalfEven ((M : Rat) / 1000) : Int) := by
    push_cast; linarith
  have high : ((1000 * roundHalfEven ((M : Rat) / 1000) : Int) : Rat) ≤ (M + 500 : Int) := by
    push_cast; linarith
  have := Rat.intCast_le_intCast.mp low
  have := Rat.intCast_le_intCast.mp high
  omega

/-- A thousand times a number of units, rounded to units that are `2 ^ a` times as great. -/
theorem scale_units (lower : 2 ^ (52 + a) ≤ 1000 * N) (upper : 1000 * N < 2 ^ (53 + a)) (small : a ≤ 10)
    (early : j ≤ 48) (rounds : roundHalfEven ((1000 * N : Int) / (2 ^ a : Int)) = K) :
    (Binary64.finite (N * 2 ^ ((j : Int) - 62))).scale 1000 =
      .finite (K * 2 ^ ((j : Int) - 62 + a)) := by
  have lowerRat : (2 ^ (52 + a) : Rat) ≤ 1000 * N := by exact_mod_cast lower
  have upperRat : (1000 * N : Rat) < 2 ^ (53 + a) := by exact_mod_cast upper
  have product : (N * 2 ^ ((j : Int) - 62) * 1000 : Rat) = 1000 * N * 2 ^ ((j : Int) - 62) := by ring
  have unit : (0 : Rat) < 2 ^ ((j : Int) - 62) := by positivity
  have split : (2 : Rat) ^ ((j : Int) - 10 + a) = 2 ^ (52 + a) * 2 ^ ((j : Int) - 62) := by
    rw [← zpow_natCast, ← zpow_add₀ two_ne_zero]
    congr 1
    push_cast
    ring
  have next : (2 : Rat) ^ ((j : Int) - 10 + a + 1) = 2 ^ (53 + a) * 2 ^ ((j : Int) - 62) := by
    rw [← zpow_natCast, ← zpow_add₀ two_ne_zero]
    congr 1
    push_cast
    ring
  have exponent : (j : Int) - 10 + a - 52 = j - 62 + a := by ring
  have counted : (N * 2 ^ ((j : Int) - 62) * 1000 : Rat) / 2 ^ ((j : Int) - 10 + a - 52) =
      (1000 * N : Int) / (2 ^ a : Int) := by
    rw [exponent, zpow_add₀ two_ne_zero, zpow_natCast, product]
    push_cast
    field_simp
  change ofRat _ = _
  rw [ofRat_of_rounds (e := j - 10 + a) (n := K) _ _ (by omega) (by omega)
    (by rw [counted, rounds]), exponent]
  · rw [split, product]
    gcongr
  · rw [next, product]
    gcongr

/-- The milliseconds in units of their last place, if they are at least a power of two, and in halves of
a unit, if they are less. -/
theorem exists_units (lower : 1000 * 2 ^ j ≤ 1024 * n) (upper : 1024 * n < 2000 * 2 ^ j)
    (early : j ≤ 48) : ∃ X : Nat, (n : Rat) = X * 2 ^ ((j : Int) - 52) ∧ n * 2 ^ (62 - j) = 1024 * X ∧
      1000 * 2 ^ 52 ≤ 1024 * X ∧ 1024 * X < 2000 * 2 ^ 52 ∧ (2 ^ j ≤ n → 2 ^ 52 ≤ X) ∧
      (n < 2 ^ j → X + 16 ≤ 2 ^ 52) := by
  have whole : 2 ^ j * 2 ^ (52 - j) = 2 ^ 52 := by rw [← Nat.pow_add]; congr 1; omega
  have fine : 2 ^ 4 ≤ 2 ^ (52 - j) := Nat.pow_le_pow_right (by omega) (by omega)
  have inverse : (2 : Rat) ^ ((j : Int) - 52) * 2 ^ (52 - j) = 1 := by
    rw [← zpow_natCast, ← zpow_add₀ two_ne_zero, Nat.cast_sub (by omega)]
    simp
  have least := Nat.mul_le_mul_right (2 ^ (52 - j)) lower
  have most := Nat.mul_lt_mul_of_pos_right upper (Nat.two_pow_pos (52 - j))
  rw [Nat.mul_assoc, Nat.mul_assoc, whole] at least most
  refine ⟨n * 2 ^ (52 - j), ?_, ?_, least, most, fun power => ?_, fun power => ?_⟩
  · push_cast
    linear_combination -(n : Rat) * inverse
  · rw [show 62 - j = 10 + (52 - j) by omega, Nat.pow_add]
    ring
  · rw [← whole]
    exact Nat.mul_le_mul_right _ power
  · have below := Nat.mul_le_mul_right (2 ^ (52 - j)) (Nat.succ_le_of_lt power)
    rw [whole, Nat.succ_mul] at below
    omega

/-- Rounding has taken from the seconds, in thousandths of a unit, more than half a unit of the
milliseconds, which lie right below a power of two. -/
def CutShort (n j : Nat) : Prop :=
  n < 2 ^ j ∧ 256 < n * 2 ^ (62 - j) % 1000 ∧ n * 2 ^ (62 - j) % 1000 < 500

/-- What rounding takes off, if it is anything much, is the remainder in thousandths. -/
theorem remainder_between {t : Int} {r : Nat} (least : -500 ≤ t) (most : t ≤ 500) (eighth : t % 8 = 0)
    (remainder : (r : Int) = t % 1000) : 256 < r ∧ r < 500 ↔ 256 < t := by
  omega

section Units

variable {X : Nat} (units : (n : Rat) = X * 2 ^ ((j : Int) - 52))
  (near : |(1024 * X : Int) - 1000 * N| ≤ 500) (early : j ≤ 48)

include units near early

/-- From a power of two on, the units of the milliseconds are so great that all rounding is undone. -/
theorem truncate_above (enough : 2 ^ 52 ≤ X) (most : 1024 * X < 2000 * 2 ^ 52) :
    ∃ p, (Binary64.finite (N * 2 ^ ((j : Int) - 62))).scale 1000 = .finite p ∧ truncateRat p = n := by
  rw [abs_le] at near
  have rounds : roundHalfEven ((1000 * N : Int) / (2 ^ 10 : Int)) = X :=
    roundHalfEven_div (by norm_num) (by omega) (by omega)
  have product := scale_units (j := j) (by omega) (by omega) (by omega) early rounds
  rw [show (j : Int) - 62 + (10 : Nat) = j - 52 by ring, Int.cast_natCast, ← units] at product
  exact ⟨n, product, by simp [truncateRat_eq_iff]⟩

/-- Right below a power of two, the units of the milliseconds are half as great. The product is as much
as one of them too small if the seconds have lost more than half of one, and too great if they have
gained so much. -/
theorem truncate_below (least : 1000 * 2 ^ 52 ≤ 1024 * X) (room : X + 16 ≤ 2 ^ 52) :
    ∃ p, (Binary64.finite (N * 2 ^ ((j : Int) - 62))).scale 1000 = .finite p ∧
      (256 < (1024 * X : Int) - 1000 * N → truncateRat p = n - 1) ∧
      ((1024 * X : Int) - 1000 * N ≤ 256 → truncateRat p = n) := by
  rw [abs_le] at near
  have unit : (0 : Rat) < 2 ^ ((j : Int) - 53) := by positivity
  have fine : (2 : Rat) ^ ((j : Int) - 53) < 1 := zpow_lt_one_of_neg₀ (by norm_num) (by omega)
  have halves : (n : Rat) = (2 * X : Int) * 2 ^ ((j : Int) - 53) := by
    rw [units, show (j : Int) - 52 = j - 53 + 1 by ring, zpow_add_one₀ two_ne_zero]
    push_cast
    ring
  have positive : (1 : Rat) ≤ n := by
    have some : 0 < X := by omega
    have count : (0 : Rat) < n := by rw [units]; positivity
    exact_mod_cast count
  have product {K : Int} (rounds : roundHalfEven ((1000 * N : Int) / (2 ^ 9 : Int)) = K) :=
    scale_units (by omega) (by omega) (by omega) early rounds
  rw [show (j : Int) - 62 + (9 : Nat) = j - 53 by ring] at product
  -- A half either way is rounded to the even neighbour, which is the right one.
  rcases lt_or_ge 256 ((1024 * X : Int) - 1000 * N) with lost | notLost
  · refine ⟨_, product (K := 2 * X - 1) (roundHalfEven_div (by norm_num) (by omega) (by omega)),
      fun _ => ?_, fun less => absurd lost (not_lt.mpr less)⟩
    rw [truncateRat_eq_iff] <;> push_cast at halves ⊢
    · constructor <;> linarith
    · linarith
  · rcases lt_or_ge ((1024 * X : Int) - 1000 * N) (-256) with gained | notGained
    · refine ⟨_, product (K := 2 * X + 1) (roundHalfEven_div (by norm_num) (by omega) (by omega)),
        fun more => absurd more (not_lt.mpr notLost), fun _ => ?_⟩
      rw [truncateRat_eq_iff] <;> push_cast at halves ⊢
      · constructor <;> linarith
      · linarith
    · refine ⟨_, product (K := 2 * X)
        (roundHalfEven_div_of_even (by norm_num) (by omega) (by omega) (by omega)),
        fun more => absurd more (not_lt.mpr notLost), fun _ => ?_⟩
      rw [← halves]
      simp [truncateRat_eq_iff]

end Units

/-- The milliseconds come out as they are, unless the seconds are cut short: then they are one too few. -/
theorem truncate_whole (lower : 1000 * 2 ^ j ≤ 1024 * n) (upper : 1024 * n < 2000 * 2 ^ j)
    (early : j ≤ 48) : ∃ p, (ofRat (n / 1000)).scale 1000 = .finite p ∧
      (CutShort n j → truncateRat p = n - 1) ∧ (¬ CutShort n j → truncateRat p = n) := by
  obtain ⟨X, units, grid, least, most, above, below⟩ := exists_units lower upper early
  have near := thousandths_near (1024 * X)
  rw [ofRat_seconds lower upper early, CutShort, grid]
  generalize roundHalfEven (((1024 * X : Nat) : Rat) / 1000) = N at *
  push_cast at near
  rcases Nat.lt_or_ge n (2 ^ j) with small | great
  · obtain ⟨p, product, short, long⟩ := truncate_below units near early least (below small)
    have remainder : ((1024 * X % 1000 : Nat) : Int) = (1024 * X - 1000 * N) % 1000 := by
      rw [Int.sub_mul_emod_self_left]
      omega
    rw [abs_le] at near
    have cut := remainder_between near.1 near.2 (by omega) remainder
    refine ⟨p, product, fun isCut => short (cut.mp isCut.2), fun isWhole => long ?_⟩
    exact not_lt.mp fun lost => isWhole ⟨small, cut.mpr lost⟩
  · obtain ⟨p, product, whole⟩ := truncate_above units near early (above great) most
    exact ⟨p, product, fun cut => absurd cut.1 (not_lt.mpr great), fun _ => whole⟩

/-! All microseconds -/

/-- The product of rounded seconds with a thousand is not far from the milliseconds. -/
theorem scale_near {q : Rat} {e : Int} (nonneg : 0 ≤ q) (upper : q < 2 ^ (e + 1)) (normal : -1022 ≤ e)
    (finite : e < 1000) :
    ∃ p, (ofRat q).scale 1000 = .finite p ∧ 0 ≤ p ∧ |p - 1000 * q| ≤ 2024 * 2 ^ (e - 53) := by
  obtain ⟨r, rounded, positive, near⟩ := ofRat_near nonneg upper normal (by omega)
  have unit : (0 : Rat) < 2 ^ (e - 53) := by positivity
  have power : (2 : Rat) ^ (e + 1) = 2 ^ (54 : Nat) * 2 ^ (e - 53) := by
    rw [← zpow_natCast, ← zpow_add₀ two_ne_zero]
    congr 1
    push_cast
    ring
  have next : (2 : Rat) ^ (e + 10 + 1) = 2 ^ (64 : Nat) * 2 ^ (e - 53) := by
    rw [← zpow_natCast, ← zpow_add₀ two_ne_zero]
    congr 1
    push_cast
    ring
  have last : (2 : Rat) ^ (e + 10 - 53) = 1024 * 2 ^ (e - 53) := by
    rw [show e + 10 - 53 = 10 + (e - 53) by ring, zpow_add₀ two_ne_zero]
    norm_num
  rw [abs_le] at near
  have bound : r * 1000 < 2 ^ (e + 10 + 1) := by
    rw [next]
    rw [power] at upper
    norm_num at upper ⊢
    linarith
  obtain ⟨p, product, nonnegProduct, close⟩ :=
    ofRat_near (q := r * 1000) (by linarith) bound (by omega) (by omega)
  rw [last, abs_le] at close
  rw [rounded]
  refine ⟨p, product, nonnegProduct, ?_⟩
  rw [abs_le]
  constructor <;> linarith

/-- At a whole number of milliseconds the seconds of a clock are cut short, and the milliseconds come out
one too few. -/
def Lags (clock : Clock) : Prop :=
  ∃ n j : Nat, clock.micros = 1000 * n ∧ 1000 * 2 ^ j ≤ 1024 * n ∧ CutShort n j

def calendarEnd : Int := 253402300800000000

/-- The first microsecond, in the year 2242, for which the seconds take 34 binary digits. -/
def fineEnd : Int := 2 ^ 33 * 1000000

theorem exists_power {n : Nat} (positive : 0 < n) :
    ∃ j, 1000 * 2 ^ j ≤ 1024 * n ∧ 1024 * n < 2000 * 2 ^ j := by
  have quotient : 1024 * n / 1000 ≠ 0 := by omega
  have lower := Nat.log2_self_le quotient
  have upper := Nat.lt_log2_self (n := 1024 * n / 1000)
  rw [Nat.pow_succ] at upper
  exact ⟨(1024 * n / 1000).log2, by omega, by omega⟩

/-- Powers of two that are close to the milliseconds of the calendar. -/
theorem power_early (lower : 1000 * 2 ^ j ≤ 1024 * n) (ends : (1000 * n : Int) < calendarEnd) :
    j ≤ 48 := by
  by_contra late
  have power : 2 ^ 49 ≤ 2 ^ j := Nat.pow_le_pow_right (by omega) (by omega)
  have : (1000 * n : Int) < 253402300800000000 := ends
  omega

theorem seconds_whole (whole : clock.micros = 1000 * n) : clock.seconds = ofRat (n / 1000) := by
  rw [seconds, whole]
  congr 1
  push_cast
  ring

/-- At a whole number of milliseconds these are what comes out, unless the clock lags. -/
theorem truncate_of_whole (whole : clock.micros = 1000 * n) (ends : clock.micros < calendarEnd) :
    ∃ p, clock.seconds.scale 1000 = .finite p ∧ (clock.Lags → truncateRat p = n - 1) ∧
      (¬ clock.Lags → truncateRat p = n) := by
  rw [seconds_whole whole]
  rcases Nat.eq_zero_or_pos n with rfl | positive
  · have zero : (ofRat ((0 : Nat) / 1000)).scale 1000 = .finite 0 := by decide +kernel
    refine ⟨0, zero, ?_, fun _ => rfl⟩
    rintro ⟨m, j, same, lower, -⟩
    have := Nat.two_pow_pos j
    omega
  · obtain ⟨j, lower, upper⟩ := exists_power positive
    rw [whole] at ends
    obtain ⟨p, product, -, right⟩ := truncate_whole lower upper (power_early lower ends)
    refine ⟨p, product, ?_, fun steady => right fun cut => steady ⟨n, j, whole, lower, cut⟩⟩
    rintro ⟨m, i, same, lowerSame, cut⟩
    obtain rfl : m = n := by omega
    have upperSame : 1024 * m < 2000 * 2 ^ i := by have := cut.1; omega
    obtain ⟨other, also, wrong, -⟩ := truncate_whole lowerSame upperSame (power_early lowerSame ends)
    cases product.symm.trans also
    exact wrong cut

/-- The product of the seconds with a thousand, before they take more than so many binary digits. -/
theorem scale_seconds {e : Int} (began : 0 ≤ clock.micros)
    (before : clock.micros < 2 ^ (e + 1) * (1000000 : Rat))
    (normal : -1022 ≤ e) (finite : e < 1000) :
    ∃ p, clock.seconds.scale 1000 = .finite p ∧ 0 ≤ p ∧
      |p - clock.micros / 1000| ≤ 2024 * 2 ^ (e - 53) := by
  have nonneg : (0 : Rat) ≤ clock.micros := by exact_mod_cast began
  obtain ⟨p, product, positive, near⟩ := scale_near (q := clock.micros / 1000000) (by positivity)
    (by rw [div_lt_iff₀ (by norm_num)]; exact before) normal finite
  refine ⟨p, product, positive, ?_⟩
  rwa [show (1000 * (clock.micros / 1000000) : Rat) = clock.micros / 1000 by ring] at near

/-- Microseconds as whole milliseconds and thousandths of one. -/
theorem millis_split (u : Int) :
    (u : Rat) / 1000 = (u / 1000 : Int) + ((u % 1000 : Int) : Rat) / 1000 := by
  have split : ((1000 * (u / 1000) + u % 1000 : Int) : Rat) = u := by rw [Int.mul_ediv_add_emod]
  push_cast at split ⊢
  linarith

/-- A clock between two milliseconds comes to the earlier one, until the year 2242. -/
theorem truncate_of_between (began : 0 ≤ clock.micros) (fine : clock.micros < fineEnd)
    (between : clock.micros % 1000 ≠ 0) :
    ∃ p, clock.seconds.scale 1000 = .finite p ∧ truncateRat p = clock.micros / 1000 := by
  have before : (clock.micros : Rat) < 2 ^ ((32 : Int) + 1) * 1000000 := by
    have cast : (clock.micros : Rat) < (2 ^ 33 * 1000000 : Int) := by exact_mod_cast fine
    norm_num at cast ⊢
    exact cast
  obtain ⟨p, product, positive, near⟩ := scale_seconds began before (by omega) (by omega)
  have least : (1 : Rat) ≤ (clock.micros % 1000 : Int) := by
    exact_mod_cast (show 1 ≤ clock.micros % 1000 by omega)
  have most : ((clock.micros % 1000 : Int) : Rat) ≤ 999 := by
    exact_mod_cast (show clock.micros % 1000 ≤ 999 by omega)
  rw [millis_split, abs_le] at near
  norm_num at near
  refine ⟨p, product, ?_⟩
  rw [truncateRat_eq_iff positive]
  constructor <;> linarith

/-- The milliseconds that a clock of the calendar comes to are at most one away from those that have gone
by. Up to the year 2242, and always at whole milliseconds, they are just these, or one less where the
clock lags. -/
theorem truncate_seconds (began : 0 ≤ clock.micros) (ends : clock.micros < calendarEnd) :
    ∃ p, clock.seconds.scale 1000 = .finite p ∧
      clock.micros / 1000 - 1 ≤ truncateRat p ∧ truncateRat p ≤ clock.micros / 1000 + 1 ∧
      (clock.Lags → truncateRat p = clock.micros / 1000 - 1) ∧
      (¬ clock.Lags → clock.micros % 1000 = 0 ∨ clock.micros < fineEnd →
        truncateRat p = clock.micros / 1000) := by
  have before : (clock.micros : Rat) < 2 ^ ((37 : Int) + 1) * 1000000 := by
    have cast : (clock.micros : Rat) < (253402300800000000 : Int) := by exact_mod_cast ends
    norm_num at cast ⊢
    linarith
  obtain ⟨p, product, positive, near⟩ := scale_seconds began before (by omega) (by omega)
  obtain ⟨below, above⟩ := (truncateRat_eq_iff positive).mp rfl
  have least : (0 : Rat) ≤ (clock.micros % 1000 : Int) := by
    exact_mod_cast (show 0 ≤ clock.micros % 1000 by omega)
  have most : ((clock.micros % 1000 : Int) : Rat) ≤ 999 := by
    exact_mod_cast (show clock.micros % 1000 ≤ 999 by omega)
  rw [millis_split, abs_le] at near
  norm_num at near
  have high : ((clock.micros / 1000 : Int) : Rat) < (truncateRat p + 2 : Int) := by
    push_cast
    linarith
  have low : (truncateRat p : Rat) < (clock.micros / 1000 + 2 : Int) := by
    push_cast
    linarith
  have := Rat.intCast_lt_intCast.mp high
  have := Rat.intCast_lt_intCast.mp low
  refine ⟨p, product, by omega, by omega, fun lags => ?_, fun steady => ?_⟩
  · obtain ⟨n, -, whole, -⟩ := id lags
    obtain ⟨other, also, wrong, -⟩ := truncate_of_whole whole ends
    cases product.symm.trans also
    rw [wrong lags]
    omega
  · by_cases whole : clock.micros % 1000 = 0
    · have count : clock.micros = 1000 * (clock.micros / 1000).toNat := by omega
      obtain ⟨other, also, -, right⟩ := truncate_of_whole count ends
      cases product.symm.trans also
      intro _
      rw [right steady]
      omega
    · intro fine
      obtain ⟨other, also, right⟩ := truncate_of_between began (fine.resolve_left whole) whole
      cases product.symm.trans also
      exact right

end Clock

end CounterArchive
