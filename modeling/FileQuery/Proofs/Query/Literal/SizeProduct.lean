import FileQuery.Proofs.Query.Literal.SizeSpelling
import Mathlib.Algebra.Group.Nat.Even
import Mathlib.Algebra.Order.Floor.Semifield
import Mathlib.Data.Int.Log
import Mathlib.Data.Rat.Floor
import Mathlib.Tactic.LinearCombination
import Mathlib.Tactic.Linarith
import Mathlib.Tactic.Positivity

/-!
# Which byte counts are exact

A byte count is the integer part of a number times a unit, but this product is rounded to 28 digits
first.  So it is exact as long as its integer part has no more digits than that, up to zeros at the end,
and the product does not come so near to the next integer that it is rounded up to it.
-/

namespace FileQuery.Query

/-! ## 1. Rounded quotients -/

section quotient

variable {num unit : Nat}

/-- Whether a quotient is rounded up: the remainder is more than half of the divisor, or just half of it
while the quotient is odd. -/
def IsRoundedUp (num unit : Nat) : Prop :=
  unit < 2 * (num % unit) ∨ unit = 2 * (num % unit) ∧ num / unit % 2 = 1

theorem roundDiv_of_isRoundedUp (h : IsRoundedUp num unit) :
    Number.roundDiv num unit = num / unit + 1 := by
  unfold Number.roundDiv
  dsimp only
  rcases h with hmore | ⟨hhalf, hodd⟩
  · rw [if_neg (by omega), if_pos hmore]
  · rw [if_neg (by omega), if_neg (by omega), hodd]

theorem roundDiv_of_not_isRoundedUp (h : ¬IsRoundedUp num unit) :
    Number.roundDiv num unit = num / unit := by
  unfold IsRoundedUp at h
  unfold Number.roundDiv
  dsimp only
  split
  · rfl
  · rw [if_neg (by omega)]
    omega

/-- Rounding moves a number by half a unit at most. -/
theorem roundDiv_mul_near (num unit : Nat) (hunit : 0 < unit) :
    2 * (Number.roundDiv num unit * unit) ≤ 2 * num + unit ∧
      2 * num ≤ 2 * (Number.roundDiv num unit * unit) + unit := by
  have hsplit := Nat.div_add_mod num unit
  have hrest := Nat.mod_lt num hunit
  by_cases hup : IsRoundedUp num unit
  · rw [roundDiv_of_isRoundedUp hup, Nat.add_mul, Nat.one_mul, Nat.mul_comm (num / unit)]
    unfold IsRoundedUp at hup
    omega
  · rw [roundDiv_of_not_isRoundedUp hup, Nat.mul_comm (num / unit)]
    unfold IsRoundedUp at hup
    omega

variable {count : Nat}

/-- Rounding to units changes how many multiples of some units a number has only if it is rounded up to
the next multiple. -/
theorem roundDiv_div_eq_iff (hunit : 0 < unit) :
    Number.roundDiv num unit * unit / (count * unit) = num / (count * unit) ↔
      ¬(IsRoundedUp num unit ∧ count ∣ num / unit + 1) := by
  rw [Nat.mul_div_mul_right _ _ hunit, Nat.mul_comm count, ← Nat.div_div_eq_div_mul]
  by_cases hup : IsRoundedUp num unit
  · rw [roundDiv_of_isRoundedUp hup, Nat.succ_div]
    by_cases hdvd : count ∣ num / unit + 1
    · simp [hup, hdvd]
    · simp [hdvd]
  · rw [roundDiv_of_not_isRoundedUp hup]
    simp [hup]

/-- What is missing to the next multiple: some more units, and the rest of the last one. -/
theorem exists_missing (num : Nat) (hunit : 0 < unit) (hcount : 0 < count) :
    ∃ more, count * unit - num % (count * unit) = more * unit + (unit - num % unit) ∧
      num / unit + 1 + more = count * (num / (count * unit) + 1) ∧
      more < count := by
  have hrest : num % unit < unit := Nat.mod_lt _ hunit
  have hquotient : num / unit % count < count := Nat.mod_lt _ hcount
  have hsplit := Nat.div_add_mod (num / unit) count
  rw [Nat.div_div_eq_div_mul, Nat.mul_comm unit] at hsplit
  obtain ⟨more, hmore⟩ : ∃ more, count = num / unit % count + (more + 1) :=
    ⟨count - 1 - num / unit % count, by omega⟩
  -- the rest is made of whole units and the rest of the last one
  have hmod : num % (count * unit) = num / unit % count * unit + num % unit := by
    rw [Nat.mul_comm count, Nat.mod_mul, Nat.mul_comm unit, Nat.add_comm]
  have hall : count * unit = num / unit % count * unit + (more * unit + unit) := by
    rw [← Nat.succ_mul, ← Nat.add_mul]
    exact congrArg (· * unit) hmore
  refine ⟨more, ?_, ?_, ?_⟩
  · omega
  · rw [Nat.mul_add, Nat.mul_one]
    omega
  · omega

/-- A number is rounded up to the next multiple if less than half of a unit is missing, or just half of
it while the number of units in the multiple is even. -/
theorem isRoundedUp_dvd_iff (hunit : 0 < unit) (hcount : 0 < count) :
    IsRoundedUp num unit ∧ count ∣ num / unit + 1 ↔
      2 * (count * unit - num % (count * unit)) < unit ∨
        2 * (count * unit - num % (count * unit)) = unit ∧
          (count % 2 = 0 ∨ num / (count * unit) % 2 = 1) := by
  have hrest : num % unit < unit := Nat.mod_lt _ hunit
  obtain ⟨more, hgap, hnext, hmore⟩ := exists_missing num hunit hcount
  rw [hgap]
  cases more with
  | zero =>
    rw [Nat.add_zero] at hnext
    have hparity : num / unit % 2 = 1 ↔ count % 2 = 0 ∨ num / (count * unit) % 2 = 1 := by
      have heven : (num / unit + 1) % 2 = 0 ↔
          count % 2 = 0 ∨ (num / (count * unit) + 1) % 2 = 0 := by
        rw [hnext, ← Nat.even_iff, ← Nat.even_iff, ← Nat.even_iff, Nat.even_mul]
      omega
    rw [← hparity, IsRoundedUp, and_iff_left ⟨_, hnext⟩]
    omega
  | succ more =>
    -- a whole unit is missing
    have hlong : unit ≤ (more + 1) * unit := Nat.le_mul_of_pos_left _ (Nat.succ_pos _)
    refine iff_of_false (fun h => ?_) (by omega)
    have hdvd : count ∣ more + 1 := (Nat.dvd_add_right h.2).1 ⟨_, hnext⟩
    exact absurd (Nat.le_of_dvd (Nat.succ_pos _) hdvd) (Nat.not_le_of_lt hmore)

end quotient

/-! ## 2. Products -/

def WrittenDecimal.value (d : WrittenDecimal) : ℚ := d.digits / 10 ^ d.places

def lastPlace (x : ℚ) : ℚ := 10 ^ (Int.log 10 x + 1 - productDigits)

/-- Whether a product is rounded up to the next integer: no digit before the point is dropped, and less
than half of what the last digit counts is missing; or just half of it, and this digit would be odd
without it, as a nine behind the point always is. -/
def ReachesNext (x : ℚ) : Prop :=
  x < 10 ^ productDigits ∧ (2 * (⌊x⌋₊ + 1 - x) < lastPlace x ∨
    2 * (⌊x⌋₊ + 1 - x) = lastPlace x ∧ (x < 10 ^ (productDigits - 1) ∨ ⌊x⌋₊ % 2 = 1))

section product

variable {num places : Nat}

theorem floor_product (num places : Nat) : ⌊(num : ℚ) / 10 ^ places⌋₊ = num / 10 ^ places := by
  have h := Nat.floor_div_eq_div (K := ℚ) num (10 ^ places)
  rwa [Nat.cast_pow, Nat.cast_ofNat] at h

theorem gap_product (num places : Nat) :
    (⌊(num : ℚ) / 10 ^ places⌋₊ : ℚ) + 1 - num / 10 ^ places =
      ((10 ^ places - num % 10 ^ places : Nat) : ℚ) / 10 ^ places := by
  have hpos : 0 < 10 ^ places := Nat.pow_pos (by decide)
  have hsplit : (num : ℚ) = 10 ^ places * (num / 10 ^ places : Nat) + (num % 10 ^ places : Nat) := by
    exact_mod_cast (Nat.div_add_mod num (10 ^ places)).symm
  rw [floor_product, Nat.cast_sub (Nat.mod_lt _ hpos).le, eq_div_iff (by positivity), sub_mul,
    div_mul_cancel₀ _ (by positivity), Nat.cast_pow, Nat.cast_ofNat]
  linear_combination -hsplit

theorem product_lt_iff {k : Nat} : (num : ℚ) / 10 ^ places < 10 ^ k ↔ num < 10 ^ (k + places) := by
  rw [div_lt_iff₀ (by positivity), ← pow_add]
  exact_mod_cast Iff.rfl

theorem log_product {k : Nat} (hlow : 10 ^ k ≤ num) (hhigh : num < 10 ^ (k + 1)) :
    Int.log 10 ((num : ℚ) / 10 ^ places) = k - places := by
  have hpow : (10 : ℚ) ^ k ≤ num ∧ (num : ℚ) < 10 ^ (k + 1) :=
    ⟨by exact_mod_cast hlow, by exact_mod_cast hhigh⟩
  have hpos : (0 : ℚ) < num / 10 ^ places := by
    have hnum : (0 : ℚ) < num := lt_of_lt_of_le (by positivity) hpow.1
    positivity
  have hten : (10 : ℚ) ≠ 0 := by norm_num
  apply le_antisymm
  · rw [← Int.lt_add_one_iff, ← Int.lt_zpow_iff_log_lt (by decide) hpos, sub_add_eq_add_sub,
      Nat.cast_ofNat, zpow_sub₀ hten, zpow_natCast]
    exact div_lt_div_of_pos_right (by exact_mod_cast hpow.2) (by positivity)
  · rw [← Int.zpow_le_iff_le_log (by decide) hpos, Nat.cast_ofNat, zpow_sub₀ hten, zpow_natCast,
      zpow_natCast]
    exact div_le_div_of_nonneg_right hpow.1 (by positivity)

/-- The last digit that is kept counts one unit of rounding. -/
theorem lastPlace_product {k more : Nat} (hlow : 10 ^ k ≤ num) (hhigh : num < 10 ^ (k + 1))
    (hmore : k + 1 = productDigits + more) :
    lastPlace ((num : ℚ) / 10 ^ places) = 10 ^ more / 10 ^ places := by
  have hexponent : (k : ℤ) - places + 1 - productDigits = more - places := by omega
  rw [lastPlace, log_product hlow hhigh, hexponent, zpow_sub₀ (by norm_num), zpow_natCast,
    zpow_natCast]

theorem reachesNext_iff {k more : Nat} (hlow : 10 ^ k ≤ num) (hhigh : num < 10 ^ (k + 1))
    (hk : k + 1 = productDigits + more) (hmore : more ≤ places) :
    ReachesNext ((num : ℚ) / 10 ^ places) ↔
      2 * (10 ^ places - num % 10 ^ places) < 10 ^ more ∨
        2 * (10 ^ places - num % 10 ^ places) = 10 ^ more ∧
          (10 ^ (places - more) % 2 = 0 ∨ num / 10 ^ places % 2 = 1) := by
  have hpow : (0 : ℚ) < 10 ^ places := by positivity
  have hten : ∀ a b : Nat, 10 ^ a ≤ 10 ^ b ↔ a ≤ b := fun a b => Nat.pow_le_pow_iff_right (by decide)
  have hless : (num : ℚ) / 10 ^ places < 10 ^ productDigits := by
    rw [product_lt_iff]
    exact Nat.lt_of_lt_of_le hhigh ((hten _ _).2 (by omega))
  have heven : (num : ℚ) / 10 ^ places < 10 ^ (productDigits - 1) ↔ 10 ^ (places - more) % 2 = 0 := by
    -- digits behind the point are kept, or the last one that is kept is that of the integer
    rw [product_lt_iff]
    rcases Nat.lt_or_eq_of_le hmore with hlt | rfl
    · obtain ⟨j, hj⟩ : ∃ j, places - more = j + 1 := ⟨places - more - 1, by omega⟩
      refine iff_of_true ?_ ?_
      · refine Nat.lt_of_lt_of_le hhigh ((hten _ _).2 ?_)
        unfold productDigits at hk ⊢
        omega
      · rw [hj, Nat.pow_succ]
        omega
    · refine iff_of_false (Nat.not_lt.2 (Nat.le_trans ((hten _ _).2 ?_) hlow)) ?_
      · unfold productDigits at hk ⊢
        omega
      · rw [Nat.sub_self]
        decide
  rw [ReachesNext, and_iff_right hless, heven, gap_product, floor_product,
    lastPlace_product hlow hhigh hk, ← mul_div_assoc, div_lt_div_iff_of_pos_right hpow,
    div_left_inj' hpow.ne']
  norm_cast

/-- Where no digit is dropped, the last one counts less than what is missing to the next integer. -/
theorem lastPlace_lt_gap (h : num < 10 ^ productDigits) :
    lastPlace ((num : ℚ) / 10 ^ places) <
      2 * (⌊(num : ℚ) / 10 ^ places⌋₊ + 1 - (num : ℚ) / 10 ^ places) := by
  rcases Nat.eq_zero_or_pos num with rfl | hpos
  · have hzero : lastPlace 0 < 2 := by
      rw [lastPlace, Int.log_zero_right, productDigits]
      norm_num
    simpa using hzero
  · have hlow := Nat.pow_log_le_self 10 hpos.ne'
    have hshort : Nat.log 10 num < productDigits :=
      (Nat.pow_lt_pow_iff_right (by decide)).1 (Nat.lt_of_le_of_lt hlow h)
    have hten : (0 : ℚ) < 10 ^ places := by positivity
    -- what is missing is at least one unit of the last place
    have hgap : 0 < 10 ^ places - num % 10 ^ places :=
      Nat.sub_pos_of_lt (Nat.mod_lt _ (Nat.pow_pos (by decide)))
    rw [gap_product, lastPlace, log_product hlow (Nat.lt_pow_succ_log_self (by decide) num)]
    calc (10 : ℚ) ^ ((Nat.log 10 num : ℤ) - places + 1 - productDigits)
        ≤ 10 ^ (-(places : ℤ)) := zpow_le_zpow_right₀ (by norm_num) (by omega)
      _ = 1 / 10 ^ places := by rw [zpow_neg, zpow_natCast, one_div]
      _ < 2 * (((10 ^ places - num % 10 ^ places : Nat) : ℚ) / 10 ^ places) := by
        rw [← mul_div_assoc, div_lt_div_iff_of_pos_right hten]
        norm_cast
        omega

theorem not_reachesNext_of_lt (h : num < 10 ^ productDigits) :
    ¬ReachesNext ((num : ℚ) / 10 ^ places) := by
  rintro ⟨-, hless | ⟨heq, -⟩⟩
  · exact absurd hless (lastPlace_lt_gap h).not_gt
  · exact absurd heq (lastPlace_lt_gap h).ne'

theorem not_reachesNext_of_le (h : 10 ^ (productDigits + places) ≤ num) :
    ¬ReachesNext ((num : ℚ) / 10 ^ places) := by
  intro hnext
  exact absurd (product_lt_iff.1 hnext.1) (Nat.not_lt.2 h)

end product

/-! ## 3. Rounded products -/

section rounding

variable {num places : Nat}

theorem isRounded_of_lt (h : num < 10 ^ productDigits) : IsRounded productDigits num :=
  ⟨num, 0, by simp, h⟩

/-- A long number is rounded in units of the digits that are dropped. -/
theorem exists_unit (h : 10 ^ productDigits ≤ num) : ∃ k more, k + 1 = productDigits + more ∧
    10 ^ k ≤ num ∧ num < 10 ^ (k + 1) ∧
      roundToDigits productDigits num = Number.roundDiv num (10 ^ more) * 10 ^ more := by
  have hlow := Nat.pow_log_le_self 10 (Nat.ne_of_gt (Nat.lt_of_lt_of_le (Nat.pow_pos (by decide)) h))
  have hhigh := Nat.lt_pow_succ_log_self (b := 10) (by decide) num
  have hlong : productDigits < Nat.log 10 num + 1 :=
    (Nat.pow_lt_pow_iff_right (by decide)).1 (Nat.lt_of_le_of_lt h hhigh)
  have hcount : digitCount num = Nat.log 10 num + 1 := by
    refine Nat.le_antisymm ((digitCount_le_iff (Nat.succ_pos _)).2 hhigh) (Nat.not_lt.1 fun hlt => ?_)
    have hpos : 0 < Nat.log 10 num :=
      Nat.lt_of_lt_of_le (by decide : 0 < productDigits) (Nat.le_of_lt_succ hlong)
    exact absurd ((digitCount_le_iff hpos).1 (Nat.le_of_lt_succ hlt)) (Nat.not_lt.2 hlow)
  refine ⟨Nat.log 10 num, Nat.log 10 num + 1 - productDigits, by omega, hlow, hhigh, ?_⟩
  rw [roundToDigits_eq, hcount, if_neg (Nat.not_le.2 hlong)]

/-- Digits before the point that are dropped have to be zeros. -/
theorem roundDiv_div_of_isRounded {k more : Nat} (hlow : 10 ^ k ≤ num)
    (hk : k + 1 = productDigits + more) (hmore : places < more)
    (h : IsRounded productDigits (num / 10 ^ places)) :
    Number.roundDiv num (10 ^ more) * 10 ^ more / 10 ^ places = num / 10 ^ places := by
  have hpow : 0 < 10 ^ places := Nat.pow_pos (by decide)
  obtain ⟨i, rfl⟩ : ∃ i, more = places + i := ⟨more - places, by omega⟩
  -- the digits before the point that are dropped are zeros
  have hdvd : 10 ^ i ∣ num / 10 ^ places := by
    obtain ⟨m, j, heq, hm⟩ := h
    have hlower : 10 ^ (k - places) ≤ num / 10 ^ places := by
      rw [Nat.le_div_iff_mul_le hpow, ← Nat.pow_add]
      exact Nat.le_trans (Nat.pow_le_pow_right (by decide) (by omega)) hlow
    have hupper : num / 10 ^ places < 10 ^ (productDigits + j) := by
      rw [heq, Nat.pow_add]
      exact Nat.mul_lt_mul_of_pos_right hm (Nat.pow_pos (by decide))
    have hlength := (Nat.pow_lt_pow_iff_right (by decide)).1 (Nat.lt_of_le_of_lt hlower hupper)
    rw [heq]
    exact Dvd.dvd.mul_left (Nat.pow_dvd_pow 10 (by omega)) m
  have hunit : 2 * 10 ^ places ≤ 10 ^ (places + i) := by
    rw [Nat.pow_add, Nat.mul_comm 2]
    exact Nat.mul_le_mul_left _ (Nat.le_trans (by decide : 2 ≤ 10 ^ 1)
      (Nat.pow_le_pow_right (by decide) (by omega)))
  have hrest : num % 10 ^ (places + i) = num % 10 ^ places := by
    rw [Nat.pow_add, Nat.mod_mul, Nat.mod_eq_zero_of_dvd hdvd, Nat.mul_zero, Nat.add_zero]
  have hdown : ¬IsRoundedUp num (10 ^ (places + i)) := by
    have hless := Nat.mod_lt num hpow
    unfold IsRoundedUp
    rw [hrest]
    omega
  rw [roundDiv_of_not_isRoundedUp hdown, Nat.pow_add, ← Nat.div_div_eq_div_mul,
    Nat.mul_comm (10 ^ places), ← Nat.mul_assoc, Nat.div_mul_cancel hdvd,
    Nat.mul_div_cancel _ hpow]

/-- Cut to an integer, a rounded product is the integer part of the product itself if no digit before
the point is lost, and it does not reach the next integer. -/
theorem roundToDigits_div_eq_iff (num places : Nat) :
    roundToDigits productDigits num / 10 ^ places = num / 10 ^ places ↔
      IsRounded productDigits (num / 10 ^ places) ∧ ¬ReachesNext ((num : ℚ) / 10 ^ places) := by
  rcases Nat.lt_or_ge num (10 ^ productDigits) with hshort | hlong
  · have hrounded := isRounded_of_lt hshort
    rw [hrounded.roundToDigits (by decide)]
    exact iff_of_true rfl ⟨hrounded.div places, not_reachesNext_of_lt hshort⟩
  · obtain ⟨k, more, hk, hlow, hhigh, hround⟩ := exists_unit hlong
    rw [hround]
    rcases Nat.lt_or_ge places more with hmore | hmore
    · -- digits before the point are dropped
      have hwide : 10 ^ (productDigits + places) ≤ num :=
        Nat.le_trans (Nat.pow_le_pow_right (by decide) (by omega)) hlow
      rw [and_iff_left (not_reachesNext_of_le hwide)]
      refine ⟨fun h => ?_, roundDiv_div_of_isRounded hlow hk hmore⟩
      rw [← h, ← hround]
      exact (isRounded_roundToDigits (by decide) num).div places
    · -- all digits that are dropped are behind the point
      have hrounded : IsRounded productDigits (num / 10 ^ places) := by
        refine isRounded_of_lt (Nat.div_lt_of_lt_mul ?_)
        rw [← Nat.pow_add]
        exact Nat.lt_of_lt_of_le hhigh (Nat.pow_le_pow_right (by decide) (by omega))
      have hunits : 10 ^ places = 10 ^ (places - more) * 10 ^ more := by
        rw [← Nat.pow_add, Nat.sub_add_cancel hmore]
      rw [and_iff_right hrounded, reachesNext_iff hlow hhigh hk hmore, hunits,
        ← isRoundedUp_dvd_iff (Nat.pow_pos (by decide)) (Nat.pow_pos (by decide))]
      exact roundDiv_div_eq_iff (Nat.pow_pos (by decide))

theorem lastPlace_pos (x : ℚ) : 0 < lastPlace x := zpow_pos (by norm_num) _

/-- Rounding moves a product by half of what its last digit counts at most. -/
theorem abs_round_sub_le (num places : Nat) :
    |(roundToDigits productDigits num : ℚ) / 10 ^ places - num / 10 ^ places| ≤
      lastPlace (num / 10 ^ places) / 2 := by
  rcases Nat.lt_or_ge num (10 ^ productDigits) with hshort | hlong
  · rw [(isRounded_of_lt hshort).roundToDigits (by decide), sub_self, abs_zero]
    exact (half_pos (lastPlace_pos _)).le
  · obtain ⟨k, more, hk, hlow, hhigh, hround⟩ := exists_unit hlong
    have hpow : (0 : ℚ) < 10 ^ places := by positivity
    obtain ⟨hup, hdown⟩ := roundDiv_mul_near num (10 ^ more) (Nat.pow_pos (by decide))
    rw [← hround] at hup hdown
    have hup : 2 * (roundToDigits productDigits num : ℚ) ≤ 2 * num + 10 ^ more := by
      exact_mod_cast hup
    have hdown : 2 * (num : ℚ) ≤ 2 * roundToDigits productDigits num + 10 ^ more := by
      exact_mod_cast hdown
    rw [lastPlace_product hlow hhigh hk, ← sub_div, abs_div, abs_of_pos hpow, div_right_comm,
      div_le_div_iff_of_pos_right hpow, abs_le]
    constructor <;> linarith

/-- A rounded product that is cut is off by less than one more than that. -/
theorem abs_cut_sub_lt (num places : Nat) :
    |((roundToDigits productDigits num / 10 ^ places : Nat) : ℚ) - num / 10 ^ places| <
      1 + lastPlace (num / 10 ^ places) / 2 := by
  have hnear := abs_le.1 (abs_round_sub_le num places)
  have hnonneg : (0 : ℚ) ≤ roundToDigits productDigits num / 10 ^ places := by positivity
  have hfloor := Nat.floor_le hnonneg
  have hnext := Nat.lt_floor_add_one ((roundToDigits productDigits num : ℚ) / 10 ^ places)
  rw [floor_product] at hfloor hnext
  rw [abs_lt]
  constructor <;> linarith

end rounding

/-! ## 4. Byte counts -/

theorem eq_of_sizeProduct {d : WrittenDecimal} {factor n : Nat} (h : sizeProduct d factor = .ok n) :
    n = roundToDigits productDigits (d.digits * factor) / 10 ^ d.places := by
  unfold sizeProduct at h
  dsimp only at h
  split at h
  · cases h
  · cases h
    rfl

/-- A text that is read as a byte count spells a number and a unit.  What is read is the integer part of
their product just if this has 28 digits at most, up to zeros at the end, and the product does not reach
the next integer; it is never off by more than one and half of what the last digit counts. -/
theorem readSize_exact_iff {text : String} {n : Nat} (h : readSize text = .ok n) :
    (∃ d factor, SpellsSize text d factor) ∧
      ∀ d factor, SpellsSize text d factor →
        (n = ⌊d.value * factor⌋₊ ↔
          IsRounded productDigits ⌊d.value * factor⌋₊ ∧ ¬ReachesNext (d.value * factor)) ∧
        (d.digits * factor < 10 ^ productDigits → n = ⌊d.value * factor⌋₊) ∧
        (d.places = 0 → (n = d.digits * factor ↔ IsRounded productDigits (d.digits * factor))) ∧
        |(n : ℚ) - d.value * factor| < 1 + lastPlace (d.value * factor) / 2 := by
  refine ⟨exists_spellsSize h, fun d factor hspells => ?_⟩
  rw [readSize_of_spellsSize hspells] at h
  have hvalue : d.value * factor = ((d.digits * factor : Nat) : ℚ) / 10 ^ d.places := by
    rw [WrittenDecimal.value, Nat.cast_mul, div_mul_eq_mul_div]
  rw [hvalue, floor_product, eq_of_sizeProduct h]
  refine ⟨roundToDigits_div_eq_iff _ _, fun hshort => ?_, fun hplaces => ?_, abs_cut_sub_lt _ _⟩
  · rw [(isRounded_of_lt hshort).roundToDigits (by decide)]
  · rw [hplaces, Nat.pow_zero, Nat.div_one]
    constructor
    · intro heq
      rw [← heq]
      exact isRounded_roundToDigits (by decide) _
    · exact fun hrounded => hrounded.roundToDigits (by decide)

/-- Rounded to 28 digits, a number next to two is two: it reaches the next integer. -/
theorem readSize_exact_iff_two :
    let d : WrittenDecimal := ⟨19999999999999999999999999999, 28⟩
    readSize "1.9999999999999999999999999999" = .ok 2 ∧ ReachesNext (d.value * (1 : Nat)) := by
  intro d
  have hread : readSize "1.9999999999999999999999999999" = .ok 2 := by decide
  have hspells : SpellsSize "1.9999999999999999999999999999" d 1 :=
    spellsSize_iff.2 ⟨[], by decide, nofun, by decide⟩
  have hfloor : ⌊d.value * (1 : Nat)⌋₊ = 1 := by
    rw [Nat.cast_one, mul_one, WrittenDecimal.value, floor_product]
    norm_num [d]
  obtain ⟨hexact, -⟩ := (readSize_exact_iff hread).2 d 1 hspells
  rw [hfloor] at hexact
  refine ⟨hread, ?_⟩
  by_contra hnext
  exact absurd (hexact.2 ⟨isRounded_of_lt (by decide), hnext⟩) (by decide)

/-- A plain number of 29 digits loses the last one. -/
theorem readSize_loses_digit :
    let d : WrittenDecimal := ⟨12345678901234567890123456789, 0⟩
    SpellsSize "12345678901234567890123456789" d 1 ∧
      ⌊d.value * (1 : Nat)⌋₊ = 12345678901234567890123456789 ∧
      readSize "12345678901234567890123456789" = .ok 12345678901234567890123456790 := by
  intro d
  refine ⟨spellsSize_iff.2 ⟨[], by decide, nofun, by decide⟩, ?_, by decide⟩
  rw [Nat.cast_one, mul_one, WrittenDecimal.value, floor_product, Nat.pow_zero, Nat.div_one]

end FileQuery.Query
