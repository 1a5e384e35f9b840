import FileQuery.Proofs.Query.Literal.Size
import Mathlib.Data.Nat.Log

/-!
# Integers as floating-point numbers

The floating-point number nearest to an integer has its 53 leading bits.  Rounding to them never
turns the order of two integers around, but it can make different integers equal; just those that
have no more bits are kept, as long as they are not too great.
-/

namespace FileQuery.Number

/-! ## 1. Rounded quotients -/

theorem div_le_roundDiv (num den : Nat) : num / den ≤ roundDiv num den := by
  unfold roundDiv
  dsimp only
  split
  · omega
  · split <;> omega

theorem roundDiv_mono {num num' : Nat} (den : Nat) (h : num ≤ num') :
    roundDiv num den ≤ roundDiv num' den := by
  rcases Nat.lt_or_eq_of_le (Nat.div_le_div_right (c := den) h) with hlt | heq
  · calc roundDiv num den ≤ num / den + 1 := Query.roundDiv_le num den
      _ ≤ num' / den := hlt
      _ ≤ roundDiv num' den := div_le_roundDiv num' den
  · have hrest : num % den ≤ num' % den := by
      have hnum := Nat.div_add_mod num den
      have hnum' := Nat.div_add_mod num' den
      rw [← heq] at hnum'
      omega
    unfold roundDiv
    dsimp only
    rw [← heq]
    repeat' split
    all_goals omega

/-! ## 2. Rounding to the leading bits -/

theorem log2_mono {n m : Nat} (h : n ≤ m) : n.log2 ≤ m.log2 := by
  rw [Nat.log2_eq_log_two, Nat.log2_eq_log_two]
  exact Nat.log_mono_right h

def droppedBits (n : Nat) : Nat := n.log2 - 52

def roundBits (n : Nat) : Nat := roundDiv n (2 ^ droppedBits n) * 2 ^ droppedBits n

theorem two_pow_droppedBits {n k : Nat} (h : n.log2 ≤ k) :
    2 ^ k = 2 ^ (k - droppedBits n) * 2 ^ droppedBits n := by
  rw [← Nat.pow_add]
  congr 1
  unfold droppedBits
  omega

theorem leading_le_roundDiv {n : Nat} (hn : n ≠ 0) :
    2 ^ (n.log2 - droppedBits n) ≤ roundDiv n (2 ^ droppedBits n) := by
  have hdiv : 2 ^ (n.log2 - droppedBits n) ≤ n / 2 ^ droppedBits n := by
    rw [Nat.le_div_iff_mul_le (Nat.two_pow_pos _), ← two_pow_droppedBits (Nat.le_refl _)]
    exact Nat.log2_self_le hn
  exact Nat.le_trans hdiv (div_le_roundDiv _ _)

theorem roundDiv_le_leading (n : Nat) :
    roundDiv n (2 ^ droppedBits n) ≤ 2 ^ (n.log2 + 1 - droppedBits n) := by
  have hdiv : n / 2 ^ droppedBits n < 2 ^ (n.log2 + 1 - droppedBits n) := by
    rw [Nat.div_lt_iff_lt_mul (Nat.two_pow_pos _), ← two_pow_droppedBits (Nat.le_succ _)]
    exact Nat.lt_log2_self
  exact Nat.le_trans (Query.roundDiv_le _ _) hdiv

theorem le_roundBits {n : Nat} (hn : n ≠ 0) : 2 ^ n.log2 ≤ roundBits n := by
  rw [two_pow_droppedBits (Nat.le_refl _)]
  exact Nat.mul_le_mul_right _ (leading_le_roundDiv hn)

theorem roundBits_le (n : Nat) : roundBits n ≤ 2 ^ (n.log2 + 1) := by
  rw [two_pow_droppedBits (Nat.le_succ _)]
  exact Nat.mul_le_mul_right _ (roundDiv_le_leading n)

theorem roundBits_zero : roundBits 0 = 0 := rfl

/-- Numbers of the same length are counted in the same unit; a longer number stays longer, or
becomes the power of two that the shorter one is rounded up to. -/
theorem roundBits_mono {n m : Nat} (h : n ≤ m) : roundBits n ≤ roundBits m := by
  by_cases hn : n = 0
  · rw [hn, roundBits_zero]
    exact Nat.zero_le _
  · have hm : m ≠ 0 := by omega
    rcases Nat.lt_or_eq_of_le (log2_mono h) with hlt | heq
    · calc roundBits n ≤ 2 ^ (n.log2 + 1) := roundBits_le n
        _ ≤ 2 ^ m.log2 := Nat.pow_le_pow_right (by decide) hlt
        _ ≤ roundBits m := le_roundBits hm
    · have hunit : droppedBits n = droppedBits m := by rw [droppedBits, heq, droppedBits]
      rw [roundBits, roundBits, hunit]
      exact Nat.mul_le_mul_right _ (roundDiv_mono _ h)

theorem roundBits_of_dvd {n : Nat} (h : 2 ^ droppedBits n ∣ n) : roundBits n = n := by
  rw [roundBits]
  generalize droppedBits n = d at h ⊢
  obtain ⟨q, rfl⟩ := h
  rw [Nat.mul_comm (2 ^ d) q, Query.roundDiv_mul (Nat.two_pow_pos d)]

/-- Integers with at most 53 bits up to zeros at the end, and not too great. -/
def IsExact (i : Int) : Prop := ∃ k e : Nat, i.natAbs = k * 2 ^ e ∧ k < 2 ^ 53 ∧ e ≤ 971

/-- The exact integers are those that rounding keeps, out of those with at most 1024 bits. -/
theorem isExact_iff (i : Int) :
    IsExact i ↔ roundBits i.natAbs = i.natAbs ∧ i.natAbs.log2 < 1024 := by
  rw [IsExact]
  generalize i.natAbs = n
  by_cases hn : n = 0
  · subst hn
    constructor
    · rintro -
      exact ⟨roundBits_zero, by decide⟩
    · rintro -
      exact ⟨0, 0, rfl, by decide, by decide⟩
  · constructor
    · rintro ⟨k, e, hk, hlt, he⟩
      have hlog : n.log2 < 53 + e := by
        rw [Nat.log2_lt hn, hk, Nat.pow_add]
        exact Nat.mul_lt_mul_of_pos_right hlt (Nat.two_pow_pos e)
      have hunit : droppedBits n ≤ e := by
        unfold droppedBits
        omega
      refine ⟨roundBits_of_dvd ((Nat.pow_dvd_pow 2 hunit).trans ⟨k, ?_⟩), by omega⟩
      rw [hk, Nat.mul_comm]
    · rintro ⟨hround, hlog⟩
      -- the bits that are kept, and as many zeros as bits were dropped
      refine ⟨roundDiv n (2 ^ droppedBits n), droppedBits n, hround.symm, ?_, ?_⟩
      · have hlt : roundBits n < 2 ^ 53 * 2 ^ droppedBits n := by
          rw [hround, ← Nat.pow_add, ← Nat.log2_lt hn, droppedBits]
          omega
        exact Nat.lt_of_mul_lt_mul_right hlt
      · rw [droppedBits]
        omega

/-! ## 3. The nearest floating-point number -/

/-- The value of a finite number, if it is an integer. -/
def Binary64.IsValue (x : Binary64) (i : Int) : Prop :=
  ∃ s m e, x = .finite s m e ∧ (ratio s m e).1 = i * (ratio s m e).2

namespace Binary64

theorem ratio_pos (s : Bool) (m : Nat) (e : Int) : 0 < (ratio s m e).2 := by
  unfold ratio
  dsimp only
  split
  · exact Nat.one_pos
  · exact Nat.two_pow_pos _

def signed (negative : Bool) (n : Nat) : Int := if negative then -(n : Int) else n

theorem isValue_zero (negative : Bool) (e : Int) : (finite negative 0 e).IsValue 0 := by
  refine ⟨negative, 0, e, rfl, ?_⟩
  rw [ratio]
  cases negative <;> split <;> simp

theorem isValue_of_nonneg (negative : Bool) (m e : Nat) :
    (finite negative m e).IsValue (signed negative (m * 2 ^ e)) := by
  refine ⟨negative, m, e, rfl, ?_⟩
  rw [ratio]
  cases negative <;> simp [signed]

theorem isValue_of_neg (negative : Bool) (n : Nat) {e : Nat} (he : 0 < e) :
    (finite negative (n * 2 ^ e) (-e)).IsValue (signed negative n) := by
  refine ⟨negative, n * 2 ^ e, -e, rfl, ?_⟩
  have hneg : ¬(0 : Int) ≤ -(e : Int) := by omega
  rw [ratio, if_neg hneg]
  cases negative <;> simp [signed]

def scaled (num den : Nat) (e : Int) : Nat × Nat :=
  if 0 ≤ e then (num, den * 2 ^ e.toNat) else (num * 2 ^ (-e).toNat, den)

/-- Where the guess is right, the quotient is rounded in its units. -/
theorem ofRatio_of_guess (negative : Bool) {num den n d : Nat} {e : Int} (hnum : num ≠ 0)
    (he : (num.log2 : Int) - den.log2 - 52 = e) (hleast : leastExponent ≤ e)
    (hscaled : scaled num den e = (n, d)) (hnormal : d * 2 ^ 52 ≤ n) :
    ofRatio negative num den = pack negative (roundDiv n d) e := by
  unfold ofRatio
  rw [if_neg hnum]
  extract_lets guess units exponent last
  have hguess : guess = e := he
  have hunits : units e = (n, d) := hscaled
  have hexponent : exponent = e := by
    unfold exponent
    rw [hguess, hunits]
    exact if_neg (Nat.not_lt.2 hnormal)
  have hlast : last = e := by
    unfold last
    rw [hexponent, max_eq_left hleast]
  rw [hlast, hunits]

theorem pack_of_lt (negative : Bool) {q : Nat} (e : Int) (hq : q < 2 ^ 53) : pack negative q e =
    if greatestExponent < e then .infinite negative else .finite negative q e := by
  have hcarry : ¬q = Nat.pow 2 53 := Nat.ne_of_lt hq
  rw [pack, if_neg hcarry]

/-- A mantissa that was rounded up to `2 ^ 53` is halved. -/
theorem pack_carry (negative : Bool) (e : Int) : pack negative (2 ^ 53) e =
    if greatestExponent < e + 1 then .infinite negative else .finite negative (2 ^ 52) (e + 1) := by
  have hcarry : 2 ^ 53 = Nat.pow 2 53 := rfl
  rw [pack, if_pos hcarry]
  rfl

theorem log2_mul_two_pow {q : Nat} (hq : q ≠ 0) (e : Nat) : (q * 2 ^ e).log2 = q.log2 + e := by
  have hpos := Nat.two_pow_pos e
  rw [Nat.log2_eq_iff (Nat.mul_ne_zero hq (Nat.ne_of_gt hpos)), Nat.pow_add,
    Nat.add_right_comm, Nat.pow_add]
  exact ⟨Nat.mul_le_mul_right _ (Nat.log2_self_le hq),
    Nat.mul_lt_mul_of_pos_right Nat.lt_log2_self hpos⟩

/-- What 53 bits and zeros after them are packed into: their value, or infinity if there are more
than 1024 bits. -/
theorem pack_spec (negative : Bool) {q : Nat} (e : Nat) (hlow : 2 ^ 52 ≤ q) (hhigh : q ≤ 2 ^ 53) :
    if (q * 2 ^ e).log2 < 1024 then (pack negative q e).IsValue (signed negative (q * 2 ^ e))
    else pack negative q e = .infinite negative := by
  have hq : q ≠ 0 := by
    rintro rfl
    exact absurd hlow (by decide)
  rw [log2_mul_two_pow hq]
  rcases Nat.lt_or_eq_of_le hhigh with hlt | rfl
  · have hlog : q.log2 = 52 := (Nat.log2_eq_iff hq).2 ⟨hlow, hlt⟩
    rw [hlog, pack_of_lt negative e hlt, greatestExponent]
    split
    · rw [if_neg (by omega)]
      exact isValue_of_nonneg negative q e
    · rw [if_pos (by omega)]
  -- a carry gives the mantissa a bit too many, and it is halved
  · have hvalue : 2 ^ 53 * 2 ^ e = 2 ^ 52 * 2 ^ (e + 1) := by
      rw [← Nat.pow_add, ← Nat.pow_add]
      congr 1
      omega
    rw [Nat.log2_two_pow, pack_carry, greatestExponent, hvalue]
    split
    · rw [if_neg (by omega)]
      exact isValue_of_nonneg negative (2 ^ 52) (e + 1)
    · rw [if_pos (by omega)]

theorem ofRatio_one_of_long (negative : Bool) {n : Nat} (hn : n ≠ 0) (hlog : 52 ≤ n.log2) :
    ofRatio negative n 1 = pack negative (roundDiv n (2 ^ droppedBits n)) (droppedBits n) := by
  have hscaled : scaled n 1 (droppedBits n) = (n, 2 ^ droppedBits n) := by
    rw [scaled, if_pos (Int.natCast_nonneg _), Int.toNat_natCast, Nat.one_mul]
  have hguess : (n.log2 : Int) - (Nat.log2 1 : Nat) - 52 = (droppedBits n : Nat) := by
    have hone : Nat.log2 1 = 0 := by decide
    rw [hone, droppedBits]
    omega
  have hnormal : 2 ^ droppedBits n * 2 ^ 52 ≤ n := by
    rw [← Nat.pow_add, droppedBits, Nat.sub_add_cancel hlog]
    exact Nat.log2_self_le hn
  refine ofRatio_of_guess negative hn hguess ?_ hscaled hnormal
  rw [leastExponent]
  omega

theorem ofRatio_one_of_short (negative : Bool) {n : Nat} (hn : n ≠ 0) (hlog : n.log2 < 52) :
    ofRatio negative n 1 = .finite negative (n * 2 ^ (52 - n.log2)) (-(52 - n.log2 : Nat)) := by
  obtain ⟨k, hk⟩ : ∃ k, k = 52 - n.log2 := ⟨_, rfl⟩
  rw [← hk]
  have hscaled : scaled n 1 (-(k : Int)) = (n * 2 ^ k, 1) := by
    rw [scaled, if_neg (by omega), Int.neg_neg, Int.toNat_natCast]
  have hguess : (n.log2 : Int) - (Nat.log2 1 : Nat) - 52 = -(k : Int) := by
    have hone : Nat.log2 1 = 0 := by decide
    omega
  have hmantissa : (n * 2 ^ k).log2 = 52 := by
    rw [log2_mul_two_pow hn]
    omega
  obtain ⟨hlow, hhigh⟩ :=
    (Nat.log2_eq_iff (Nat.mul_ne_zero hn (Nat.ne_of_gt (Nat.two_pow_pos k)))).1 hmantissa
  -- a mantissa that fits is exact
  have hround : roundDiv (n * 2 ^ k) 1 = n * 2 ^ k := by
    have h := Query.roundDiv_mul Nat.one_pos (n * 2 ^ k)
    rwa [Nat.mul_one] at h
  have hleast : leastExponent ≤ -(k : Int) := by
    rw [leastExponent]
    omega
  rw [ofRatio_of_guess negative hn hguess hleast hscaled (by rwa [Nat.one_mul]), hround,
    pack_of_lt negative _ hhigh, greatestExponent, if_neg (by omega)]

/-- The number nearest to an integer is the integer rounded to its leading bits, or infinite. -/
theorem ofRatio_one_spec (negative : Bool) {n : Nat} (hn : n ≠ 0) :
    if (roundBits n).log2 < 1024 then (ofRatio negative n 1).IsValue (signed negative (roundBits n))
    else ofRatio negative n 1 = .infinite negative := by
  -- an integer of 52 bits or fewer keeps them all
  by_cases hlog : n.log2 < 52
  · have hunit : droppedBits n = 0 := by
      unfold droppedBits
      omega
    have hround : roundBits n = n := roundBits_of_dvd (by rw [hunit]; exact Nat.one_dvd n)
    rw [hround, if_pos (by omega), ofRatio_one_of_short negative hn hlog]
    exact isValue_of_neg negative n (by omega)
  · have hlong : 52 ≤ n.log2 := Nat.le_of_not_lt hlog
    have hlow := leading_le_roundDiv hn
    have hhigh := roundDiv_le_leading n
    have hbits : n.log2 - droppedBits n = 52 := by
      unfold droppedBits
      omega
    have hcarry : n.log2 + 1 - droppedBits n = 53 := by omega
    rw [hbits] at hlow
    rw [hcarry] at hhigh
    rw [ofRatio_one_of_long negative hn hlong]
    exact pack_spec negative _ hlow hhigh

/-! ## 4. The number that digits spell -/

/-- The number nearest to what the digits of an integer spell. -/
def spelled (i : Int) : Binary64 := ofDecimal (i < 0) i.natAbs 0

/-- The integer rounded to its 53 leading bits. -/
def nearest (i : Int) : Int := signed (i < 0) (roundBits i.natAbs)

theorem ofDecimal_zero (negative : Bool) {n : Nat} (hn : n ≠ 0) : ofDecimal negative n 0 =
    if 310 < (n.log2 : Int) * 30103 / 100000 then .infinite negative else ofRatio negative n 1 := by
  have hdigits : n * Nat.pow 10 (0 : Int).toNat = n := Nat.mul_one n
  unfold ofDecimal
  dsimp only
  rw [if_neg hn, Int.add_zero, if_pos (Int.le_refl 0), hdigits]
  -- no integer is too small
  have hlarge : ¬(n.log2 : Int) * 30103 / 100000 < -330 := by omega
  rw [if_neg hlarge]

theorem spelled_spec (i : Int) :
    if (roundBits i.natAbs).log2 < 1024 then (spelled i).IsValue (nearest i)
    else spelled i = .infinite (i < 0) := by
  rw [spelled, nearest]
  generalize decide (i < 0) = negative
  generalize i.natAbs = n
  by_cases hn : n = 0
  · subst hn
    have hvalue := isValue_zero negative leastExponent
    cases negative <;> exact hvalue
  · have hround := le_roundBits hn
    have hlog : n.log2 ≤ (roundBits n).log2 := by
      have h := log2_mono hround
      rwa [Nat.log2_two_pow] at h
    rw [ofDecimal_zero negative hn]
    -- only integers of far more than 1024 bits are cut off beforehand
    by_cases hhuge : 310 < (n.log2 : Int) * 30103 / 100000
    · have hlong : ¬(roundBits n).log2 < 1024 := by omega
      rw [if_neg hlong, if_pos hhuge]
    · rw [if_neg hhuge]
      exact ofRatio_one_spec negative hn

theorem natAbs_nearest (i : Int) : (nearest i).natAbs = roundBits i.natAbs := by
  rw [nearest, signed]
  split <;> omega

theorem nearest_mono {i j : Int} (h : i ≤ j) : nearest i ≤ nearest j := by
  unfold nearest signed
  by_cases hi : i < 0
  · rw [decide_eq_true hi, if_pos rfl]
    by_cases hj : j < 0
    · have hround : roundBits j.natAbs ≤ roundBits i.natAbs := roundBits_mono (by omega)
      rw [decide_eq_true hj, if_pos rfl]
      omega
    · rw [decide_eq_false hj, if_neg (by decide)]
      omega
  · have hj : ¬j < 0 := by omega
    have hround : roundBits i.natAbs ≤ roundBits j.natAbs := roundBits_mono (by omega)
    rw [decide_eq_false hi, decide_eq_false hj, if_neg (by decide), if_neg (by decide)]
    omega

theorem isExact_iff_nearest (i : Int) :
    IsExact i ↔ nearest i = i ∧ (roundBits i.natAbs).log2 < 1024 := by
  rw [isExact_iff]
  constructor
  · rintro ⟨hround, hlog⟩
    refine ⟨?_, by rwa [hround]⟩
    rw [nearest, hround, signed]
    by_cases hi : i < 0
    · rw [decide_eq_true hi, if_pos rfl]
      omega
    · rw [decide_eq_false hi, if_neg (by decide)]
      omega
  · rintro ⟨hnearest, hlog⟩
    have hround : roundBits i.natAbs = i.natAbs := by rw [← natAbs_nearest, hnearest]
    exact ⟨hround, by rwa [hround] at hlog⟩

/-! ## 5. Orders -/

theorem compare_mul_pos {a b c : Int} (hc : 0 < c) : compare (a * c) (b * c) = compare a b := by
  rw [← cmp_eq_compare, ← cmp_eq_compare, cmp_mul_pos_right hc]

theorem compareInt?_finite (i : Int) (s : Bool) (m : Nat) (e : Int) : compareInt? i (finite s m e) =
    some (compare (i * (ratio s m e).2) (ratio s m e).1) := rfl

theorem compare?_finite (s : Bool) (m : Nat) (e : Int) (t : Bool) (n : Nat) (f : Int) :
    compare? (finite s m e) (finite t n f) =
      some (compare ((ratio s m e).1 * (ratio t n f).2) ((ratio t n f).1 * (ratio s m e).2)) := rfl

theorem compareInt?_of_isValue {x : Binary64} {v : Int} (h : x.IsValue v) (i : Int) :
    compareInt? i x = some (compare i v) := by
  obtain ⟨s, m, e, rfl, hratio⟩ := h
  have hpos : (0 : Int) < (ratio s m e).2 := Int.natCast_pos.2 (ratio_pos s m e)
  rw [compareInt?_finite, hratio, compare_mul_pos hpos]

theorem compare?_of_isValue {x y : Binary64} {v w : Int} (hx : x.IsValue v) (hy : y.IsValue w) :
    compare? x y = some (compare v w) := by
  obtain ⟨s, m, e, rfl, hv⟩ := hx
  obtain ⟨t, n, f, rfl, hw⟩ := hy
  have hpos : (0 : Int) < (ratio s m e).2 * (ratio t n f).2 :=
    Int.mul_pos (Int.natCast_pos.2 (ratio_pos s m e)) (Int.natCast_pos.2 (ratio_pos t n f))
  rw [compare?_finite, hv, hw, Int.mul_assoc, Int.mul_assoc, Int.mul_comm (ratio t n f).2,
    compare_mul_pos hpos]

theorem isValue_spelled {i : Int} (h : IsExact i) : (spelled i).IsValue i := by
  obtain ⟨hnearest, hlog⟩ := (isExact_iff_nearest i).1 h
  have hspec := spelled_spec i
  rwa [if_pos hlog, hnearest] at hspec

/-- An integer that is equal to what its digits spell is exact. -/
theorem exists_compareInt?_self (i : Int) :
    ∃ o, compareInt? i (spelled i) = some o ∧ (o = .eq → IsExact i) := by
  have hspec := spelled_spec i
  split at hspec
  · next hlog =>
    refine ⟨_, compareInt?_of_isValue hspec i, fun heq => ?_⟩
    exact (isExact_iff_nearest i).2 ⟨(compare_eq_iff_eq.1 heq).symm, hlog⟩
  · rw [hspec]
    refine ⟨_, rfl, fun heq => ?_⟩
    split at heq <;> cases heq

theorem compare?_swap (x y : Binary64) : compare? y x = (compare? x y).map Ordering.swap := by
  cases x with
  | nan => cases y <;> rfl
  | infinite s =>
    cases y with
    | nan => rfl
    | infinite t => cases s <;> cases t <;> rfl
    | finite t n f => cases s <;> rfl
  | finite s m e =>
    cases y with
    | nan => rfl
    | infinite t => cases t <;> rfl
    | finite t n f => exact congrArg some Std.OrientedCmp.eq_swap

theorem compare?_self {x : Binary64} (h : x ≠ .nan) : compare? x x = some .eq := by
  cases x with
  | nan => exact absurd rfl h
  | infinite s => cases s <;> rfl
  | finite s m e => exact congrArg some (compare_eq_iff_eq.2 rfl)

theorem spelled_ne_nan (i : Int) : spelled i ≠ .nan := by
  have hspec := spelled_spec i
  split at hspec
  · obtain ⟨s, m, e, h, -⟩ := hspec
    rw [h]
    exact nofun
  · rw [hspec]
    exact nofun

theorem compare?_spelled_of_lt {i j : Int} (h : i < j) :
    compare? (spelled i) (spelled j) = some .lt ∨ compare? (spelled i) (spelled j) = some .eq := by
  have hi := spelled_spec i
  have hj := spelled_spec j
  -- on either side of zero, the number farther away has the longer rounding
  have hright : 0 ≤ i → (roundBits i.natAbs).log2 ≤ (roundBits j.natAbs).log2 := fun _ =>
    log2_mono (roundBits_mono (by omega))
  have hleft : j < 0 → (roundBits j.natAbs).log2 ≤ (roundBits i.natAbs).log2 := fun _ =>
    log2_mono (roundBits_mono (by omega))
  split at hi
  · next hlogi =>
    split at hj
    · rw [compare?_of_isValue hi hj]
      rcases Int.lt_or_eq_of_le (nearest_mono (Int.le_of_lt h)) with hlt | heq
      · exact .inl (congrArg some (compare_lt_iff_lt.2 hlt))
      · exact .inr (congrArg some (compare_eq_iff_eq.2 heq))
    · next hlogj =>
      have hpos : ¬j < 0 := fun hneg => hlogj (Nat.lt_of_le_of_lt (hleft hneg) hlogi)
      obtain ⟨s, m, e, hi, -⟩ := hi
      rw [hi, hj, decide_eq_false hpos]
      exact .inl rfl
  · next hlogi =>
    by_cases hneg : i < 0
    · rw [hi, decide_eq_true hneg]
      split at hj
      · obtain ⟨t, n, f, hj, -⟩ := hj
        rw [hj]
        exact .inl rfl
      · rw [hj]
        cases decide (j < 0)
        · exact .inl rfl
        · exact .inr rfl
    · have hlogj : ¬(roundBits j.natAbs).log2 < 1024 := fun hlt =>
        hlogi (Nat.lt_of_le_of_lt (hright (Int.not_lt.1 hneg)) hlt)
      have hpos : ¬j < 0 := by omega
      rw [if_neg hlogj] at hj
      rw [hi, hj, decide_eq_false hneg, decide_eq_false hpos]
      exact .inr rfl

/-- What the digits of two integers spell is ordered as they are, or taken for equal. -/
theorem compare?_spelled (i j : Int) :
    compare? (spelled i) (spelled j) = some (compare i j) ∨
      compare? (spelled i) (spelled j) = some .eq := by
  rcases Int.lt_trichotomy i j with hlt | rfl | hgt
  · rw [compare_lt_iff_lt.2 hlt]
    exact compare?_spelled_of_lt hlt
  · exact .inr (compare?_self (spelled_ne_nan i))
  · rw [compare_gt_iff_gt.2 hgt, compare?_swap (spelled j)]
    rcases compare?_spelled_of_lt hgt with h | h
    · rw [h]
      exact .inl rfl
    · rw [h]
      exact .inr rfl

/-! ## 6. Exact integers between others -/

variable {x y : Binary64} {k m : Int} {o : Ordering}

theorem compare?_of_isValue_right (h : y.IsValue k) (x : Binary64) :
    compare? x y = (compareInt? k x).map Ordering.swap := by
  obtain ⟨t, n, f, rfl, hvalue⟩ := h
  have hpos : (0 : Int) < (ratio t n f).2 := Int.natCast_pos.2 (ratio_pos t n f)
  cases x with
  | nan => rfl
  | infinite s => cases s <;> rfl
  | finite s m e =>
    rw [compare?_finite, compareInt?_finite, Option.map_some, ← Std.OrientedCmp.eq_swap, hvalue,
      Int.mul_right_comm, compare_mul_pos hpos]

theorem compareInt?_congr (h : compare? x y = some .eq) (k : Int) :
    compareInt? k x = compareInt? k y := by
  cases x with
  | nan => cases h
  | infinite s =>
    cases y with
    | nan => cases h
    | infinite t => cases s <;> cases t <;> first | rfl | cases h
    | finite t n f => cases s <;> cases h
  | finite s m e =>
    cases y with
    | nan => cases h
    | infinite t => cases t <;> cases h
    | finite t n f =>
      have hb : (0 : Int) < (ratio s m e).2 := Int.natCast_pos.2 (ratio_pos s m e)
      have hd : (0 : Int) < (ratio t n f).2 := Int.natCast_pos.2 (ratio_pos t n f)
      rw [compare?_finite, Option.some.injEq, compare_eq_iff_eq] at h
      -- over the product of the denominators
      rw [compareInt?_finite, compareInt?_finite, ← compare_mul_pos hd, h,
        ← compare_mul_pos (a := k * (ratio t n f).2) hb, Int.mul_right_comm]

/-- A number that is at most an integer is less than a greater one. -/
theorem compareInt?_gt_of_lt (h : compareInt? k x = some o) (ho : o ≠ .lt) (hlt : k < m) :
    compareInt? m x = some .gt := by
  cases x with
  | nan => cases h
  | infinite s =>
    cases s with
    | false => exact absurd (Option.some.inj h).symm ho
    | true => rfl
  | finite s n e =>
    have hpos : (0 : Int) < (ratio s n e).2 := Int.natCast_pos.2 (ratio_pos s n e)
    rw [compareInt?_finite, Option.some.injEq] at h
    have hle : (ratio s n e).1 ≤ k * ((ratio s n e).2 : Int) := by
      rw [← h, ne_eq, compare_lt_iff_lt] at ho
      exact not_lt.1 ho
    have hless : (ratio s n e).1 < m * ((ratio s n e).2 : Int) :=
      lt_of_le_of_lt hle (Int.mul_lt_mul_of_pos_right hlt hpos)
    exact congrArg some (compare_gt_iff_gt.2 hless)

/-- A number that is at least an integer is greater than a lesser one. -/
theorem compareInt?_lt_of_gt (h : compareInt? k x = some o) (ho : o ≠ .gt) (hlt : m < k) :
    compareInt? m x = some .lt := by
  cases x with
  | nan => cases h
  | infinite s =>
    cases s with
    | false => rfl
    | true => exact absurd (Option.some.inj h).symm ho
  | finite s n e =>
    have hpos : (0 : Int) < (ratio s n e).2 := Int.natCast_pos.2 (ratio_pos s n e)
    rw [compareInt?_finite, Option.some.injEq] at h
    have hle : k * ((ratio s n e).2 : Int) ≤ (ratio s n e).1 := by
      rw [← h, ne_eq, compare_gt_iff_gt] at ho
      exact not_lt.1 ho
    have hgreater : m * ((ratio s n e).2 : Int) < (ratio s n e).1 :=
      lt_of_lt_of_le (Int.mul_lt_mul_of_pos_right hlt hpos) hle
    exact congrArg some (compare_lt_iff_lt.2 hgreater)

end Binary64

/-- An exact integer tells one integer from another: it is the first one, or lies between them. -/
def IsToldFrom (n m : Int) : Prop :=
  (n = m ∧ IsExact n) ∨ ∃ k, IsExact k ∧ (n ≤ k ∧ k < m ∨ m < k ∧ k ≤ n)

/-- Two integers are equal, or two exact integers tell them apart. -/
def AreToldApart (n m : Int) : Prop :=
  n = m ∨ ∃ k l, IsExact k ∧ IsExact l ∧ k < l ∧ (n ≤ k ∧ l ≤ m ∨ m ≤ k ∧ l ≤ n)

theorem IsExact.isToldFrom {n : Int} (h : IsExact n) (m : Int) : IsToldFrom n m := by
  rcases Int.lt_trichotomy n m with hlt | rfl | hgt
  · exact .inr ⟨n, h, .inl ⟨Int.le_refl n, hlt⟩⟩
  · exact .inl ⟨rfl, h⟩
  · exact .inr ⟨n, h, .inr ⟨hgt, Int.le_refl n⟩⟩

theorem IsExact.areToldApart {n m : Int} (hn : IsExact n) (hm : IsExact m) : AreToldApart n m := by
  rcases Int.lt_trichotomy n m with hlt | rfl | hgt
  · exact .inr ⟨n, m, hn, hm, hlt, .inl ⟨Int.le_refl n, Int.le_refl m⟩⟩
  · exact .inl rfl
  · exact .inr ⟨m, n, hm, hn, hgt, .inr ⟨Int.le_refl m, Int.le_refl n⟩⟩

namespace Binary64

/-- An exact integer is ordered with what digits spell as with the integer, or taken for equal. -/
theorem exists_compareInt?_exact {k : Int} (hk : IsExact k) (i : Int) :
    ∃ o, compareInt? k (spelled i) = some o ∧ (o = compare k i ∨ o = .eq) := by
  have hcompare := compare?_of_isValue_right (isValue_spelled hk) (spelled i)
  rcases compare?_spelled i k with hspelled | hspelled
  · rw [hspelled] at hcompare
    obtain ⟨o, ho, hswap⟩ := Option.map_eq_some_iff.1 hcompare.symm
    refine ⟨o, ho, .inl ?_⟩
    rw [← Ordering.swap_swap (o := o), hswap]
    exact Std.OrientedCmp.eq_swap.symm
  · rw [hspelled] at hcompare
    obtain ⟨o, ho, hswap⟩ := Option.map_eq_some_iff.1 hcompare.symm
    exact ⟨o, ho, .inr (by cases o <;> first | rfl | cases hswap)⟩

theorem compareInt?_spelled {n m : Int} (h : IsToldFrom n m) :
    compareInt? m (spelled n) = some (compare m n) := by
  obtain ⟨rfl, hexact⟩ | ⟨k, hk, ⟨hle, hlt⟩ | ⟨hlt, hle⟩⟩ := h
  · exact compareInt?_of_isValue (isValue_spelled hexact) n
  · obtain ⟨o, ho, hor⟩ := exists_compareInt?_exact hk n
    rw [compare_gt_iff_gt.2 (lt_of_le_of_lt hle hlt)]
    refine compareInt?_gt_of_lt ho ?_ hlt
    rcases hor with rfl | rfl
    · exact fun hless => absurd (compare_lt_iff_lt.1 hless) (not_lt.2 hle)
    · exact nofun
  · obtain ⟨o, ho, hor⟩ := exists_compareInt?_exact hk n
    rw [compare_lt_iff_lt.2 (lt_of_lt_of_le hlt hle)]
    refine compareInt?_lt_of_gt ho ?_ hlt
    rcases hor with rfl | rfl
    · exact fun hgreater => absurd (compare_gt_iff_gt.1 hgreater) (not_lt.2 hle)
    · exact nofun

theorem compare?_spelled_of_between {n k l m : Int} (hk : IsExact k) (hl : IsExact l) (hn : n ≤ k)
    (hkl : k < l) (hm : l ≤ m) : compare? (spelled n) (spelled m) = some .lt := by
  have hless := compareInt?_spelled (.inr ⟨k, hk, .inl ⟨hn, hkl⟩⟩)
  rw [compare_gt_iff_gt.2 (lt_of_le_of_lt hn hkl)] at hless
  rcases compare?_spelled n m with h | heq
  · rwa [compare_lt_iff_lt.2 (by omega)] at h
  · -- the greater exact integer is not greater than what the digits of `m` spell
    obtain ⟨o, ho, hor⟩ := exists_compareInt?_exact hl m
    rw [← compareInt?_congr heq, hless] at ho
    cases ho
    rcases hor with hgt | hgt
    · exact absurd (compare_gt_iff_gt.1 hgt.symm) (not_lt.2 hm)
    · cases hgt

theorem compare?_spelled_of_areToldApart {n m : Int} (h : AreToldApart n m) :
    compare? (spelled n) (spelled m) = some (compare n m) := by
  obtain rfl | ⟨k, l, hk, hl, hkl, ⟨hn, hm⟩ | ⟨hm, hn⟩⟩ := h
  · rw [compare_eq_iff_eq.2 rfl]
    exact compare?_self (spelled_ne_nan n)
  · rw [compare_lt_iff_lt.2 (by omega)]
    exact compare?_spelled_of_between hk hl hn hkl hm
  · rw [compare_gt_iff_gt.2 (by omega), compare?_swap (spelled m),
      compare?_spelled_of_between hk hl hm hkl hn]
    rfl

end Binary64

end FileQuery.Number
