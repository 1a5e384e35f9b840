import FileQuery.Proofs.Number.Decimal
import FileQuery.Proofs.Result
import FileQuery.Proofs.Text.Blank
import FileQuery.Query.Literal.Size

/-!
# Written numbers are read back

A count or a size is read back from its decimal text.  Sizes are rounded to a number of leading
digits when they are read; what was rounded once is not changed by rounding it again.
-/

namespace FileQuery.Query

/-! ## 1. Counts -/

theorem toList_toString (n : Nat) : (toString n).toList = Nat.toDigits 10 n := by
  simp

theorem trim_toDigits (n : Nat) : Text.trim (Nat.toDigits 10 n) = Nat.toDigits 10 n :=
  Text.trim_of_forall fun _ hc => Text.isBlank_of_isDigit (Number.isDigit_of_mem_toDigits hc)

theorem lt_of_isWritable {n : Nat} (h : Number.isWritable n = true) :
    n < 10 ^ Number.digitLimit :=
  Number.natAbs_lt_of_isWritable h

theorem readCount_toString {n : Nat} (h : Number.isWritable n = true) :
    readCount (toString n) = .ok n := by
  have hdigits : (Nat.toDigits 10 n).all Text.isDigit = true :=
    List.all_eq_true.2 fun c hc => Text.isDigit_of_isDigit (Number.isDigit_of_mem_toDigits hc)
  rw [readCount, toList_toString, trim_toDigits]
  simp only [hdigits, Bool.not_true, Bool.or_false, List.isEmpty_iff, Nat.toDigits_ne_nil,
    if_false, Number.readDigits_toDigits (lt_of_isWritable h)]
  rfl

/-! ## 2. Rounding to leading digits -/

/-- Numbers whose digits after the first `limit` ones are zeros. -/
def IsRounded (limit n : Nat) : Prop := ∃ m k, n = m * 10 ^ k ∧ m < 10 ^ limit

theorem digitCount_le_iff {n k : Nat} (hk : 0 < k) : digitCount n ≤ k ↔ n < 10 ^ k :=
  Nat.length_toDigits_le_iff (by decide) hk

theorem roundDiv_mul {den : Nat} (hden : 0 < den) (q : Nat) : Number.roundDiv (q * den) den = q := by
  simp [Number.roundDiv, hden]

theorem roundDiv_le (num den : Nat) : Number.roundDiv num den ≤ num / den + 1 := by
  unfold Number.roundDiv
  dsimp only
  split
  · omega
  · split <;> omega

section rounding

variable {limit : Nat}

theorem roundToDigits_eq (limit n : Nat) : roundToDigits limit n =
    if digitCount n ≤ limit then n
    else Number.roundDiv n (10 ^ (digitCount n - limit)) * 10 ^ (digitCount n - limit) := rfl

/-- Rounding leaves a rounded number as it is. -/
theorem IsRounded.roundToDigits {n : Nat} (h : IsRounded limit n) (hlimit : 0 < limit) :
    roundToDigits limit n = n := by
  obtain ⟨m, k, rfl, hm⟩ := h
  rw [roundToDigits_eq]
  split
  · rfl
  · next hlong =>
    -- the number has at most `limit + k` digits, so the unit of rounding divides it
    have hcount : digitCount (m * 10 ^ k) ≤ limit + k := by
      rw [digitCount_le_iff (by omega), Nat.pow_add]
      exact Nat.mul_lt_mul_of_pos_right hm (Nat.pow_pos (by decide))
    obtain ⟨unit, hunit⟩ : ∃ unit, unit = digitCount (m * 10 ^ k) - limit := ⟨_, rfl⟩
    obtain ⟨j, rfl⟩ : ∃ j, k = j + unit := ⟨k - unit, by omega⟩
    rw [← hunit, Nat.pow_add, ← Nat.mul_assoc, roundDiv_mul (Nat.pow_pos (by decide))]

/-- What rounding gives is rounded; a number that is rounded up to the next power of ten has one digit
that is not zero. -/
theorem isRounded_roundToDigits (hlimit : 0 < limit) (n : Nat) :
    IsRounded limit (roundToDigits limit n) := by
  rw [roundToDigits_eq]
  split
  · next hshort => exact ⟨n, 0, by simp, (digitCount_le_iff hlimit).1 hshort⟩
  · next hlong =>
    obtain ⟨unit, hunit⟩ : ∃ unit, digitCount n = limit + unit := ⟨digitCount n - limit, by omega⟩
    have hn : n < 10 ^ limit * 10 ^ unit := by
      rw [← Nat.pow_add, ← digitCount_le_iff (by omega), hunit]
    have hquotient : n / 10 ^ unit < 10 ^ limit := Nat.div_lt_of_lt_mul (by rwa [Nat.mul_comm])
    have hround := roundDiv_le n (10 ^ unit)
    rw [hunit, Nat.add_sub_cancel_left]
    -- rounding up can reach the next power of ten
    rcases Nat.lt_or_eq_of_le (Nat.le_trans hround hquotient) with hlt | heq
    · exact ⟨_, unit, rfl, hlt⟩
    · refine ⟨1, limit + unit, ?_, Nat.one_lt_pow (by omega) (by decide)⟩
      rw [heq, Nat.one_mul, Nat.pow_add]

/-- Cutting digits off at the end leaves a number rounded. -/
theorem IsRounded.div {n : Nat} (h : IsRounded limit n) (k : Nat) :
    IsRounded limit (n / 10 ^ k) := by
  obtain ⟨m, j, rfl, hm⟩ := h
  by_cases hle : k ≤ j
  -- zeros are cut off first, then leading digits
  · obtain ⟨i, rfl⟩ := Nat.exists_eq_add_of_le hle
    refine ⟨m, i, ?_, hm⟩
    rw [Nat.pow_add, Nat.mul_comm (10 ^ k), ← Nat.mul_assoc,
      Nat.mul_div_cancel _ (Nat.pow_pos (by decide))]
  · obtain ⟨i, rfl⟩ := Nat.exists_eq_add_of_le (Nat.le_of_not_le hle)
    refine ⟨m / 10 ^ i, 0, ?_, Nat.lt_of_le_of_lt (Nat.div_le_self _ _) hm⟩
    rw [Nat.pow_add, ← Nat.div_div_eq_div_mul, Nat.mul_div_cancel _ (Nat.pow_pos (by decide))]
    simp

end rounding

/-! ## 3. Sizes -/

theorem isRounded_of_readSize {text : String} {n : Nat} (h : readSize text = .ok n) :
    IsRounded productDigits n := by
  unfold readSize at h
  split at h
  · cases h
  · dsimp only at h
    split at h
    · split at h
      · cases h
      · unfold sizeProduct at h
        dsimp only at h
        split at h
        · cases h
        · cases h
          -- the product is rounded, and then its fraction is cut off
          exact (isRounded_roundToDigits (by decide) _).div _
    · cases h

theorem readDecimal_toDigits (n : Nat) :
    readDecimal (Nat.toDigits 10 n) = some (⟨n, 0⟩, []) := by
  have hdecimal : ∀ c ∈ Nat.toDigits 10 n, Text.isDecimal c = true :=
    fun c hc => Text.isDecimal_of_isDigit (Number.isDigit_of_mem_toDigits hc)
  have htake : (Nat.toDigits 10 n).takeWhile Text.isDecimal = Nat.toDigits 10 n :=
    List.takeWhile_eq_self_iff.2 hdecimal
  have hdrop : (Nat.toDigits 10 n).dropWhile Text.isDecimal = [] :=
    List.dropWhile_eq_nil_iff.2 hdecimal
  simp only [readDecimal, htake, hdrop, List.isEmpty_nil, if_true, List.isEmpty_iff,
    Nat.toDigits_ne_nil, if_false, Number.digitsValue?_toDigits, Option.map_some]

theorem sizeProduct_one {n : Nat} (hn : IsRounded productDigits n)
    (h : Number.isWritable n = true) : sizeProduct ⟨n, 0⟩ 1 = .ok n := by
  have hcount : digitCount n ≤ Number.digitLimit :=
    (digitCount_le_iff (by decide)).2 (lt_of_isWritable h)
  rw [sizeProduct]
  simp only [Nat.mul_one, hn.roundToDigits (by decide), Nat.pow_eq, Nat.pow_zero, Nat.div_one,
    Nat.add_zero]
  rw [if_neg]
  unfold productLimit
  unfold Number.digitLimit at hcount
  omega

/-- A size that was read from any text is read again from its digits. -/
theorem readSize_toString {n : Nat} (hn : IsRounded productDigits n)
    (h : Number.isWritable n = true) : readSize (toString n) = .ok n := by
  have hunit : sizeUnits.lookup (Text.lower (String.ofList [])) = some 1 := by
    with_unfolding_all rfl
  rw [readSize, toList_toString, trim_toDigits, readDecimal_toDigits]
  simp only [Text.trimLeft, List.dropWhile_nil, List.all_nil, if_true, hunit]
  exact sizeProduct_one hn h

end FileQuery.Query
