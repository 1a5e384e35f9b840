import FileQuery.Number.Integer
import Mathlib.Algebra.Group.Nat.Defs
import Mathlib.Data.Nat.Digits.Defs
import Mathlib.Tactic.Basic

/-!
# Decimal numerals

A number is read back from the digits it is written with.  Every digit, of whatever script, stands for
less than ten, so a number that was read from few enough digits can be written again.  Digits make up no
number where one of them is none, or where there are too many of them; otherwise they are read as the
number that their values make up in base ten.
-/

namespace FileQuery.Text

/-! ## 1. Tables of code points -/

/-- Where the search in a table ends, the entry before is at most `x` and the entry there is greater. -/
theorem countUpTo_spec (table : Array Nat) (x lo hi : Nat) (h : lo ≤ hi) :
    ∃ n, countUpTo table x lo hi = n ∧ lo ≤ n ∧ n ≤ hi ∧ (lo < n → table.getD (n - 1) 0 ≤ x) ∧
      (n < hi → x < table.getD n 0) := by
  fun_induction countUpTo table x lo hi with
  | case1 lo hi hlt mid hle ih =>
    obtain ⟨n, hn, hlo, hhi, hbefore, hat⟩ := ih (by omega)
    refine ⟨n, hn, by omega, hhi, fun _ => ?_, hat⟩
    rcases Nat.eq_or_lt_of_le hlo with rfl | hlt'
    · exact hle
    · exact hbefore hlt'
  | case2 lo hi hlt mid hle ih =>
    obtain ⟨n, hn, hlo, hhi, hbefore, hat⟩ := ih (by omega)
    refine ⟨n, hn, hlo, by omega, hbefore, fun _ => ?_⟩
    rcases Nat.eq_or_lt_of_le hhi with rfl | hlt'
    · exact Nat.lt_of_not_le hle
    · exact hat hlt'
  | case3 lo hi hlt =>
    exact ⟨lo, rfl, Nat.le_refl _, h, fun h => absurd h (Nat.lt_irrefl _), fun h => absurd h hlt⟩

/-- What is left of a run of decimal digits after a zero, up to the next zero, is ten digits at most. -/
theorem decimalTable_runs : ∀ i < decimalTable.size / 2, ∀ j < zeroTable.size,
    decimalTable.getD (2 * i + 1) 0 ≤ zeroTable.getD j 0 + 10 ∨
      (j + 1 < zeroTable.size ∧ zeroTable.getD (j + 1) 0 ≤
        max (decimalTable.getD (2 * i) 0) (zeroTable.getD j 0 + 10)) := by
  decide +kernel

theorem exists_run {x : Nat} (h : inTable decimalTable x = true) :
    ∃ i < decimalTable.size / 2, decimalTable.getD (2 * i) 0 ≤ x ∧
      x < decimalTable.getD (2 * i + 1) 0 := by
  obtain ⟨n, hn, -, hhi, hbefore, hat⟩ :=
    countUpTo_spec decimalTable x 0 decimalTable.size (Nat.zero_le _)
  rw [inTable, hn, beq_iff_eq] at h
  have hsize : decimalTable.size % 2 = 0 := by decide +kernel
  obtain ⟨i, rfl⟩ : ∃ i, n = 2 * i + 1 := ⟨n / 2, by omega⟩
  exact ⟨i, by omega, hbefore (by omega), hat (by omega)⟩

theorem lt_ten_of_decimalValue? {c : Char} {d : Nat} (h : decimalValue? c = some d) : d < 10 := by
  unfold decimalValue? at h
  split at h
  · split at h
    · next hdigit =>
      cases h
      have hnine := (Char.isDigit_iff_toNat.1 hdigit).2
      have hlast : '9'.toNat = 57 := rfl
      have hfirst : '0'.toNat = 48 := rfl
      omega
    · cases h
  · split at h
    · next htable =>
      cases h
      -- the zero before the digit is at most nine places away: its run is ten digits long
      obtain ⟨i, hi, hfirst, hlast⟩ := exists_run htable
      obtain ⟨n, hn, -, hhi, hbefore, hat⟩ :=
        countUpTo_spec zeroTable c.toNat 0 zeroTable.size (Nat.zero_le _)
      rw [hn]
      rcases Nat.eq_zero_or_pos n with rfl | hpos
      · have hzero := hat (by decide)
        simp only [Nat.zero_sub]
        omega
      · obtain ⟨j, rfl⟩ : ∃ j, n = j + 1 := ⟨n - 1, by omega⟩
        rw [Nat.add_sub_cancel]
        rcases decimalTable_runs i hi j hhi with hrun | ⟨hnext, hrun⟩
        · omega
        · have hzero := hat hnext
          omega
    · cases h

/-- Just the decimal digits have a value. -/
theorem isSome_decimalValue? (c : Char) : (decimalValue? c).isSome = isDecimal c := by
  unfold decimalValue? isDecimal
  split
  · split
    · next hdigit => rw [hdigit]; rfl
    · next hdigit => rw [Bool.eq_false_of_not_eq_true hdigit]; rfl
  · split
    · next htable => rw [htable]; rfl
    · next htable => rw [Bool.eq_false_of_not_eq_true htable]; rfl

/-! ## 2. The digits of ASCII -/

theorem isAscii_of_isDigit {c : Char} (h : c.isDigit = true) : c.toNat < 128 :=
  Nat.lt_of_le_of_lt (Char.isDigit_iff_toNat.1 h).2 (by decide)

theorem ne_of_isDigit {c d : Char} (h : c.isDigit = true) (hd : d.isDigit = false) : c ≠ d := by
  rintro rfl
  rw [h] at hd
  cases hd

theorem isDigit_of_isDigit {c : Char} (h : c.isDigit = true) : isDigit c = true := by
  rw [isDigit, if_pos (isAscii_of_isDigit h), h]

theorem isDecimal_of_isDigit {c : Char} (h : c.isDigit = true) : isDecimal c = true := by
  rw [isDecimal, if_pos (isAscii_of_isDigit h), h]

theorem decimalValue?_of_isDigit {c : Char} (h : c.isDigit = true) :
    decimalValue? c = some (c.toNat - '0'.toNat) := by
  rw [decimalValue?, if_pos (isAscii_of_isDigit h), if_pos h]

end FileQuery.Text

namespace FileQuery.Number

/-! ## 3. Numbers -/

theorem isDigit_of_mem_toDigits {n : Nat} {c : Char} (h : c ∈ Nat.toDigits 10 n) :
    c.isDigit = true :=
  Nat.isDigit_of_mem_toDigits (by decide) (by decide) h

theorem exists_toDigits (n : Nat) :
    ∃ c s, Nat.toDigits 10 n = c :: s ∧ ∀ d ∈ c :: s, d.isDigit = true := by
  obtain ⟨c, s, hdigits⟩ := List.exists_cons_of_ne_nil (Nat.toDigits_ne_nil (n := n) (b := 10))
  exact ⟨c, s, hdigits, fun d hd => isDigit_of_mem_toDigits (hdigits ▸ hd)⟩

theorem digitsValue?_of_isDigit {s : List Char} (h : ∀ c ∈ s, c.isDigit = true) (value : Nat) :
    digitsValue? value s = some (Nat.ofDigitChars 10 s value) := by
  induction s generalizing value with
  | nil => rfl
  | cons c s ih =>
    rw [List.forall_mem_cons] at h
    rw [digitsValue?, Text.decimalValue?_of_isDigit h.1, Nat.ofDigitChars_cons]
    exact ih h.2 _

theorem digitsValue?_toDigits (n : Nat) : digitsValue? 0 (Nat.toDigits 10 n) = some n := by
  rw [digitsValue?_of_isDigit fun c hc => isDigit_of_mem_toDigits hc,
    Nat.ofDigitChars_ten_toDigits]

/-- A number with few enough digits is read from them. -/
theorem readDigits_toDigits {n : Nat} (h : n < 10 ^ digitLimit) (shown : String) :
    readDigits shown (Nat.toDigits 10 n) = .ok n := by
  have hlength : (Nat.toDigits 10 n).length ≤ digitLimit :=
    (Nat.length_toDigits_le_iff (by decide) (by decide)).2 h
  have hdigits : (Nat.toDigits 10 n).any (fun c => (Text.decimalValue? c).isNone) = false := by
    rw [List.any_eq_false]
    intro c hc
    rw [Text.decimalValue?_of_isDigit (isDigit_of_mem_toDigits hc)]
    simp
  rw [readDigits, if_neg (by simp [Nat.toDigits_ne_nil]), if_neg (by simp [hdigits]),
    if_neg (Nat.not_lt.2 hlength), digitsValue?_toDigits]

theorem lt_of_digitsValue? {s : List Char} {value n : Nat} (h : digitsValue? value s = some n) :
    n < (value + 1) * 10 ^ s.length := by
  induction s generalizing value with
  | nil =>
    cases h
    simp
  | cons c s ih =>
    rw [digitsValue?] at h
    split at h
    · next d hd =>
      have hten := Text.lt_ten_of_decimalValue? hd
      calc
        n < (10 * value + d + 1) * 10 ^ s.length := ih h
        _ ≤ ((value + 1) * 10) * 10 ^ s.length := Nat.mul_le_mul_right _ (by omega)
        _ = (value + 1) * 10 ^ (s.length + 1) := by rw [Nat.mul_assoc, ← Nat.pow_succ']
    · cases h

theorem digitsValue?_of_readDigits {shown : String} {s : List Char} {n : Nat}
    (h : readDigits shown s = .ok n) : s.length ≤ digitLimit ∧ digitsValue? 0 s = some n := by
  unfold readDigits at h
  split at h
  · cases h
  · split at h
    · cases h
    · split at h
      · cases h
      · next hlength =>
        split at h
        · next hvalue =>
          cases h
          exact ⟨Nat.le_of_not_lt hlength, hvalue⟩
        · cases h

/-- A number that was read has few enough digits. -/
theorem lt_of_readDigits {shown : String} {s : List Char} {n : Nat}
    (h : readDigits shown s = .ok n) : n < 10 ^ digitLimit := by
  obtain ⟨hlength, hvalue⟩ := digitsValue?_of_readDigits h
  have hn := lt_of_digitsValue? hvalue
  rw [Nat.zero_add, Nat.one_mul] at hn
  exact Nat.lt_of_lt_of_le hn (Nat.pow_le_pow_right (by decide) hlength)

/-! ## 4. Digits that make up no number -/

/-- Why digits make up no number: one of them is no decimal digit, or there are too many of them. -/
inductive NoNumber (shown : String) (digits : List Char) : IntegerFault → Prop
  | foreign {c : Char} : c ∈ digits → Text.decimalValue? c = none →
      NoNumber shown digits (.malformed shown)
  | long : (∀ c ∈ digits, Text.decimalValue? c ≠ none) → digitLimit < digits.length →
      NoNumber shown digits (.tooLong digits.length)

theorem exists_digitsValue {digits : List Char} (h : ∀ c ∈ digits, Text.decimalValue? c ≠ none)
    (value : Nat) : ∃ n, digitsValue? value digits = some n := by
  induction digits generalizing value with
  | nil => exact ⟨value, rfl⟩
  | cons c digits ih =>
    rw [List.forall_mem_cons] at h
    obtain ⟨d, hd⟩ := Option.ne_none_iff_exists'.1 h.1
    rw [digitsValue?, hd]
    exact ih h.2 _

theorem readDigits_error_iff {shown : String} {digits : List Char} {fault : IntegerFault}
    (hne : digits ≠ []) : readDigits shown digits = .error fault ↔ NoNumber shown digits fault := by
  rw [readDigits, if_neg (by simpa using hne)]
  -- the characters are checked before their number is
  by_cases hforeign : ∃ c ∈ digits, Text.decimalValue? c = none
  · obtain ⟨c, hc, hnone⟩ := hforeign
    rw [if_pos (List.any_eq_true.2 ⟨c, hc, by rw [hnone]; rfl⟩)]
    constructor
    · intro h
      cases h
      exact .foreign hc hnone
    · rintro (⟨-, -⟩ | ⟨hall, -⟩)
      · rfl
      · exact absurd hnone (hall c hc)
  · have hall : ∀ c ∈ digits, Text.decimalValue? c ≠ none := fun c hc hnone =>
      hforeign ⟨c, hc, hnone⟩
    have hany : ¬digits.any (fun c => (Text.decimalValue? c).isNone) = true := by
      rw [List.any_eq_true]
      rintro ⟨c, hc, hnone⟩
      exact hall c hc (Option.isNone_iff_eq_none.1 hnone)
    rw [if_neg hany]
    by_cases hlong : digitLimit < digits.length
    · rw [if_pos hlong]
      constructor
      · intro h
        cases h
        exact .long hall hlong
      · rintro (⟨hc, hnone⟩ | ⟨-, -⟩)
        · exact absurd hnone (hall _ hc)
        · rfl
    · rw [if_neg hlong]
      obtain ⟨n, hn⟩ := exists_digitsValue hall 0
      rw [hn]
      constructor
      · intro h
        cases h
      · rintro (⟨hc, hnone⟩ | ⟨-, h⟩)
        · exact absurd hnone (hall _ hc)
        · exact absurd h hlong

/-- Digits of ASCII make up a number unless there are too many of them. -/
theorem tooLong_of_readDigits {shown : String} {digits : List Char} {fault : IntegerFault}
    (hne : digits ≠ []) (hdigits : ∀ c ∈ digits, c.isDigit = true)
    (h : readDigits shown digits = .error fault) :
    digitLimit < digits.length ∧ fault = .tooLong digits.length := by
  cases (readDigits_error_iff hne).1 h with
  | foreign hc hnone =>
    rw [Text.decimalValue?_of_isDigit (hdigits _ hc)] at hnone
    cases hnone
  | long _ hlong => exact ⟨hlong, rfl⟩

/-! ## 5. The values of digits -/

/-- The value of digits of any script is that of their values in base ten. -/
theorem digitsValue?_of_values {digits : List Char} {values : List Nat}
    (h : digits.map Text.decimalValue? = values.map some) (value : Nat) :
    digitsValue? value digits = some (Nat.ofDigits 10 (values.reverse ++ [value])) := by
  induction digits generalizing value values with
  | nil =>
    cases values with
    | nil => simp [digitsValue?]
    | cons d values => cases h
  | cons c digits ih =>
    cases values with
    | nil => cases h
    | cons d values =>
      rw [List.map_cons, List.map_cons, List.cons.injEq] at h
      rw [digitsValue?, h.1]
      show digitsValue? (10 * value + d) digits = _
      rw [ih h.2, List.reverse_cons, List.append_assoc, Nat.ofDigits_append, Nat.ofDigits_append]
      -- what has been read so far counts like one more digit in front
      have hfirst : Nat.ofDigits 10 [10 * value + d] = Nat.ofDigits 10 ([d] ++ [value]) := by
        simp only [List.singleton_append, Nat.ofDigits_cons, Nat.ofDigits_nil]
        omega
      rw [hfirst]

theorem exists_values {digits : List Char} {value n : Nat} (h : digitsValue? value digits = some n) :
    ∃ values : List Nat, digits.map Text.decimalValue? = values.map some := by
  induction digits generalizing value with
  | nil => exact ⟨[], rfl⟩
  | cons c digits ih =>
    rw [digitsValue?] at h
    split at h
    · next d hd =>
      obtain ⟨values, hvalues⟩ := ih h
      exact ⟨d :: values, by rw [List.map_cons, List.map_cons, hd, hvalues]⟩
    · cases h

/-- A number that was read is the value of its digits. -/
theorem values_of_readDigits {shown : String} {digits : List Char} {n : Nat}
    (h : readDigits shown digits = .ok n) :
    ∃ values : List Nat, digits.map Text.decimalValue? = values.map some ∧
      n = Nat.ofDigits 10 values.reverse := by
  obtain ⟨-, hvalue⟩ := digitsValue?_of_readDigits h
  obtain ⟨values, hvalues⟩ := exists_values hvalue
  rw [digitsValue?_of_values hvalues, Nat.ofDigits_append, Nat.ofDigits_singleton, Nat.mul_zero,
    Nat.add_zero] at hvalue
  cases hvalue
  exact ⟨values, hvalues, rfl⟩

/-- Few enough digits with values are read as the number that they make up. -/
theorem readDigits_of_values {shown : String} {digits : List Char} {values : List Nat}
    (hne : digits ≠ []) (hlength : digits.length ≤ digitLimit)
    (h : digits.map Text.decimalValue? = values.map some) :
    readDigits shown digits = .ok (Nat.ofDigits 10 values.reverse) := by
  have hvalue := digitsValue?_of_values h 0
  rw [Nat.ofDigits_append, Nat.ofDigits_singleton, Nat.mul_zero, Nat.add_zero] at hvalue
  cases hread : readDigits shown digits with
  | error fault =>
    exfalso
    cases (readDigits_error_iff hne).1 hread with
    | foreign hc hnone =>
      have hmem := List.mem_map_of_mem (f := Text.decimalValue?) hc
      rw [h, hnone] at hmem
      simp at hmem
    | long _ hlong => exact absurd hlength (Nat.not_le_of_lt hlong)
  | ok n =>
    rw [(digitsValue?_of_readDigits hread).2] at hvalue
    cases hvalue
    rfl

theorem isDecimal_of_digitsValue? {s : List Char} {value n : Nat}
    (h : digitsValue? value s = some n) : ∀ c ∈ s, Text.isDecimal c = true := by
  induction s generalizing value with
  | nil => exact nofun
  | cons c s ih =>
    rw [digitsValue?] at h
    split at h
    · next d hd =>
      have hfirst : Text.isDecimal c = true := by
        rw [← Text.isSome_decimalValue?, hd]
        rfl
      exact List.forall_mem_cons.2 ⟨hfirst, ih h⟩
    · cases h

/-! ## 6. Written integers -/

theorem natAbs_lt_of_isWritable {i : Int} (h : isWritable i = true) :
    i.natAbs < 10 ^ digitLimit := by
  rw [isWritable] at h
  -- the power is too great to be multiplied out
  generalize digitLimit = limit at h ⊢
  exact of_decide_eq_true h

/-- Only zero is written with a zero in front. -/
theorem head?_toDigits_ne {n : Nat} (h : 0 < n) : (Nat.toDigits 10 n).head? ≠ some '0' := by
  induction n using Nat.strongRecOn with
  | _ n ih =>
    by_cases hsmall : n < 10
    · have hdigit : ∀ m < 10, 0 < m → [Nat.digitChar m].head? ≠ some '0' := by decide
      rw [Nat.toDigits_of_lt_base hsmall]
      exact hdigit n hsmall h
    · have hquotient : 0 < n / 10 := Nat.div_pos (by omega) (by decide)
      have hhead := ih (n / 10) (Nat.div_lt_self h (by decide)) hquotient
      obtain ⟨c, digits, hdigits, -⟩ := exists_toDigits (n / 10)
      rw [Nat.toDigits_of_base_le (by decide) (by omega), hdigits]
      rw [hdigits] at hhead
      exact hhead

def signOf (i : Int) : List Char := if i < 0 then ['-'] else []

theorem toList_toString (i : Int) :
    (toString i).toList = signOf i ++ Nat.toDigits 10 i.natAbs := by
  cases i with
  | ofNat n =>
    have hsign : ¬(Int.ofNat n < 0) := Int.not_lt.2 (Int.natCast_nonneg n)
    rw [signOf, if_neg hsign]
    show (toString n).toList = _
    simp
  | negSucc n =>
    rw [signOf, if_pos (Int.negSucc_lt_zero n)]
    show ("-" ++ toString (n + 1)).toList = _
    simp

theorem readInteger_toString {i : Int} (h : isWritable i = true) (shown : String) :
    readInteger shown (toString i).toList = .ok i := by
  have hread := readDigits_toDigits (natAbs_lt_of_isWritable h) shown
  obtain ⟨c, digits, hdigits, hall⟩ := exists_toDigits i.natAbs
  have hc := hall c List.mem_cons_self
  rw [toList_toString, signOf]
  by_cases hneg : i < 0
  · have hvalue : -(i.natAbs : Int) = i := by omega
    rw [if_pos hneg, List.singleton_append, readInteger, hread]
    show Except.ok (-(i.natAbs : Int)) = _
    rw [hvalue]
  · have hvalue : (i.natAbs : Int) = i := by omega
    rw [if_neg hneg, List.nil_append, hdigits]
    rw [hdigits] at hread
    rw [readInteger, hread]
    · show Except.ok (i.natAbs : Int) = _
      rw [hvalue]
    · -- the first digit is no sign
      rintro rest ⟨⟩
      cases hc
    · rintro rest ⟨⟩
      cases hc

end FileQuery.Number
